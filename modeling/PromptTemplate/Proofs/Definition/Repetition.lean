import PromptTemplate.Proofs.Definition.Defaults
import PromptTemplate.Proofs.Definition.Sync

namespace PromptTemplate

namespace Definition

theorem first?_map_chosen (ds : List Definition) {keys : List Text} {key : Text}
    (h : key ∈ keys) : first? (keys.map (chosen ds)) key = some (chosen ds key) := by
  have hkeyed : (keys.map (chosen ds)).map (fun d => (d.key, d)) =
      keys.map fun key => (key, chosen ds key) := by
    rw [List.map_map]
    simp [Function.comp_def, key_chosen]
  rw [first?, ← get?_keyed, hkeyed, Assoc.get?_map, if_pos h]

/-- Of several definitions of a key, evaluation takes the first, a list brought in line with a
template that names the key has the last, and a preview value and a default value come from the last
one that has such a value. There is no difference if they are all the same. -/
theorem repeated_definitions (ds : List Definition) (key : Text) :
    (∀ (e : Engine) (context : Assoc Value),
      (e.setting context (Index.ofDefinitions ds)).scope.definition? key = first? ds key) ∧
    (∀ t, key ∈ Token.variableKeys t → first? (sync ds t) key =
      some ((last? ds key).getD (plain key (Text.labelOfKey key)))) ∧
    (previewValues ds).get? key = ((lastGiving? shown ds key).bind shown).map Preset.toValue ∧
    (defaultValues ds).get? key =
      ((lastGiving? (·.default) ds key).bind (·.default)).map Preset.toValue ∧
    ∀ d, Sole ds key d → first? ds key = some d ∧ last? ds key = some d ∧
      (previewValues ds).get? key = d.shown.map Preset.toValue ∧
      (defaultValues ds).get? key = d.default.map Preset.toValue := by
  have hvalues (f : Definition → Option Preset) := get?_entriesBy_last f ds key
  refine ⟨?_, ?_, hvalues shown, hvalues (·.default), ?_⟩
  · intro e context
    exact Index.get?_ofDefinitions ds key
  · intro t hnamed
    rw [sync_eq_last, first?_map_chosen _ hnamed]
    rfl
  · intro d hd
    refine ⟨hd.first?, hd.reverse.first?, ?_, ?_⟩
    · rw [previewValues, hvalues, hd.lastGiving?]
    · rw [defaultValues, hvalues, hd.lastGiving?]

theorem second_definition_taken :
    let one : Definition := { plain ['a'] ['A'] with default := some (.text ['x']) }
    let two : Definition := { plain ['a'] ['B'] with default := some (.text ['y']) }
    let template := PromptTemplate.placeholder ['a']
    one.Accepted ∧ two.Accepted ∧ (Index.ofDefinitions [one, two]).get? ['a'] = some one ∧
    (Engine.default.render template [] (Index.ofDefinitions [one, two])).1 = .ok ['x'] ∧
    sync [one, two] template = [two] ∧
    (previewValues [one, two]).get? ['a'] = some (.text ['y']) ∧
    (defaultValues [one, two]).get? ['a'] = some (.text ['y']) := by
  intro one two template
  let raw (label default : Text) : Value := .dict [("key".toList, .text ['a']),
    ("label".toList, .text label), ("default".toList, .text default)]
  have hone : one.Accepted := ⟨raw ['A'] ['x'], by decide +kernel⟩
  have htwo : two.Accepted := ⟨raw ['B'] ['y'], by decide +kernel⟩
  have hrender : (Engine.default.render template [] (Index.ofDefinitions [one, two])).1 =
      .ok ['x'] := by
    decide +kernel
  have hsync : sync [one, two] template = [two] := by decide +kernel
  exact ⟨hone, htwo, by decide, hrender, hsync, rfl, rfl⟩

end Definition

end PromptTemplate
