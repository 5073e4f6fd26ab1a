import Mathlib.Data.List.Basic
import PromptTemplate.Proofs.Definition.Choice
import PromptTemplate.Proofs.Evaluation.Source
import PromptTemplate.Variables

namespace PromptTemplate

namespace Value

theorem toText_of_isEmpty {v : Value} (h : v.isEmpty) (definition : Option Definition)
    (format : SequenceFormat) :
    toText definition format v = [] ∧ toText definition format v.escape = [] := by
  have hserialize (f : SequenceFormat) : f.serialize [] = [] := by
    cases f <;> rfl
  cases v with
  | text t =>
      obtain rfl : t = [] := List.isEmpty_iff.mp h
      exact ⟨rfl, rfl⟩
  | list items =>
      obtain rfl : items = [] := List.isEmpty_iff.mp h
      exact ⟨hserialize _, hserialize _⟩
  | tuple items =>
      obtain rfl : items = [] := List.isEmpty_iff.mp h
      exact ⟨hserialize _, hserialize _⟩
  | _ => cases h

end Value

namespace Scope

def outcome (s : Scope) (key : Text) : Resolved :=
  match (s.value? key).map Prod.fst with
  | none => ⟨key, .none, placeholder key, placeholder key, .unresolved⟩
  | some v =>
      let toText := Value.toText (s.definition? key) s.format
      ⟨key, v, toText v, toText v.escape, .explicit⟩

theorem state_of_value? {s : Scope} {key : Text} {v : Value} {state : DisplayState}
    (h : s.value? key = some (v, state)) : state ≠ .unresolved := by
  unfold value? at h
  split at h
  · cases h
    decide
  · obtain ⟨p, -, heq⟩ := Option.map_eq_some_iff.mp h
    cases heq
    decide

theorem unsourced_resolve (s : Scope) (key : Text) :
    (s.resolve key).unsourced = s.outcome key := by
  unfold resolve outcome
  cases hvalue : s.value? key with
  | none => rfl
  | some found =>
      obtain ⟨v, state⟩ := found
      have hresolved (text display : Text) :
          Resolved.unsourced ⟨key, v, text, display, state⟩ =
            ⟨key, v, text, display, .explicit⟩ := by
        simp [Resolved.unsourced, Resolved.isResolved, state_of_value? hvalue]
      by_cases hbare : isBare v state
      · have hempty : v.isEmpty := by
          simp only [isBare, Bool.and_eq_true] at hbare
          exact hbare.2
        obtain ⟨htext, hescape⟩ := Value.toText_of_isEmpty hempty (s.definition? key) s.format
        simp only [hbare, if_true, hresolved, Option.map_some, htext, hescape]
      · simp only [hbare, Bool.false_eq_true, if_false, hresolved, Option.map_some]

end Scope

namespace Definition

variable {ds : List Definition} {key : Text} {d : Definition}

def given (f : Definition → Option Preset) (ds : List Definition) : Assoc Value :=
  ds.filterMap fun d => (f d).map fun p => (d.key, p.toValue)

def lastGiving? (f : Definition → Option Preset) (ds : List Definition) (key : Text) :
    Option Definition :=
  last? (ds.filter fun d => (f d).isSome) key

theorem get?_given (f : Definition → Option Preset) (ds : List Definition) (key : Text) :
    (given f ds).get? key =
      ((first? (ds.filter fun d => (f d).isSome) key).bind f).map Preset.toValue := by
  induction ds with
  | nil => rfl
  | cons d ds ih =>
      rw [given] at ih ⊢
      cases hpreset : f d with
      | none => simpa [hpreset] using ih
      | some p =>
          by_cases hkey : d.key = key
          · simp [hpreset, hkey, first?, Assoc.get?]
          · simpa [hpreset, hkey, first?, Assoc.get?] using ih

theorem get?_entriesBy_last (f : Definition → Option Preset) (ds : List Definition) (key : Text) :
    (entriesBy f ds).get? key = ((lastGiving? f ds key).bind f).map Preset.toValue := by
  have hreverse : (given f ds).reverse = given f ds.reverse := List.filterMap_reverse.symm
  have hlist : entriesBy f ds = Assoc.ofList (given f ds) := rfl
  rw [hlist, Assoc.get?_ofList_reverse, hreverse, get?_given, List.filter_reverse]
  rfl

theorem Sole.lastGiving? (h : Sole ds key d) (f : Definition → Option Preset) :
    (lastGiving? f ds key).bind f = f d := by
  obtain ⟨hmem, hkey, honly⟩ := h
  cases hpreset : f d with
  | none =>
      cases hlast : Definition.lastGiving? f ds key with
      | none => rfl
      | some d' =>
          obtain ⟨hthere, hkey'⟩ := mem_of_first? hlast
          obtain ⟨hmem', hgives⟩ := List.mem_filter.mp (List.mem_reverse.mp hthere)
          rw [honly d' hmem' hkey', hpreset] at hgives
          cases hgives
  | some p =>
      have hfiltered : Sole (ds.filter fun d => (f d).isSome) key d := by
        refine ⟨List.mem_filter.mpr ⟨hmem, by rw [hpreset]; rfl⟩, hkey, ?_⟩
        intro d' hd'
        exact honly d' (List.mem_filter.mp hd').1
      have hlast : Definition.lastGiving? f ds key = some d := hfiltered.reverse.first?
      rw [hlast]
      exact hpreset

theorem get?_entriesBy (f : Definition → Option Preset) (h : (ds.map (·.key)).Nodup) (key : Text) :
    (entriesBy f ds).get? key = ((first? ds key).bind f).map Preset.toValue := by
  rw [get?_entriesBy_last]
  cases hfirst : first? ds key with
  | none =>
      have hnone : lastGiving? f ds key = none := by
        rw [lastGiving?, last?, first?_eq_none_iff]
        intro d hd
        exact first?_eq_none_iff.mp hfirst d (List.mem_filter.mp (List.mem_reverse.mp hd)).1
      rw [hnone]
  | some d =>
      rw [(sole_of_first? h hfirst).lastGiving? f]
      rfl

theorem value?_supplied {context : Assoc Value} (hds : (ds.map (·.key)).Nodup)
    (hcontext : context.keys.Nodup) (format : SequenceFormat) (key : Text) :
    let index := Index.ofDefinitions ds
    (Scope.value? ⟨(defaultValues ds).merge context, index, format⟩ key).map Prod.fst =
      (Scope.value? ⟨context, index, format⟩ key).map Prod.fst := by
  intro index
  have hdefault : (defaultValues ds).get? key =
      ((index.get? key).bind (·.default)).map Preset.toValue := by
    rw [defaultValues, get?_entriesBy _ hds, Index.get?_ofDefinitions]
    rfl
  unfold Scope.value? Scope.definition?
  simp only [Assoc.get?_merge hcontext, hdefault]
  cases hvalue : context.get? key with
  | some v => rfl
  | none =>
      cases hgiven : (index.get? key).bind (·.default) with
      | none => rfl
      | some p => cases p <;> rfl

theorem same_when_supplied {context : Assoc Value} (hds : (ds.map (·.key)).Nodup)
    (hcontext : context.keys.Nodup) (e : Engine) (keys : List Text) :
    (e.setting ((defaultValues ds).merge context) (Index.ofDefinitions ds)).SameOn
      (e.setting context (Index.ofDefinitions ds)) keys := by
  refine ⟨rfl, fun key _ => ?_⟩
  have hvalue := value?_supplied hds hcontext e.settings.format key
  rw [Scope.unsourced_resolve, Scope.unsourced_resolve]
  unfold Scope.outcome Engine.setting
  rw [hvalue]
  rfl

/-- Where no key is declared or supplied twice, values may be completed by the defaults of the
definitions: the text stays the same, and so does the preview, but that it then reports the defaults
as supplied. Every block of the template takes the same branch, also where a condition that misreads
a numeral ends the evaluation. -/
theorem defaults_may_be_supplied {context : Assoc Value} (hds : (ds.map (·.key)).Nodup)
    (hcontext : context.keys.Nodup) (e : Engine) (template : Text) :
    let completed := (defaultValues ds).merge context
    let index := Index.ofDefinitions ds
    (e.render template completed index).1 = (e.render template context index).1 ∧
    (e.annotate template completed index).1.map Preview.unsourced =
      (e.annotate template context index).1.map Preview.unsourced ∧
    ∀ t, e.parse template = .ok t →
      (∀ o ∈ t.body.openings,
        (e.setting completed index).verdict o = (e.setting context index).verdict o) ∧
      (e.setting completed index).shown t.body = (e.setting context index).shown t.body := by
  intro completed index
  have hsame (keys : List Text) := same_when_supplied hds hcontext e keys
  refine ⟨?_, ?_, fun t _ => ⟨fun o _ => (hsame o.keys).verdict, ?_⟩⟩
  · exact Engine.render_congr fun t _ => hsame _
  · exact Engine.annotate_congr rfl fun t _ => hsame _
  · exact (Setting.SameOn.shown (hsame _)).1.symm

theorem defaults_may_be_supplied_when_empty :
    let ds : List Definition :=
      [{ plain ['a'] ['A'] with default := some (.text []) },
       { plain ['b'] ['B'] with
          type := .array, default := some (.texts [['x'], ['y']]), format := some .bullet },
       { plain ['n'] ['N'] with default := some (.int 7) }]
    let context : Assoc Value := [(['b'], .none), (['c'], .text ['z'])]
    let template := ("\x7b\x7b#if a\x7d\x7da\x7b\x7belse\x7d\x7d\x7b\x7bb\x7d\x7d" ++
      "\x7b\x7b/if\x7d\x7d\x7b\x7b#if (gt n \"5\")\x7d\x7d\x7b\x7bn\x7d\x7d" ++
      "\x7b\x7bc\x7d\x7d\x7b\x7b/if\x7d\x7d").toList
    let completed := (defaultValues ds).merge context
    completed.keys = [['a'], ['b'], ['n'], ['c']] ∧
    (Engine.default.render template completed (Index.ofDefinitions ds)).1 =
      .ok "- x\n- y7z".toList := by
  intro ds context template completed
  have hds : (ds.map (·.key)).Nodup := by decide
  have hcontext : context.keys.Nodup := by decide
  obtain ⟨hrender, -⟩ := defaults_may_be_supplied hds hcontext Engine.default template
  refine ⟨by decide, hrender.trans ?_⟩
  decide +kernel

end Definition

end PromptTemplate
