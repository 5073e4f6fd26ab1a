import PromptTemplate.Definition.Export
import PromptTemplate.Proofs.Definition.Entries
import PromptTemplate.Proofs.Definition.Sync

namespace PromptTemplate

namespace Definition

section Checks

variable (path : List Step)

theorem checkKey_written {key : Text} (h : isKey key) :
    checkKey path (some (readBytes (.text key))) = .ok key := by
  simp [readBytes, checkKey, h]

theorem checkLabel_written {label : Text} (h : label ≠ []) :
    checkLabel path (some (readBytes (.text label))) = .ok label := by
  simp [readBytes, checkLabel, h]

theorem checkFlag_written (b : Bool) : checkFlag path (some (readBytes (.bool b))) = .ok b :=
  rfl

theorem checkTexts_written (i : Nat) (ts : List Text) :
    checkTexts path i (ts.map Value.text) = (ts, []) := by
  induction ts generalizing i with
  | nil => rfl
  | cons t ts ih => simp [checkTexts, readBytes, ih]

theorem checkPreset_written (p : Option Preset) :
    checkPreset path ((p.map Preset.toValue).map readBytes) = .ok p := by
  cases p with
  | none => rfl
  | some p =>
      cases p with
      | text t => rfl
      | int n => rfl
      | float x => rfl
      | texts ts => simp [Preset.toValue, readBytes, checkPreset, checkTextList, checkTexts_written]

theorem choiceOfValue_written (c : Choice) : choiceOfValue path c.toValue = .ok c := by
  simp [Choice.toValue, choiceOfValue, Value.textEntries?, Assoc.get?, checkChoice, readBytes]

theorem checkChoices_written (i : Nat) (cs : List Choice) :
    checkChoices path i (cs.map Choice.toValue) = (cs, []) := by
  induction cs generalizing i with
  | nil => rfl
  | cons c cs ih => simp [checkChoices, choiceOfValue_written, ih]

theorem checkOptions_written (options : Option (List Choice)) :
    checkOptions path ((options.map fun cs => .list (cs.map Choice.toValue)).map readBytes) =
      .ok options := by
  cases options with
  | none => rfl
  | some cs => simp [readBytes, checkOptions, checkChoiceList, checkChoices_written]

theorem checkType_written (type : VariableType) :
    checkType path (some (readBytes (.text type.name))) = .ok type := by
  simp [readBytes, checkType, VariableType.ofName?_name]

theorem checkFormat_written (format : Option SequenceFormat) :
    checkFormat path ((format.map fun f => .text f.name).map readBytes) = .ok format := by
  cases format with
  | none => rfl
  | some f => simp [readBytes, checkFormat, SequenceFormat.ofName?_name]

theorem checkText_written (t : Option Text) :
    checkText path ((t.map Value.text).map readBytes) = .ok t := by
  cases t <;> rfl

theorem checkNumber_written (x : Option Binary64) :
    checkNumber path ((x.map Value.float).map readBytes) = .ok x := by
  cases x <;> rfl

end Checks

theorem get?_entry (key : Text) (name : String) (v : Value) :
    Assoc.get? key (entry name v) = if name.toList = key then some v else none :=
  rfl

theorem get?_optionalEntry {α : Type} (key : Text) (name : String) (f : α → Value) (a : Option α) :
    Assoc.get? key (optionalEntry name f a) = if name.toList = key then a.map f else none := by
  cases a with
  | none => simp [optionalEntry, Assoc.get?]
  | some a => exact get?_entry key name (f a)

variable {raw : Value} {d : Definition}

theorem readFrom_entries (hkey : isKey d.key) (hlabel : d.label ≠ [])
    (hrules : brokenRule? d = none) : d.ReadFrom d.entries := by
  constructor
  case rules => exact hrules
  all_goals
    simp only [field, entries, Assoc.get?_append, get?_entry, get?_optionalEntry]
    simp [-Option.map_map, checkKey_written _ hkey, checkLabel_written _ hlabel, checkType_written,
      checkPreset_written, checkFormat_written, checkOptions_written, checkFlag_written,
      checkText_written, checkNumber_written]

theorem ofValue_toValue (h : ofValue raw = .ok d) : ofValue d.toValue = .ok d := by
  obtain ⟨entries, hread⟩ := readFrom_of_ofValue h
  have hkey := isKey_of_checkKey hread.key
  have hlabel := ne_nil_of_checkLabel hread.label
  exact ofEntries_of_readFrom (readFrom_entries hkey hlabel hread.rules)

theorem Accepted.ofValue_toValue (h : d.Accepted) : ofValue d.toValue = .ok d := by
  obtain ⟨raw, hraw⟩ := h
  exact Definition.ofValue_toValue hraw

variable {ds : List Definition}

theorem ofEntriesFrom_toValue (hds : ∀ d ∈ ds, d.Accepted) (hkeys : (ds.map (·.key)).Nodup)
    (i : Nat) {seen : Assoc Nat} (hseen : ∀ d ∈ ds, seen.get? d.key = none) :
    ofEntriesFrom i seen (ds.map toValue) = (ds, []) := by
  have hread : List.Forall₂ (fun v d => ofValue v = .ok d) (ds.map toValue) ds := by
    rw [List.forall₂_map_left_iff, List.forall₂_same]
    exact fun d hd => (hds d hd).ofValue_toValue
  exact ofEntriesFrom_of_distinct hread hkeys i hseen

theorem synced_written_and_read (hds : ∀ d ∈ ds, d.Accepted) (hkeys : (ds.map (·.key)).Nodup)
    (t : Text) :
    ofVariables (some (.list ((sync ds t).map toValue))) = (sync ds t, []) ∧
    ∀ raw d, ofValue raw = .ok d → ofValue d.toValue = .ok d := by
  have haccepted : ∀ d ∈ sync ds t, d.Accepted := fun d => accepted_of_mem_sync hds hkeys
  have hread : ofVariables (some (.list ((sync ds t).map toValue))) = (sync ds t, []) :=
    ofEntriesFrom_toValue haccepted (nodup_keys_sync hkeys t) 0 fun _ _ => rfl
  exact ⟨hread, fun _ _ => ofValue_toValue⟩

theorem synced_written_and_read_with_new_key :
    let raw : Value := .dict [("key".toList, .bytes [116]), ("label".toList, .text ['T']),
      ("type".toList, .text "multi-select".toList), ("default".toList, .tuple [.text ['a']]),
      ("format".toList, .text "bullet".toList), ("preview".toList, .bool true),
      ("required".toList, .text "Yes".toList), ("min".toList, .int 2),
      ("options".toList, .tuple [.text ['a'], .int 7, .dict [("value".toList, .text ['b'])],
        .dict [("value".toList, .text ['c']), ("label".toList, .text ['C'])]])]
    let d : Definition :=
      { plain ['t'] ['T'] with
        type := .multiSelect, default := some (.texts [['a']]), format := some .bullet
        preview := some (.int 1), required := true, min := some (.ofInt 2)
        options := some [⟨['a'], ['a']⟩, ⟨['7'], ['7']⟩, ⟨['b'], ['b']⟩, ⟨['C'], ['c']⟩] }
    let t : Text := "\x7b\x7bn\x7d\x7d \x7b\x7bt\x7d\x7d".toList
    ofValue raw = .ok d ∧ ofValue d.toValue = .ok d ∧
    ofVariables (some (.list ((sync [d] t).map toValue))) = ([plain ['n'] ['N'], d], []) := by
  intro raw d t
  have hraw : ofValue raw = .ok d := by decide +kernel
  have hds : ∀ d' ∈ [d], d'.Accepted := List.forall_mem_singleton.mpr ⟨raw, hraw⟩
  have hsync : sync [d] t = [plain ['n'] ['N'], d] := by decide +kernel
  obtain ⟨hread, hagain⟩ := synced_written_and_read hds (by decide) t
  refine ⟨hraw, hagain raw d hraw, hread.trans ?_⟩
  rw [hsync]

end Definition

end PromptTemplate
