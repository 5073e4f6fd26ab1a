import Mathlib.Data.List.Basic
import Mathlib.Tactic.Tauto
import PromptTemplate.Definition.Validation
import PromptTemplate.Tag

namespace PromptTemplate

namespace Binary64

theorem compare?_swap (x y : Binary64) : compare? y x = (compare? x y).map Ordering.swap := by
  cases x with
  | nan => cases y <;> rfl
  | infinity a =>
      cases y with
      | nan => rfl
      | infinity b => cases a <;> cases b <;> rfl
      | finite b n f => cases a <;> rfl
  | finite a m e =>
      cases y with
      | nan => rfl
      | infinity b => cases b <;> rfl
      | finite b n f =>
          simp only [compare?, Option.map_some, Int.min_comm f e]
          exact congrArg some (Std.OrientedCmp.eq_swap)

theorem compare?_eq_none_iff (x y : Binary64) : compare? x y = none ↔ x = .nan ∨ y = .nan := by
  cases x <;> cases y <;> simp [compare?]

theorem lt_iff_of_not_le {x y : Binary64} (h : y.le x = false) :
    x.lt y ↔ x ≠ .nan ∧ y ≠ .nan := by
  have hsome : compare? x y ≠ none ↔ x ≠ .nan ∧ y ≠ .nan := by
    rw [Ne, compare?_eq_none_iff, not_or]
  rw [← hsome]
  unfold le lt same at h
  rw [compare?_swap] at h
  unfold lt
  cases hcompare : compare? x y with
  | none => simp
  | some o =>
      rw [hcompare] at h
      cases o with
      | lt => simp
      | eq => cases h
      | gt => cases h

end Binary64

theorem Tag.isKeyStart_iff (c : Char) : isKeyStart c ↔ c.isAlpha ∨ c = '_' := by
  have hlower : ('a' ≤ c && c ≤ 'z') = c.isLower := rfl
  have hupper : ('A' ≤ c && c ≤ 'Z') = c.isUpper := (Bool.decide_and ..).symm
  have halpha : c.isAlpha = (c.isUpper || c.isLower) := rfl
  simp only [isKeyStart, hlower, hupper, halpha, Bool.or_eq_true, decide_eq_true_eq]
  tauto

namespace Definition

def field (entries : Assoc Value) (name : String) : Option Value :=
  (entries.get? name.toList).map readBytes

structure ReadFrom (entries : Assoc Value) (d : Definition) : Prop where
  key : checkKey [.name "key".toList] (field entries "key") = .ok d.key
  label : checkLabel [.name "label".toList] (field entries "label") = .ok d.label
  type : checkType [.name "type".toList] (field entries "type") = .ok d.type
  default : checkPreset [.name "default".toList] (field entries "default") = .ok d.default
  format : checkFormat [.name "format".toList] (field entries "format") = .ok d.format
  options : checkOptions [.name "options".toList] (field entries "options") = .ok d.options
  required : checkFlag [.name "required".toList] (field entries "required") = .ok d.required
  placeholder :
    checkText [.name "placeholder".toList] (field entries "placeholder") = .ok d.placeholder
  description :
    checkText [.name "description".toList] (field entries "description") = .ok d.description
  preview : checkPreset [.name "preview".toList] (field entries "preview") = .ok d.preview
  min : checkNumber [.name "min".toList] (field entries "min") = .ok d.min
  max : checkNumber [.name "max".toList] (field entries "max") = .ok d.max
  step : checkNumber [.name "step".toList] (field entries "step") = .ok d.step
  rules : brokenRule? d = none

theorem checkRules_eq_ok_iff (d d' : Definition) :
    checkRules d = .ok d' ↔ d = d' ∧ brokenRule? d = none := by
  unfold checkRules
  cases brokenRule? d <;> simp [Checked.fail]

theorem readFrom_of_ofEntries {entries : Assoc Value} {d : Definition}
    (h : ofEntries entries = .ok d) : d.ReadFrom entries := by
  unfold ofEntries at h
  dsimp only at h
  split at h
  · rename_i hkey hlabel htype hdefault hformat hoptions hrequired hplaceholder hdescription
      hpreview hmin hmax hstep
    obtain ⟨rfl, hrules⟩ := (checkRules_eq_ok_iff _ _).mp h
    exact ⟨hkey, hlabel, htype, hdefault, hformat, hoptions, hrequired, hplaceholder,
      hdescription, hpreview, hmin, hmax, hstep, hrules⟩
  · cases h

theorem ofEntries_of_readFrom {entries : Assoc Value} {d : Definition} (h : d.ReadFrom entries) :
    ofEntries entries = .ok d := by
  obtain ⟨hkey, hlabel, htype, hdefault, hformat, hoptions, hrequired, hplaceholder,
    hdescription, hpreview, hmin, hmax, hstep, hrules⟩ := h
  unfold field at *
  simp only [ofEntries, hkey, hlabel, htype, hdefault, hformat, hoptions, hrequired,
    hplaceholder, hdescription, hpreview, hmin, hmax, hstep]
  exact (checkRules_eq_ok_iff d d).mpr ⟨rfl, hrules⟩

theorem isKeyChar_eq (c : Char) : isKeyChar c = Tag.isKeyChar c := by
  unfold isKeyChar Tag.isKeyChar Tag.isKeyStart
  ac_rfl

theorem isKeyChar_iff (c : Char) : isKeyChar c ↔ c.isAlphanum ∨ c = '_' ∨ c = '-' := by
  have hdigit : ('0' ≤ c && c ≤ '9') = c.isDigit := rfl
  have halphanum : c.isAlphanum = (c.isAlpha || c.isDigit) := rfl
  simp only [isKeyChar_eq, Tag.isKeyChar, hdigit, halphanum, Bool.or_eq_true, Tag.isKeyStart_iff,
    decide_eq_true_eq]
  tauto

theorem isKey_iff (t : Text) :
    isKey t ↔ t ≠ [] ∧ t.length ≤ 50 ∧ ∀ c ∈ t, c.isAlphanum ∨ c = '_' ∨ c = '-' := by
  have hlength : decide (t.length ≤ maxKeyLength) = true ↔ t.length ≤ 50 := decide_eq_true_iff
  simp only [isKey, Bool.and_eq_true, hlength, List.all_eq_true, isKeyChar_iff, and_assoc]
  simp

theorem isKey_of_checkKey {path : List Step} {v : Option Value} {t : Text}
    (h : checkKey path v = .ok t) : isKey t := by
  unfold checkKey at h
  split at h
  · cases h
  · split at h
    · rename_i hkey
      cases h
      exact hkey
    · cases h
  · cases h

theorem ne_nil_of_checkLabel {path : List Step} {v : Option Value} {t : Text}
    (h : checkLabel path v = .ok t) : t ≠ [] := by
  unfold checkLabel at h
  split at h
  · cases h
  · split at h
    · cases h
    · rename_i hempty
      cases h
      simpa using hempty
  · cases h

def SliderChecked (d : Definition) : Prop :=
  ∃ low high, d.min = some low ∧ d.max = some high ∧ high.le low = false ∧
    ∀ step ∈ d.step, step.le .zero = false

theorem brokenRule?_of_slider {d : Definition} (htype : d.type = .slider) :
    brokenRule? d = none ↔ d.SliderChecked ∧ d.format = none := by
  have hsequence : d.isSequence = false := by
    rw [isSequence, htype]
    rfl
  unfold SliderChecked
  simp only [brokenRule?, htype, hsequence, VariableType.needsOptions]
  cases d.min with
  | none => simp
  | some low =>
      cases d.max with
      | none => simp
      | some high =>
          cases hbounds : high.le low with
          | true => simp [hbounds]
          | false =>
              cases d.step with
              | none => cases d.format <;> simp [hbounds]
              | some step => cases hstep : step.le .zero <;> cases d.format <;> simp [hbounds, hstep]

theorem brokenRule?_of_ne_slider {d : Definition} (htype : d.type ≠ .slider) :
    brokenRule? d = none ↔
      (d.type.needsOptions → d.options.getD [] ≠ []) ∧ (d.format.isSome → d.isSequence) := by
  unfold brokenRule?
  simp only [htype, if_false]
  cases hmissing : d.type.needsOptions && (d.options.getD []).isEmpty with
  | true =>
      simp only [Bool.and_eq_true, List.isEmpty_iff] at hmissing
      simp [hmissing]
  | false =>
      have hgiven : d.type.needsOptions → d.options.getD [] ≠ [] := by
        simpa using hmissing
      cases hformat : d.format.isSome && !d.isSequence with
      | true =>
          simp only [Bool.and_eq_true, Bool.not_eq_true'] at hformat
          simp [hformat]
      | false =>
          have hsequence : d.format.isSome → d.isSequence := by
            simpa using hformat
          exact iff_of_true (by simp) ⟨hgiven, hsequence⟩

theorem brokenRule?_eq_none_iff (d : Definition) :
    brokenRule? d = none ↔
      (d.type.needsOptions → d.options.getD [] ≠ []) ∧ (d.type = .slider → d.SliderChecked) ∧
        (d.format.isSome → d.isSequence) := by
  by_cases htype : d.type = .slider
  · have hneeds : d.type.needsOptions = false := by
      rw [htype]
      rfl
    have hsequence : d.isSequence = false := by
      rw [isSequence, htype]
      rfl
    rw [brokenRule?_of_slider htype]
    simp [htype, hsequence, VariableType.needsOptions]
  · rw [brokenRule?_of_ne_slider htype]
    simp [htype]

variable {raw : Value} {d : Definition}

theorem readFrom_of_ofValue (h : ofValue raw = .ok d) : ∃ entries, d.ReadFrom entries := by
  unfold ofValue at h
  split at h
  · rename_i entries _
    exact ⟨entries, readFrom_of_ofEntries h⟩
  · cases h

theorem isKey_of_ofValue (h : ofValue raw = .ok d) : isKey d.key := by
  obtain ⟨entries, hread⟩ := readFrom_of_ofValue h
  exact isKey_of_checkKey hread.key

/-- A definition that is accepted has a key of at most fifty letters, digits, underscores and
hyphens and a label; it has options where its type asks for them, and a format only where its type
is that of a sequence. A slider has both bounds. They are in order, and the step is positive, just
in case these are numbers. -/
theorem rules_of_accepted (h : ofValue raw = .ok d) :
    (1 ≤ d.key.length ∧ d.key.length ≤ 50 ∧ ∀ c ∈ d.key, c.isAlphanum ∨ c = '_' ∨ c = '-') ∧
    d.label ≠ [] ∧
    (d.type = .select ∨ d.type = .multiSelect → ∃ c cs, d.options = some (c :: cs)) ∧
    (d.type = .slider → ∃ low high, d.min = some low ∧ d.max = some high ∧
      (low.lt high ↔ low ≠ .nan ∧ high ≠ .nan) ∧
      ∀ step ∈ d.step, Binary64.zero.lt step ↔ step ≠ .nan) ∧
    (d.format ≠ none → d.type = .array ∨ d.type = .multiSelect) := by
  obtain ⟨entries, hread⟩ := readFrom_of_ofValue h
  obtain ⟨hne, hlength, hchars⟩ := (isKey_iff d.key).mp (isKey_of_checkKey hread.key)
  obtain ⟨hoptions, hslider, hformat⟩ := (brokenRule?_eq_none_iff d).mp hread.rules
  refine ⟨⟨List.length_pos_iff.mpr hne, hlength, hchars⟩, ne_nil_of_checkLabel hread.label, ?_, ?_,
    ?_⟩
  · intro htype
    have hneeds : d.type.needsOptions := by
      rcases htype with htype | htype <;> rw [htype] <;> rfl
    have hgiven := hoptions hneeds
    cases hlist : d.options with
    | none => simp [hlist] at hgiven
    | some choices =>
        cases choices with
        | nil => simp [hlist] at hgiven
        | cons c cs => exact ⟨c, cs, rfl⟩
  · intro htype
    obtain ⟨low, high, hlow, hhigh, hbounds, hstep⟩ := hslider htype
    refine ⟨low, high, hlow, hhigh, Binary64.lt_iff_of_not_le hbounds, fun step hmem => ?_⟩
    rw [Binary64.lt_iff_of_not_le (hstep step hmem)]
    simp [Binary64.zero]
  · intro hgiven
    have hsequence := hformat (Option.isSome_iff_ne_none.mpr hgiven)
    unfold isSequence at hsequence
    cases htype : d.type <;> simp_all [VariableType.isSequence]

theorem rules_of_accepted_unbounded :
    let raw : Value := .dict [("key".toList, .text "9-lives".toList), ("label".toList, .text ['L']),
      ("type".toList, .text "slider".toList), ("min".toList, .float (.infinity true)),
      ("max".toList, .text "1e3".toList), ("step".toList, .bool true)]
    ∃ d low high step, ofValue raw = .ok d ∧ d.min = some low ∧ d.max = some high ∧
      d.step = some step ∧ low.lt high ∧ Binary64.zero.lt step := by
  intro raw
  have hraw : ofValue raw = .ok
      { plain "9-lives".toList ['L'] with
        type := .slider
        min := some (.infinity true)
        max := some (.finite false 8796093022208000 (-43))
        step := some .one } := by
    decide +kernel
  obtain ⟨-, -, -, hslider, -⟩ := rules_of_accepted hraw
  obtain ⟨low, high, hlow, hhigh, hbounds, hstep⟩ := hslider rfl
  cases hlow
  cases hhigh
  exact ⟨_, _, _, _, hraw, rfl, rfl, rfl, hbounds.mpr (by decide), (hstep _ rfl).mpr (by decide)⟩

theorem slider_without_order :
    let raw (low step : Binary64) : Value := .dict [("key".toList, .text ['a']),
      ("label".toList, .text ['A']), ("type".toList, .text "slider".toList),
      ("min".toList, .float low), ("max".toList, .int 1), ("step".toList, .float step)]
    (∃ d, ofValue (raw .nan .one) = .ok d ∧ d.type = .slider ∧
      ¬ ∃ low high, d.min = some low ∧ d.max = some high ∧ low.lt high) ∧
    ∃ d, ofValue (raw .zero .nan) = .ok d ∧ d.type = .slider ∧
      ¬ ∀ step ∈ d.step, Binary64.zero.lt step := by
  intro raw
  have hbound : ofValue (raw .nan .one) = .ok
      { plain ['a'] ['A'] with
        type := .slider, min := some .nan, max := some .one, step := some .one } := by
    decide +kernel
  have hstep : ofValue (raw .zero .nan) = .ok
      { plain ['a'] ['A'] with
        type := .slider, min := some .zero, max := some .one, step := some .nan } := by
    decide +kernel
  refine ⟨⟨_, hbound, rfl, ?_⟩, ⟨_, hstep, rfl, ?_⟩⟩
  · rintro ⟨low, high, hlow, hhigh, hlt⟩
    cases hlow
    cases hhigh
    cases hlt
  · intro hpositive
    cases hpositive .nan rfl

end Definition

end PromptTemplate
