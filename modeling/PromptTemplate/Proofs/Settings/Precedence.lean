import Mathlib.Data.List.Nodup
import PromptTemplate.Proofs.Data.Toml
import PromptTemplate.Proofs.Text.Utf8
import PromptTemplate.Settings.File

namespace PromptTemplate

namespace Environment

variable {env : Environment} {table : Assoc Value} {o : Override} {os : List Override} {key : Text}

def given? (env : Environment) (o : Override) : Option Value :=
  (env.get? o.name).bind fun t => (o.read t).toOption

theorem get?_apply (env : Environment) (table : Assoc Value) (o : Override) (key : Text) :
    (env.apply table o).1.get? key =
      if key = o.key then (env.given? o).or (table.get? key) else table.get? key := by
  unfold apply given?
  cases env.get? o.name with
  | none => simp
  | some t =>
      cases hread : o.read t with
      | error found => simp [hread, Except.toOption]
      | ok v =>
          by_cases hkey : key = o.key
          · subst hkey
            simp [hread, Except.toOption, Assoc.get?_put_self]
          · simp [hread, hkey, Assoc.get?_put_of_ne hkey]

theorem applyAll_cons (env : Environment) (o : Override) (os : List Override)
    (table : Assoc Value) :
    (env.applyAll (o :: os) table).1 = (env.applyAll os (env.apply table o).1).1 :=
  rfl

theorem get?_applyAll_of_notMem (h : key ∉ os.map Override.key) (table : Assoc Value) :
    (env.applyAll os table).1.get? key = table.get? key := by
  induction os generalizing table with
  | nil => rfl
  | cons o os ih =>
      obtain ⟨hne, hrest⟩ := not_or.mp (mt List.mem_cons.mpr h)
      rw [applyAll_cons, ih hrest, get?_apply, if_neg hne]

theorem get?_applyAll (h : (os.map Override.key).Nodup) (ho : o ∈ os) (table : Assoc Value) :
    (env.applyAll os table).1.get? o.key = (env.given? o).or (table.get? o.key) := by
  induction os generalizing table with
  | nil => cases ho
  | cons o' os ih =>
      obtain ⟨hkey, hkeys⟩ := List.nodup_cons.mp h
      rw [applyAll_cons]
      rcases List.mem_cons.mp ho with rfl | ho
      · rw [get?_applyAll_of_notMem hkey, get?_apply, if_pos rfl]
      · have hne : o.key ≠ o'.key := by
          intro heq
          exact hkey (heq ▸ List.mem_map_of_mem ho)
        rw [ih hkeys ho, get?_apply, if_neg hne]

def formatOverride : Override where
  name := format
  key := Settings.formatKey
  read t := .ok (.text (word t))

def fallbackOverride : Override where
  name := fallback
  key := Settings.fallbackKey
  read t :=
    match flag? (word t) with
    | some b => .ok (.bool b)
    | none => .error (word t)

theorem overrides_eq : overrides = [integerOverride maxBytes Settings.maxBytesKey,
    integerOverride maxDepth Settings.maxDepthKey, formatOverride, fallbackOverride] :=
  rfl

theorem given?_integer (env : Environment) (name key : Text) :
    env.given? (integerOverride name key) =
      (env.get? name).bind fun t => (integer? t).map .int := by
  refine congrArg (Option.bind _) (funext fun t => ?_)
  cases h : integer? t <;> simp [integerOverride, h, Except.toOption]

theorem given?_format (env : Environment) :
    env.given? formatOverride = (env.get? format).map fun t => .text (word t) := by
  unfold given? formatOverride
  cases env.get? format <;> rfl

theorem given?_fallback (env : Environment) :
    env.given? fallbackOverride =
      (env.get? fallback).bind fun t => (flag? (word t)).map .bool := by
  refine congrArg (Option.bind _) (funext fun t => ?_)
  cases h : flag? (word t) <;> simp [fallbackOverride, h, Except.toOption]

theorem nodup_keys_overrides : (overrides.map Override.key).Nodup := by
  decide

end Environment

namespace Settings

structure InEffect where
  maxBytes : Value
  maxDepth : Value
  format : Value
  fallback : Value

def preferred (given : Option Value) (table : Assoc Value) (key : Text) (other : Value) : Value :=
  (given.or (table.get? key)).getD other

def inEffect (env : Environment) (table : Assoc Value) : InEffect where
  maxBytes :=
    preferred ((env.get? Environment.maxBytes).bind fun t => (Environment.integer? t).map .int)
      table maxBytesKey (.int default.maxBytes)
  maxDepth :=
    preferred ((env.get? Environment.maxDepth).bind fun t => (Environment.integer? t).map .int)
      table maxDepthKey (.int default.maxDepth)
  format :=
    preferred ((env.get? Environment.format).map fun t => .text (Environment.word t))
      table formatKey (.text default.format.name)
  fallback :=
    preferred ((env.get? Environment.fallback).bind fun t =>
        (Environment.flag? (Environment.word t)).map .bool)
      table fallbackKey (.bool default.fallback)

def IsLimit (v : Value) : Prop :=
  ∃ n : Int, 0 < n ∧ v = .int n

def IsFormat (v : Value) : Prop :=
  ∃ f : SequenceFormat, v = .text f.name

def IsFlag (v : Value) : Prop :=
  ∃ b, v = .bool b

namespace InEffect

structure Valid (e : InEffect) : Prop where
  maxBytes : IsLimit e.maxBytes
  maxDepth : IsLimit e.maxDepth
  format : IsFormat e.format
  fallback : IsFlag e.fallback

structure Gives (e : InEffect) (s : Settings) : Prop where
  maxBytes : e.maxBytes = .int s.maxBytes
  maxDepth : e.maxDepth = .int s.maxDepth
  format : e.format = .text s.format.name
  fallback : e.fallback = .bool s.fallback

end InEffect

theorem positive?_eq_some_iff {v : Value} {n : Nat} :
    positive? v = some n ↔ 0 < n ∧ v = .int n := by
  cases v <;> simp [positive?]
  omega

theorem ofName?_eq_some_iff {t : Text} {f : SequenceFormat} :
    SequenceFormat.ofName? t = some f ↔ t = f.name := by
  constructor
  · intro h
    have hname := List.find?_some h
    exact (of_decide_eq_true hname).symm
  · rintro rfl
    exact SequenceFormat.ofName?_name f

theorem format?_eq_some_iff {v : Value} {f : SequenceFormat} :
    format? v = some f ↔ v = .text f.name := by
  cases v <;> simp [format?, ofName?_eq_some_iff]

theorem flag?_eq_some_iff {v : Value} {b : Bool} : flag? v = some b ↔ v = .bool b := by
  cases v <;> simp [flag?]

def InEffect.checked (e : InEffect) : Except SettingsError Settings :=
  match positive? e.maxBytes with
  | none => .error .maxBytes
  | some maxBytes =>
  match positive? e.maxDepth with
  | none => .error .maxDepth
  | some maxDepth =>
  match format? e.format with
  | none => .error (.format e.format.quoted)
  | some format =>
  match flag? e.fallback with
  | none => .error .fallback
  | some fallback => .ok ⟨maxBytes, maxDepth, format, fallback⟩

namespace InEffect

variable {e : InEffect} {s : Settings} {error : SettingsError}

theorem checked_of_gives (hbytes : 0 < s.maxBytes) (hdepth : 0 < s.maxDepth) (h : e.Gives s) :
    e.checked = .ok s := by
  simp only [checked, positive?_eq_some_iff.mpr ⟨hbytes, h.maxBytes⟩,
    positive?_eq_some_iff.mpr ⟨hdepth, h.maxDepth⟩, format?_eq_some_iff.mpr h.format,
    flag?_eq_some_iff.mpr h.fallback]

theorem gives_of_checked (h : e.checked = .ok s) :
    0 < s.maxBytes ∧ 0 < s.maxDepth ∧ e.Gives s := by
  unfold checked at h
  split at h
  · cases h
  · rename_i hbytes
    split at h
    · cases h
    · rename_i hdepth
      split at h
      · cases h
      · rename_i hformat
        split at h
        · cases h
        · rename_i hfallback
          cases h
          obtain ⟨hpositive, hbytes⟩ := positive?_eq_some_iff.mp hbytes
          obtain ⟨hdeep, hdepth⟩ := positive?_eq_some_iff.mp hdepth
          exact ⟨hpositive, hdeep, hbytes, hdepth, format?_eq_some_iff.mp hformat,
            flag?_eq_some_iff.mp hfallback⟩

theorem valid_of_gives (hbytes : 0 < s.maxBytes) (hdepth : 0 < s.maxDepth) (h : e.Gives s) :
    e.Valid :=
  ⟨⟨_, Int.natCast_pos.mpr hbytes, h.maxBytes⟩, ⟨_, Int.natCast_pos.mpr hdepth, h.maxDepth⟩,
    ⟨_, h.format⟩, ⟨_, h.fallback⟩⟩

theorem checked_of_valid (h : e.Valid) : ∃ s, e.checked = .ok s := by
  obtain ⟨⟨bytes, hbytes, hmaxBytes⟩, ⟨depth, hdepth, hmaxDepth⟩, ⟨f, hformat⟩, ⟨b, hfallback⟩⟩ := h
  obtain ⟨bytes, rfl⟩ := Int.eq_ofNat_of_zero_le (Int.le_of_lt hbytes)
  obtain ⟨depth, rfl⟩ := Int.eq_ofNat_of_zero_le (Int.le_of_lt hdepth)
  exact ⟨⟨bytes, depth, f, b⟩, checked_of_gives (Int.natCast_pos.mp hbytes)
    (Int.natCast_pos.mp hdepth) ⟨hmaxBytes, hmaxDepth, hformat, hfallback⟩⟩

theorem checked_iff_valid : (∃ s, e.checked = .ok s) ↔ e.Valid := by
  refine ⟨?_, checked_of_valid⟩
  rintro ⟨s, hs⟩
  obtain ⟨hbytes, hdepth, hgives⟩ := gives_of_checked hs
  exact valid_of_gives hbytes hdepth hgives

theorem mem_of_checked (h : e.checked = .error error) :
    error ∈ [.maxBytes, .maxDepth, .format e.format.quoted, .fallback] := by
  unfold checked at h
  split at h
  · cases h
    simp
  · split at h
    · cases h
      simp
    · split at h
      · cases h
        simp
      · split at h
        · cases h
          simp
        · cases h

end InEffect

def entry (table : Assoc Value) (key : Text) : Value :=
  ((table.get? key).orElse fun _ => default.toTable.get? key).getD .none

theorem ofTable?_eq_checked (table : Assoc Value) :
    ofTable? table = InEffect.checked ⟨entry table maxBytesKey, entry table maxDepthKey,
      entry table formatKey, entry table fallbackKey⟩ :=
  rfl

variable {env : Environment} {table table' : Assoc Value} {s : Settings}

theorem entry_eq {key : Text} {other : Value} (h : default.toTable.get? key = some other)
    (table : Assoc Value) : entry table key = (table.get? key).getD other := by
  unfold entry
  rw [h]
  cases table.get? key <;> rfl

theorem entry_applyAll {o : Environment.Override} (ho : o ∈ Environment.overrides) {other : Value}
    (h : default.toTable.get? o.key = some other) (env : Environment) (table : Assoc Value) :
    entry (env.applyAll Environment.overrides table).1 o.key =
      preferred (env.given? o) table o.key other := by
  rw [entry_eq h, Environment.get?_applyAll Environment.nodup_keys_overrides ho, preferred]

open Environment (overrides_eq integerOverride formatOverride fallbackOverride) in
theorem load_eq_checked (env : Environment) (table : Assoc Value) :
    (load env table).1 = (inEffect env table).checked := by
  have hbytes := entry_applyAll (o := integerOverride Environment.maxBytes maxBytesKey)
    (by simp [overrides_eq]) rfl env table
  have hdepth := entry_applyAll (o := integerOverride Environment.maxDepth maxDepthKey)
    (by simp [overrides_eq]) rfl env table
  have hformat := entry_applyAll (o := formatOverride) (by simp [overrides_eq]) rfl env table
  have hfallback := entry_applyAll (o := fallbackOverride) (by simp [overrides_eq]) rfl env table
  rw [Environment.given?_integer] at hbytes hdepth
  rw [Environment.given?_format] at hformat
  rw [Environment.given?_fallback] at hfallback
  refine (ofTable?_eq_checked _).trans (congrArg InEffect.checked ?_)
  rw [inEffect, InEffect.mk.injEq]
  exact ⟨hbytes, hdepth, hformat, hfallback⟩

inductive Supplies : Option SettingsFile → Option (Assoc Value) → Assoc Value → Prop
  | given (table : Assoc Value) : Supplies none (some table) table
  | engine {path t : Text} {bytes : List UInt8} {document table : Assoc Value} :
      Text.ofUtf8 bytes = .ok t → Toml.read? t = some document →
      document.get? "engine".toList = some (.dict table) →
      Supplies (some (.present path bytes)) none table
  | document {path t : Text} {bytes : List UInt8} {document : Assoc Value} :
      Text.ofUtf8 bytes = .ok t → Toml.read? t = some document →
      document.get? "engine".toList = none → Supplies (some (.present path bytes)) none document
  | default : Supplies none none default.toTable

def Misplaced (path : Text) (file : SettingsFile) : Prop :=
  ∃ bytes t document v, file = .present path bytes ∧ Text.ofUtf8 bytes = .ok t ∧
    Toml.read? t = some document ∧ document.get? "engine".toList = some v ∧
    ∀ table, v ≠ .dict table

variable {file : Option SettingsFile} {given : Option (Assoc Value)}

theorem ofSource_of_supplies (h : Supplies file given table) (env : Environment) :
    ofSource env file given = load env table := by
  cases h with
  | given => rfl
  | default => rfl
  | engine hbytes hread hengine =>
      simp only [ofSource, ofFile, hbytes, ofText, hread, engineTable?, hengine]
  | document hbytes hread hengine =>
      simp only [ofSource, ofFile, hbytes, ofText, hread, engineTable?, hengine]

theorem ofSource_of_misplaced {path : Text} {f : SettingsFile} (h : Misplaced path f)
    (env : Environment) : (ofSource env (some f) none).1 = .error (.notATable path) := by
  obtain ⟨bytes, t, document, v, rfl, hbytes, hread, hengine, hv⟩ := h
  have hnone : engineTable? document = none := by
    unfold engineTable?
    rw [hengine]
    cases v <;> first | rfl | exact absurd rfl (hv _)
  simp only [ofSource, ofFile, hbytes, ofText, hread, hnone]

theorem inEffect_congr (h : ∀ key ∈ keys, table'.get? key = table.get? key) :
    inEffect env table' = inEffect env table := by
  simp only [keys, List.forall_mem_cons] at h
  obtain ⟨hbytes, hdepth, hformat, hfallback, -⟩ := h
  simp only [inEffect, preferred, hbytes, hdepth, hformat, hfallback]

theorem preferred_again {v : Option Value} {key : Text} {w other : Value}
    (h : preferred v table key other = w) (hthere : table'.get? key = some w) :
    preferred v table' key other = w := by
  cases v with
  | none => simp [preferred, hthere]
  | some v => exact h

theorem InEffect.Gives.again (h : (inEffect env table).Gives s) :
    (inEffect env s.toTable).Gives s :=
  ⟨preferred_again h.maxBytes rfl, preferred_again h.maxDepth rfl,
    preferred_again h.format rfl, preferred_again h.fallback rfl⟩

end Settings

end PromptTemplate
