import Mathlib.Data.List.Nodup
import PromptTemplate.Definition

namespace PromptTemplate

theorem Assoc.get?_merge_reverse {α : Type} (m n : Assoc α) (key : Text) :
    get? key (merge m n) = (get? key n.reverse).or (get? key m) := by
  induction n generalizing m with
  | nil => rfl
  | cons e n ih =>
      obtain ⟨k, v⟩ := e
      have hstep : merge m ((k, v) :: n) = merge (put k v m) n := rfl
      rw [hstep, ih, List.reverse_cons, get?_append, Option.or_assoc]
      refine congrArg (Option.or _) ?_
      by_cases hkey : k = key
      · subst hkey
        simp [get?, get?_put_self]
      · simp [get?, hkey, get?_put_of_ne (Ne.symm hkey)]

theorem Assoc.get?_ofList_reverse {α : Type} (entries : List (Text × α)) (key : Text) :
    get? key (ofList entries) = get? key entries.reverse := by
  rw [ofList, get?_merge_reverse]
  simp [get?]

namespace Definition

variable {ds : List Definition} {key : Text} {d : Definition}

def first? (ds : List Definition) (key : Text) : Option Definition :=
  ds.find? fun d => d.key = key

def last? (ds : List Definition) (key : Text) : Option Definition :=
  first? ds.reverse key

theorem first?_eq_none_iff : first? ds key = none ↔ ∀ d ∈ ds, d.key ≠ key := by
  simp [first?]

theorem mem_of_first? (h : first? ds key = some d) : d ∈ ds ∧ d.key = key :=
  ⟨List.mem_of_find?_eq_some h, by simpa using List.find?_some h⟩

def Sole (ds : List Definition) (key : Text) (d : Definition) : Prop :=
  d ∈ ds ∧ d.key = key ∧ ∀ d' ∈ ds, d'.key = key → d' = d

theorem Sole.first? (h : Sole ds key d) : first? ds key = some d := by
  obtain ⟨hmem, hkey, honly⟩ := h
  cases hfirst : Definition.first? ds key with
  | none => exact absurd hkey (first?_eq_none_iff.mp hfirst d hmem)
  | some d' =>
      obtain ⟨hmem', hkey'⟩ := mem_of_first? hfirst
      rw [honly d' hmem' hkey']

theorem Sole.reverse (h : Sole ds key d) : Sole ds.reverse key d := by
  obtain ⟨hmem, hkey, honly⟩ := h
  refine ⟨List.mem_reverse.mpr hmem, hkey, ?_⟩
  intro d' hd'
  exact honly d' (List.mem_reverse.mp hd')

theorem sole_of_nodup (h : (ds.map (·.key)).Nodup) (hd : d ∈ ds) : Sole ds d.key d :=
  ⟨hd, rfl, fun _ hd' hkey => List.inj_on_of_nodup_map h hd' hd hkey⟩

theorem sole_of_first? (h : (ds.map (·.key)).Nodup) (hfirst : first? ds key = some d) :
    Sole ds key d := by
  obtain ⟨hmem, rfl⟩ := mem_of_first? hfirst
  exact sole_of_nodup h hmem

theorem last?_of_nodup (h : (ds.map (·.key)).Nodup) (key : Text) :
    last? ds key = first? ds key := by
  cases hfirst : first? ds key with
  | none =>
      rw [last?, first?_eq_none_iff]
      intro d hd
      exact first?_eq_none_iff.mp hfirst d (List.mem_reverse.mp hd)
  | some d => exact (sole_of_first? h hfirst).reverse.first?

end Definition

end PromptTemplate
