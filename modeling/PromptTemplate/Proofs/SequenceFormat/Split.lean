import Mathlib.Data.List.Infix
import PromptTemplate.Proofs.Number.Digits
import PromptTemplate.SequenceFormat

namespace PromptTemplate

namespace Text

/-- The parts between the leftmost occurrences of a separator. The first `skip` characters belong to
an occurrence that was found before. -/
def splitFrom (sep : Text) : Nat → Text → List Text
  | _, [] => [[]]
  | skip + 1, _ :: t => splitFrom sep skip t
  | 0, c :: t =>
      if sep <+: c :: t then [] :: splitFrom sep (sep.length - 1) t
      else (splitFrom sep 0 t).modifyHead (c :: ·)

def split (sep t : Text) : List Text :=
  splitFrom sep 0 t

variable {sep a t : Text}

theorem splitFrom_length (sep a t : Text) : splitFrom sep a.length (a ++ t) = split sep t := by
  induction a with
  | nil => rfl
  | cons c a ih => exact ih

theorem split_separator (hne : sep ≠ []) (t : Text) : split sep (sep ++ t) = [] :: split sep t := by
  obtain ⟨c, w, rfl⟩ := List.exists_cons_of_ne_nil hne
  have hhere : c :: w <+: c :: (w ++ t) := List.prefix_append (c :: w) t
  rw [split, List.cons_append, splitFrom, if_pos hhere]
  exact congrArg (List.cons []) (splitFrom_length (c :: w) w t)

theorem split_cons {c : Char} (h : ¬ sep <+: c :: t) :
    split sep (c :: t) = (split sep t).modifyHead (c :: ·) := by
  rw [split, splitFrom, if_neg h]
  rfl

theorem split_of_free (h : ¬ sep <:+: t) : split sep t = [t] := by
  induction t with
  | nil => rfl
  | cons c t ih =>
      rw [List.infix_cons_iff, not_or] at h
      rw [split_cons h.1, ih h.2]
      rfl

def Unbordered (sep : Text) : Prop :=
  ∀ w, w <+: sep → w <:+ sep → w = [] ∨ w = sep

theorem Unbordered.not_prefix (hsep : Unbordered sep) (hne : a ≠ []) (hfree : ¬ sep <:+: a)
    (t : Text) : ¬ sep <+: a ++ (sep ++ t) := by
  intro h
  rcases Nat.le_total sep.length a.length with hle | hle
  · exact hfree (List.prefix_of_prefix_length_le h (List.prefix_append ..) hle).isInfix
  -- the occurrence ends in the separator behind, so its own end is at the beginning of that one
  · obtain ⟨w, rfl⟩ := List.prefix_of_prefix_length_le (List.prefix_append ..) h hle
    have hbegins : w <+: a ++ w :=
      List.prefix_of_prefix_length_le ((List.prefix_append_right_inj a).mp h)
        (List.prefix_append ..) (by simp)
    rcases hsep w hbegins (List.suffix_append a w) with rfl | hwhole
    · exact hfree (by simp)
    · exact hne (List.self_eq_append_left.mp hwhole)

theorem split_append_separator (hsep : Unbordered sep) (hne : sep ≠ []) (hfree : ¬ sep <:+: a)
    (t : Text) : split sep (a ++ (sep ++ t)) = a :: split sep t := by
  induction a with
  | nil => exact split_separator hne t
  | cons c a ih =>
      have hrest : ¬ sep <:+: a := fun h => hfree (h.trans (List.suffix_cons c a).isInfix)
      have hhere := hsep.not_prefix (List.cons_ne_nil c a) hfree t
      rw [List.cons_append] at hhere ⊢
      rw [split_cons hhere, ih hrest, List.modifyHead_cons]

theorem split_join (hsep : Unbordered sep) (hne : sep ≠ []) {parts : List Text}
    (hparts : parts ≠ []) (hfree : ∀ p ∈ parts, ¬ sep <:+: p) :
    split sep (join sep parts) = parts := by
  induction parts with
  | nil => exact absurd rfl hparts
  | cons p rest ih =>
      obtain ⟨hp, hrest⟩ := List.forall_mem_cons.mp hfree
      cases rest with
      | nil => simpa [join] using split_of_free hp
      | cons q rest =>
          have hjoin : join sep (p :: q :: rest) = p ++ (sep ++ join sep (q :: rest)) := by
            simp [join, List.intercalate_cons_cons]
          rw [hjoin, split_append_separator hsep hne hp, ih (List.cons_ne_nil q rest) hrest]

theorem newline_notMem_ofNat (n : Nat) : '\n' ∉ ofNat n :=
  fun h => absurd (isDigit_of_mem_ofNat _ h) (by decide)

end Text

namespace SequenceFormat

def mark (f : SequenceFormat) (i : Nat) : Text :=
  match f with
  | .comma | .newline => []
  | .numbered => Text.ofNat (i + 1) ++ ['.', ' ']
  | .bullet => ['-', ' ']

theorem numberedFrom_eq_mapIdx (k : Nat) (ts : List Text) :
    numberedFrom k ts = ts.mapIdx fun i t => Text.ofNat (k + i) ++ ['.', ' '] ++ t := by
  induction ts generalizing k with
  | nil => rfl
  | cons t ts ih =>
      rw [numberedFrom, ih, List.mapIdx_cons]
      simp [Nat.add_assoc, Nat.add_comm 1]

theorem marked_eq_mapIdx (f : SequenceFormat) (ts : List Text) :
    f.marked ts = ts.mapIdx fun i t => f.mark i ++ t := by
  have hmap (g : Text → Text) : ts.map g = ts.mapIdx fun _ t => g t :=
    List.ext_getElem (by simp) (by simp)
  cases f with
  | comma => simpa [marked, mark] using hmap id
  | newline => simpa [marked, mark] using hmap id
  | numbered =>
      rw [marked, numberedFrom_eq_mapIdx]
      simp [mark, Nat.add_comm 1]
  | bullet => exact hmap _

theorem separator_unbordered (f : SequenceFormat) : f.separator.Unbordered := by
  have hborders : ∀ w ∈ f.separator.inits, w <:+ f.separator → w = [] ∨ w = f.separator := by
    cases f <;> decide
  exact fun w hw => hborders w ((List.mem_inits w f.separator).mpr hw)

theorem mark_free (f : SequenceFormat) (i : Nat) {t : Text} (h : ¬ f.separator <:+: t) :
    ¬ f.separator <:+: f.mark i ++ t := by
  cases f with
  | comma => exact h
  | newline => exact h
  | numbered =>
      simp only [separator, List.singleton_infix_iff] at h ⊢
      simp [mark, h, Text.newline_notMem_ofNat]
  | bullet =>
      simp only [separator, List.singleton_infix_iff] at h ⊢
      simp [mark, h]

theorem split_serialize (f : SequenceFormat) {items : List Value} (hne : items ≠ [])
    (hfree : ∀ v ∈ items, ¬ f.separator <:+: v.scalarText) :
    Text.split f.separator (f.serialize items) =
      items.mapIdx fun i v => f.mark i ++ v.scalarText := by
  have hparts : f.marked (items.map Value.scalarText) =
      items.mapIdx fun i v => f.mark i ++ v.scalarText := by
    rw [marked_eq_mapIdx]
    simp [List.mapIdx_eq_zipIdx_map, List.zipIdx_map]
  have hsep : f.separator ≠ [] := by cases f <;> decide
  rw [serialize, joinTexts, hparts]
  refine Text.split_join f.separator_unbordered hsep (by simpa using hne) fun p hp => ?_
  obtain ⟨i, hi, rfl⟩ := List.mem_mapIdx.mp hp
  exact f.mark_free i (hfree _ (List.getElem_mem hi))

theorem split_serialize_of_comma :
    let items : List Value := [.text ['a', ','], .text [' ', 'b'], .text [], .int 3]
    items ≠ [] ∧ (∀ v ∈ items, ¬ SequenceFormat.comma.separator <:+: v.scalarText) ∧
      SequenceFormat.comma.serialize items = "a,,  b, , 3".toList ∧
      Text.split [',', ' '] "a,,  b, , 3".toList = ["a,".toList, " b".toList, [], ['3']] := by
  intro items
  have hne : items ≠ [] := by simp [items]
  have hfree : ∀ v ∈ items, ¬ SequenceFormat.comma.separator <:+: v.scalarText := by decide
  exact ⟨hne, hfree, by decide, split_serialize .comma hne hfree⟩

end SequenceFormat

end PromptTemplate
