import PromptTemplate.Proofs.Escape.Pairs
import PromptTemplate.Proofs.Number.Braceless

namespace PromptTemplate.Escape

open Text (Braceless)

variable {brace c : Char} {sep w : Text}

theorem pairs_append (h : c ≠ brace) :
    ∀ a b, pairs brace (a ++ c :: b) = pairs brace a ++ c :: pairs brace b
  | [], b => pairs_cons_of_ne h b
  | [d], b => by
      rw [List.cons_append, List.nil_append, pairs_cons (by simp [h]), pairs_cons_of_ne h]
      rfl
  | d :: e :: r, b => by
      by_cases hpair : d = brace ∧ e = brace
      · rw [hpair.1, hpair.2, pairs_pair, List.cons_append, List.cons_append, pairs_pair,
          pairs_append h r b]
        rfl
      · rw [pairs_cons (by simpa using hpair), List.cons_append, List.cons_append,
          pairs_cons (by simpa using hpair), ← List.cons_append, pairs_append h (e :: r) b]
        rfl

theorem text_append (h : c ≠ '{' ∧ c ≠ '}') (a b : Text) :
    text (a ++ c :: b) = text a ++ c :: text b := by
  rw [text, pairs_append h.1, pairs_append h.2]
  rfl

theorem text_braceless_append (hw : w.Braceless) (b : Text) : text (w ++ b) = w ++ text b := by
  induction w with
  | nil => rfl
  | cons c w ih =>
      obtain ⟨hc, hw⟩ := Text.braceless_cons.mp hw
      have hfirst : text (c :: (w ++ b)) = c :: text (w ++ b) := text_append hc [] (w ++ b)
      rw [List.cons_append, hfirst, ih hw]
      rfl

theorem text_braceless (hw : w.Braceless) : text w = w := by
  have h := text_braceless_append hw []
  rwa [List.append_nil, show text [] = [] from rfl, List.append_nil] at h

theorem text_separated (hsep : sep.Braceless) (hne : sep ≠ []) (a b : Text) :
    text (a ++ sep ++ b) = text a ++ sep ++ text b := by
  obtain ⟨c, w, rfl⟩ := List.exists_cons_of_ne_nil hne
  obtain ⟨hc, hw⟩ := Text.braceless_cons.mp hsep
  rw [List.append_assoc, List.cons_append, text_append hc, text_braceless_append hw,
    List.append_assoc, List.cons_append]

theorem text_join (hsep : sep.Braceless) (hne : sep ≠ []) (parts : List Text) :
    text (Text.join sep parts) = Text.join sep (parts.map text) := by
  induction parts with
  | nil => rfl
  | cons p rest ih =>
      cases rest with
      | nil => simp [Text.join]
      | cons q rest =>
          simp only [Text.join, List.map_cons, List.intercalate_cons_cons] at ih ⊢
          rw [text_separated hsep hne, ih]

end PromptTemplate.Escape
