import PromptTemplate.Proofs.Escape.Pairs
import PromptTemplate.Proofs.Token.Scan

namespace PromptTemplate.Escape

variable {brace c : Char} {t : Text}

theorem unpairs_pair (brace : Char) (r : Text) :
    unpairs brace ('\\' :: brace :: brace :: r) = brace :: brace :: unpairs brace r := by
  simp [unpairs]

theorem unpairs_cons (h : ¬ (c = '\\' ∧ Text.PairAt brace t 0)) :
    unpairs brace (c :: t) = c :: unpairs brace t := by
  match t with
  | [] => rfl
  | [d] => rfl
  | d :: e :: r =>
      have hmarked : ¬ (c = '\\' ∧ d = brace ∧ e = brace) := by
        simpa [Text.PairAt] using h
      simp [unpairs, and_assoc, hmarked]

theorem not_pairAt_pairs_zero (hbrace : brace ≠ '\\') (t : Text) :
    ¬ Text.PairAt brace (pairs brace t) 0 := by
  intro h
  obtain ⟨i, hi, -⟩ := (guardedAt_of_pairAt hbrace h).behind
  exact absurd hi (Nat.zero_ne_add_one i)

-- a backslash of the text itself stands before another backslash if a pair of braces follows it, so
-- no pair gives back more than the backslash it was given
theorem unpairs_pairs (hbrace : brace ≠ '\\') : ∀ t, unpairs brace (pairs brace t) = t
  | [] => rfl
  | [c] => rfl
  | c :: d :: r => by
      by_cases hpair : c = brace ∧ d = brace
      · rw [hpair.1, hpair.2, pairs_pair, unpairs_pair, unpairs_pairs hbrace r]
      · rw [pairs_cons (by simpa using hpair),
          unpairs_cons fun h => not_pairAt_pairs_zero hbrace _ h.2, unpairs_pairs hbrace (d :: r)]

theorem undo_text (t : Text) : undo (text t) = t := by
  rw [undo, text, pairs_comm (by decide) (by decide) (by decide), unpairs_pairs (by decide),
    unpairs_pairs (by decide)]

theorem isText_of_text (t : Text) : ∀ token ∈ Token.tokenize (text t), token.isText :=
  Token.all_isText_iff.mpr fun _ _ _ hat => hat.free (pairAt_open hat.opened)

theorem escaped_inert_and_undone :
    (∀ t, ∀ token ∈ Token.tokenize (text t), token.isText) ∧ Function.LeftInverse undo text ∧
      Function.Injective text :=
  ⟨isText_of_text, undo_text, Function.LeftInverse.injective undo_text⟩

end PromptTemplate.Escape
