import PromptTemplate.Escape
import PromptTemplate.Proofs.Token.Position

namespace PromptTemplate

def Text.GuardedAt (brace : Char) (t : Text) (p : Nat) : Prop :=
  (∃ i, p = i + 1 ∧ t[i]? = some '\\') ∨
    ∃ i, p = i + 2 ∧ t[i]? = some '\\' ∧ t[i + 1]? = some brace

namespace Text

variable {brace : Char} {t : Text} {p : Nat}

theorem GuardedAt.cons (c : Char) (h : GuardedAt brace t p) : GuardedAt brace (c :: t) (p + 1) := by
  rcases h with ⟨i, rfl, hi⟩ | ⟨i, rfl, hi, hj⟩
  · exact .inl ⟨i + 1, rfl, hi⟩
  · exact .inr ⟨i + 1, rfl, hi, hj⟩

theorem GuardedAt.behind (h : GuardedAt brace t p) :
    ∃ i, p = i + 1 ∧ (t[i]? = some '\\' ∨ t[i]? = some brace) := by
  rcases h with ⟨i, rfl, hi⟩ | ⟨i, rfl, -, hj⟩
  · exact ⟨i, rfl, .inl hi⟩
  · exact ⟨i + 1, rfl, .inr hj⟩

end Text

namespace Escape

variable {brace other c : Char} {t r : Text}

theorem pairs_pair (brace : Char) (r : Text) :
    pairs brace (brace :: brace :: r) = '\\' :: brace :: brace :: pairs brace r := by
  simp [pairs]

theorem pairs_cons (h : ¬ (c = brace ∧ r.head? = some brace)) :
    pairs brace (c :: r) = c :: pairs brace r := by
  cases r with
  | nil => rfl
  | cons d r =>
      have hpair : ¬ (c = brace ∧ d = brace) := by simpa using h
      simp [pairs, hpair]

theorem pairs_cons_of_ne (h : c ≠ brace) (r : Text) : pairs brace (c :: r) = c :: pairs brace r :=
  pairs_cons fun hc => h hc.1

theorem head?_pairs (hc : c ≠ '\\') (h : (pairs brace t).head? = some c) : t.head? = some c := by
  cases t with
  | nil => exact h
  | cons d r =>
      by_cases hpair : d = brace ∧ r.head? = some brace
      · obtain ⟨rfl, hr⟩ := hpair
        obtain ⟨r', rfl⟩ := List.head?_eq_some_iff.mp hr
        rw [pairs_pair] at h
        exact absurd (Option.some.inj h).symm hc
      · rw [pairs_cons hpair] at h
        exact h

theorem getLast?_pairs (brace : Char) : ∀ t, (pairs brace t).getLast? = t.getLast?
  | [] => rfl
  | [c] => rfl
  | c :: d :: r => by
      by_cases hpair : c = brace ∧ d = brace
      · rw [hpair.1, hpair.2, pairs_pair]
        simp [List.getLast?_cons, getLast?_pairs brace r]
      · rw [pairs_cons (by simpa using hpair)]
        simp [List.getLast?_cons, getLast?_pairs brace (d :: r)]

theorem guardedAt_of_pairAt (hbrace : brace ≠ '\\') {p : Nat}
    (h : Text.PairAt brace (pairs brace t) p) : Text.GuardedAt brace (pairs brace t) p := by
  fun_induction pairs brace t generalizing p with
  | case1 => simp [Text.PairAt] at h
  | case2 c => simp [Text.PairAt] at h
  | case3 c d r hpair ih =>
      obtain ⟨rfl, rfl⟩ : c = brace ∧ d = brace := by simpa using hpair
      rcases p with _ | _ | _ | p
      · exact absurd (Option.some.inj h.1).symm hbrace
      · exact .inl ⟨0, rfl, rfl⟩
      · exact .inr ⟨0, rfl, rfl, rfl⟩
      · simp only [Text.pairAt_cons_succ] at h
        exact (((ih h).cons _).cons _).cons _
  | case4 c d r hpair ih =>
      cases p with
      | zero =>
          have hc : c = brace := Option.some.inj h.1
          have hd : (pairs brace (d :: r)).head? = some brace := by
            rw [List.head?_eq_getElem?]
            exact h.2
          have hd := Option.some.inj (head?_pairs hbrace hd)
          simp [hc, hd] at hpair
      | succ p =>
          rw [Text.pairAt_cons_succ] at h
          exact (ih h).cons c

theorem pairs_comm (hne : brace ≠ other) (hbrace : brace ≠ '\\') (hother : other ≠ '\\') :
    ∀ t, pairs brace (pairs other t) = pairs other (pairs brace t)
  | [] => rfl
  | [c] => rfl
  | c :: d :: r => by
      by_cases hfirst : c = brace ∧ d = brace
      · rw [hfirst.1, hfirst.2, pairs_cons_of_ne hne, pairs_cons_of_ne hne, pairs_pair, pairs_pair,
          pairs_cons_of_ne hother.symm, pairs_cons_of_ne hne, pairs_cons_of_ne hne,
          pairs_comm hne hbrace hother r]
      · by_cases hsecond : c = other ∧ d = other
        · rw [hsecond.1, hsecond.2, pairs_pair, pairs_cons_of_ne hbrace.symm,
            pairs_cons_of_ne hne.symm, pairs_cons_of_ne hne.symm, pairs_cons_of_ne hne.symm,
            pairs_cons_of_ne hne.symm, pairs_pair, pairs_comm hne hbrace hother r]
        · have hkeep (a b : Char) (ha : a ≠ '\\') (h : ¬ (c = a ∧ d = a)) :
              pairs a (c :: pairs b (d :: r)) = c :: pairs a (pairs b (d :: r)) := by
            refine pairs_cons fun hpair => h ⟨hpair.1, ?_⟩
            exact Option.some.inj (head?_pairs ha hpair.2)
          have hfirst' : pairs brace (c :: d :: r) = c :: pairs brace (d :: r) :=
            pairs_cons (by simpa using hfirst)
          have hsecond' : pairs other (c :: d :: r) = c :: pairs other (d :: r) :=
            pairs_cons (by simpa using hsecond)
          rw [hfirst', hsecond', hkeep brace other hbrace hfirst, hkeep other brace hother hsecond,
            pairs_comm hne hbrace hother (d :: r)]

theorem pairAt_open {p : Nat} (h : Text.PairAt '{' (text t) p) : Token.EscapedAt (text t) p := by
  rw [text, pairs_comm (by decide) (by decide) (by decide)] at h ⊢
  exact guardedAt_of_pairAt (by decide) h

theorem pairAt_close {p : Nat} (h : Text.PairAt '}' (text t) p) :
    ∃ i, p = i + 1 ∧ ((text t)[i]? = some '\\' ∨ (text t)[i]? = some '}') :=
  (guardedAt_of_pairAt (by decide) h).behind

theorem getLast?_text (t : Text) : (text t).getLast? = t.getLast? := by
  rw [text, getLast?_pairs, getLast?_pairs]

end Escape

end PromptTemplate
