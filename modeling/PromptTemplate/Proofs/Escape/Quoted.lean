import PromptTemplate.Proofs.Escape.Joined
import PromptTemplate.Proofs.Escape.Inverse

namespace PromptTemplate

namespace Text

variable {quote c : Char} {t u x : Text}

def Guarded (t : Text) : Prop :=
  ∀ p, PairAt '{' t p → Token.EscapedAt t p

theorem guarded_escape (t : Text) : Guarded (Escape.text t) :=
  fun _ => Escape.pairAt_open

theorem Braceless.guarded (h : t.Braceless) : t.Guarded :=
  fun _ hpair => absurd rfl (h _ (List.mem_of_getElem? hpair.1)).1

theorem Guarded.isText (h : t.Guarded) : ∀ token ∈ Token.tokenize t, token.isText :=
  Token.all_isText_iff.mpr fun p _ _ hat => hat.free (h p hat.opened)

theorem pairAt_around {brace : Char} (hc : c ≠ brace) {b : Text} {p : Nat} :
    ∀ {a : Text}, PairAt brace (a ++ c :: b) p →
      PairAt brace a p ∨ ∃ j, p = a.length + 1 + j ∧ PairAt brace b j := by
  intro a
  induction a generalizing p with
  | nil =>
      intro h
      cases p with
      | zero => exact absurd (Option.some.inj h.1) hc
      | succ p => exact .inr ⟨p, by simp [Nat.add_comm], (pairAt_cons_succ p).mp h⟩
  | cons d a ih =>
      intro h
      cases p with
      | zero =>
          cases a with
          | nil => exact absurd (Option.some.inj h.2) hc
          | cons e a => exact .inl h
      | succ p =>
          rw [List.cons_append, pairAt_cons_succ] at h
          rcases ih h with h | ⟨j, rfl, hj⟩
          · exact .inl ((pairAt_cons_succ p).mpr h)
          · exact .inr ⟨j, by simp; omega, hj⟩

theorem quoteFor_ne (t : Text) : quoteFor t ≠ '{' ∧ quoteFor t ≠ '\\' := by
  unfold quoteFor
  split <;> decide

theorem escapeChar_shape (quote c : Char) :
    escapeChar quote c = [c] ∨ ∃ w, escapeChar quote c = '\\' :: w ∧ ('{' ∈ w → c = '{') := by
  have hhex {letter : Char} (hletter : letter ≠ '{') (width n : Nat) :
      '{' ∈ letter :: ofHex width n → c = '{' := by
    intro hmem
    have hdigits : '{' ∈ ofHex width n := List.mem_of_ne_of_mem hletter.symm hmem
    exact absurd rfl (braceless_ofHex width n _ hdigits).1
  unfold escapeChar
  split
  · exact .inr ⟨_, rfl, fun hmem => (List.mem_singleton.mp hmem).symm⟩
  split
  · exact .inr ⟨_, rfl, by simp⟩
  split
  · exact .inr ⟨_, rfl, by simp⟩
  split
  · exact .inr ⟨_, rfl, by simp⟩
  split
  · exact .inl rfl
  dsimp only
  split
  · exact .inr ⟨_, rfl, hhex (by decide) 2 _⟩
  split
  · exact .inr ⟨_, rfl, hhex (by decide) 4 _⟩
  · exact .inr ⟨_, rfl, hhex (by decide) 8 _⟩

theorem escapeChar_ne_nil (quote c : Char) : escapeChar quote c ≠ [] := by
  rcases escapeChar_shape quote c with h | ⟨w, h, -⟩
  · simp [h]
  · simp [h]

theorem eq_of_brace_mem_escapeChar (h : '{' ∈ escapeChar quote c) : c = '{' := by
  rcases escapeChar_shape quote c with hshape | ⟨w, hshape, hw⟩
  · rw [hshape] at h
    exact (List.mem_singleton.mp h).symm
  · rw [hshape] at h
    exact hw (List.mem_of_ne_of_mem (by decide) h)

theorem escapeChar_brace (h : quote ≠ '{') : escapeChar quote '{' = ['{'] := by
  have hprintable : isPrintable '{' = true := by decide
  simp [escapeChar, h.symm, hprintable]

theorem escapeChar_backslash (quote : Char) : escapeChar quote '\\' = ['\\', '\\'] := by
  simp [escapeChar]

theorem brace_of_escaped (hq : quote ≠ '{') {p : Nat}
    (h : (u.flatMap (escapeChar quote))[p]? = some '{') :
    ∃ x y, u = x ++ '{' :: y ∧ p = (x.flatMap (escapeChar quote)).length := by
  induction u generalizing p with
  | nil => simp at h
  | cons c u ih =>
      rw [List.flatMap_cons] at h
      rcases Nat.lt_or_ge p (escapeChar quote c).length with hin | hout
      · rw [List.getElem?_append_left hin] at h
        obtain rfl := eq_of_brace_mem_escapeChar (List.mem_of_getElem? h)
        rw [escapeChar_brace hq] at hin
        exact ⟨[], u, rfl, by simpa using hin⟩
      · rw [List.getElem?_append_right hout] at h
        obtain ⟨x, y, rfl, hp⟩ := ih h
        refine ⟨c :: x, y, rfl, ?_⟩
        rw [List.flatMap_cons, List.length_append]
        omega

theorem escaped_flatMap (hq : quote ≠ '{') (h : Token.escaped x.reverse) :
    Token.escaped (x.flatMap (escapeChar quote)).reverse := by
  unfold Token.escaped at h
  split at h
  · rename_i r hx
    rw [List.reverse_eq_cons_iff] at hx
    simp [hx, escapeChar_backslash, Token.escaped]
  · rename_i r hx
    have hx : x = r.reverse ++ ['\\', '{'] := by
      rw [← List.reverse_reverse x, hx]
      simp
    simp [hx, escapeChar_backslash, escapeChar_brace hq, Token.escaped]
  · simp at h

theorem Guarded.flatMap (hq : quote ≠ '{') (h : u.Guarded) :
    Guarded (u.flatMap (escapeChar quote)) := by
  intro p hpair
  obtain ⟨x, y, rfl, rfl⟩ := brace_of_escaped hq hpair.1
  have hsecond := hpair.2
  rw [List.flatMap_append, List.flatMap_cons, escapeChar_brace hq] at hsecond ⊢
  have hnext : (y.flatMap (escapeChar quote))[0]? = some '{' := by
    rw [List.getElem?_append_right (by omega), Nat.add_sub_cancel_left] at hsecond
    exact hsecond
  obtain ⟨w, z, rfl, hw⟩ := brace_of_escaped hq hnext
  have hnil : w = [] := by
    cases w with
    | nil => rfl
    | cons c w =>
        rw [List.flatMap_cons, List.length_append] at hw
        exact absurd (List.length_eq_zero_iff.mp (by omega)) (escapeChar_ne_nil quote c)
  subst hnil
  have hbefore := h x.length (pairAt_iff_split.mpr ⟨x, z, rfl, rfl⟩)
  rw [Token.escapedAt_append_iff] at hbefore ⊢
  exact escaped_flatMap hq hbefore

theorem Guarded.quoted (h : u.Guarded) : u.quoted.Guarded := by
  have hq := (quoteFor_ne u).1
  intro p hpair
  rw [Text.quoted, List.cons_append] at hpair
  obtain hnone | ⟨j, rfl, hj⟩ := pairAt_around (a := []) hq hpair
  · exact absurd hnone.1 (by simp)
  · obtain hin | ⟨k, -, hk⟩ := pairAt_around hq hj
    · rw [List.length_nil, Nat.zero_add]
      exact (h.flatMap hq j hin).within [quoteFor u] [quoteFor u]
    · exact absurd hk.1 (by simp)

end Text

end PromptTemplate
