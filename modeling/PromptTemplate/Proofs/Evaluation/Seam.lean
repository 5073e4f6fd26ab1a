import PromptTemplate.Proofs.Escape.Pairs
import PromptTemplate.Proofs.Evaluation.Emission

namespace PromptTemplate

namespace Piece

def Clean : Piece → Prop
  | .fixed content => '{' ∉ content ∧ '}' ∉ content ∧ '\\' ∉ content
  | .value _ => True
  | .hole key => Tag.isKey key ∧ key ≠ "else".toList

variable {p : Piece} {brace : Char} {k : Nat}

theorem notMem_key {key : Text} (hkey : Tag.isKey key) {c : Char} (hc : ¬ Token.isTagChar c) :
    c ∉ key :=
  fun hmem => hc (Token.plain_key hkey c hmem)

theorem pairAt_open (hp : p.Clean) (h : Text.PairAt '{' p.text k) :
    Token.EscapedAt p.text k ∨ k = 0 ∧ ∃ key, p = .hole key := by
  cases p with
  | fixed content => exact absurd (List.mem_of_getElem? h.1) hp.1
  | value t => exact .inl (Escape.pairAt_open h)
  | hole key =>
      refine .inr ⟨?_, key, rfl⟩
      cases k with
      | zero => rfl
      | succ k =>
          have hmem : '{' ∈ key ++ ['}', '}'] := List.mem_of_getElem? h.2
          have hkey := notMem_key hp.1 (c := '{') (by decide)
          simp [hkey] at hmem

theorem pairAt_close (hp : p.Clean) (h : Text.PairAt '}' p.text k) :
    (∃ i, k = i + 1 ∧ (p.text[i]? = some '\\' ∨ p.text[i]? = some '}')) ∨
      ∃ key, p = .hole key ∧ k = key.length + 2 := by
  cases p with
  | fixed content => exact absurd (List.mem_of_getElem? h.1) hp.2.1
  | value t => exact .inl (Escape.pairAt_close h)
  | hole key =>
      refine .inr ⟨key, rfl, ?_⟩
      have hkey := notMem_key hp.1 (c := '}') (by decide)
      rcases k with _ | _ | k
      · exact absurd h.1 (by simp [text, placeholder])
      · exact absurd h.1 (by simp [text, placeholder])
      · have hfirst : (key ++ ['}', '}'])[k]? = some '}' := h.1
        have hsecond : (key ++ ['}', '}'])[k + 1]? = some '}' := h.2
        have hle : key.length ≤ k := by
          refine Nat.not_lt.mp fun hlt => hkey ?_
          rw [List.getElem?_append_left hlt] at hfirst
          exact List.mem_of_getElem? hfirst
        have hlt := (List.getElem?_eq_some_iff.mp hsecond).1
        simp at hlt
        omega

theorem pairAt_joined {ps : List Piece} (h : Text.PairAt brace (joined ps) k) :
    (∃ front p back j, ps = front ++ p :: back ∧ k = (joined front).length + j ∧
      Text.PairAt brace p.text j) ∨
    ∃ front back a r, ps = front ++ back ∧ k = a.length ∧ joined front = a ++ [brace] ∧
      joined back = brace :: r := by
  induction ps generalizing k with
  | nil => simp [joined, Text.PairAt] at h
  | cons p ps ih =>
      rw [joined_cons] at h
      rcases Nat.lt_or_ge k p.text.length with hin | hout
      · have hfirst := h.1
        rw [List.getElem?_append_left hin] at hfirst
        rcases Nat.lt_or_ge (k + 1) p.text.length with hboth | hseam
        · have hsecond := h.2
          rw [List.getElem?_append_left hboth] at hsecond
          exact .inl ⟨[], p, ps, k, rfl, by simp [joined], hfirst, hsecond⟩
        · obtain hnil | ⟨a, c, hlast⟩ := List.eq_nil_or_concat p.text
          · simp [hnil] at hin
          · have hk : k = a.length := by simp [hlast] at hin hseam; omega
            have hc : c = brace := by simpa [hlast, hk] using hfirst
            have hsecond := h.2
            rw [List.getElem?_append_right hseam, hlast, hk] at hsecond
            obtain ⟨r, hr⟩ := List.head?_eq_some_iff.mp
              (List.head?_eq_getElem?.trans (by simpa using hsecond))
            exact .inr ⟨[p], ps, a, r, rfl, hk, by simp [joined, hlast, hc], hr⟩
      · obtain ⟨j, rfl⟩ : ∃ j, k = p.text.length + j := ⟨_, (Nat.add_sub_cancel' hout).symm⟩
        rw [Text.pairAt_append] at h
        rcases ih h with ⟨front, q, back, i, rfl, rfl, hq⟩ |
          ⟨front, back, a, r, rfl, rfl, hfront, hback⟩
        · exact .inl ⟨p :: front, q, back, i, rfl, by simp [joined_cons]; omega, hq⟩
        · exact .inr ⟨p :: front, back, p.text ++ a, r, rfl, by simp, by simp [joined_cons, hfront],
            hback⟩

end Piece

end PromptTemplate
