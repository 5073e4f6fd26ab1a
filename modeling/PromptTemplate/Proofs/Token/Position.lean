import Mathlib.Tactic.ByContra
import PromptTemplate.Proofs.Token.Content

namespace PromptTemplate

theorem Text.getElem?_within {t : Text} {i : Nat} {c : Char} (h : t[i]? = some c) (a b : Text) :
    (a ++ (t ++ b))[a.length + i]? = some c := by
  have hlt := (List.getElem?_eq_some_iff.mp h).1
  rw [List.getElem?_append_right (Nat.le_add_right ..), Nat.add_sub_cancel_left,
    List.getElem?_append_left hlt, h]

namespace Token

/-- Two braces are escaped by a backslash before them, also if one brace stands between. -/
def EscapedAt (t : Text) (p : Nat) : Prop :=
  (∃ i, p = i + 1 ∧ t[i]? = some '\\') ∨
    ∃ i, p = i + 2 ∧ t[i]? = some '\\' ∧ t[i + 1]? = some '{'

theorem EscapedAt.within {t : Text} {k : Nat} (h : EscapedAt t k) (a b : Text) :
    EscapedAt (a ++ (t ++ b)) (a.length + k) := by
  rcases h with ⟨i, rfl, hi⟩ | ⟨i, rfl, hi, hj⟩
  · exact .inl ⟨a.length + i, rfl, Text.getElem?_within hi a b⟩
  · exact .inr ⟨a.length + i, rfl, Text.getElem?_within hi a b, Text.getElem?_within hj a b⟩

structure TagAt (t : Text) (p c : Nat) (found : Tag) : Prop where
  opened : Text.PairAt '{' t p
  free : ¬ EscapedAt t p
  behind : p + 2 ≤ c
  closed : Text.PairAt '}' t c
  nearest : ∀ d, p + 2 ≤ d → d < c → ¬ Text.PairAt '}' t d
  read : Tag.read? ((t.drop (p + 2)).take (c - (p + 2))) = some found

theorem escaped_cons_cons (a b : Char) (r : Text) :
    escaped (a :: b :: r) ↔ a = '\\' ∨ b = '\\' ∧ a = '{' := by
  by_cases ha : a = '\\'
  · simp [escaped, ha]
  · by_cases hb : b = '\\' ∧ a = '{'
    · simp [escaped, hb]
    · unfold escaped
      split <;> simp_all

theorem escapedAt_iff (before t : Text) :
    EscapedAt (before.reverse ++ t) before.length ↔ escaped before := by
  match before with
  | [] => simp [EscapedAt, escaped]
  | [a] =>
      have ha : escaped [a] ↔ a = '\\' := by
        unfold escaped
        split <;> simp_all
      simp [EscapedAt, ha]
  | a :: b :: r =>
      have hb : ((a :: b :: r).reverse ++ t)[r.length]? = some b := by simp
      have ha : ((a :: b :: r).reverse ++ t)[r.length + 1]? = some a := by simp
      rw [escaped_cons_cons, EscapedAt]
      constructor
      · rintro (⟨i, hi, hc⟩ | ⟨i, hi, hc, hd⟩)
        · obtain rfl : i = r.length + 1 := by simpa using hi.symm
          rw [ha] at hc
          exact .inl (Option.some.inj hc)
        · obtain rfl : i = r.length := by simpa using hi.symm
          rw [hb] at hc
          rw [ha] at hd
          exact .inr ⟨Option.some.inj hc, Option.some.inj hd⟩
      · rintro (rfl | ⟨rfl, rfl⟩)
        · exact .inl ⟨r.length + 1, rfl, ha⟩
        · exact .inr ⟨r.length, rfl, hb, ha⟩

theorem escapedAt_append_iff (before t : Text) :
    EscapedAt (before ++ t) before.length ↔ escaped before.reverse := by
  simpa using escapedAt_iff before.reverse t

theorem tagHere?_eq_some_iff {before t rest : Text} {found : Tag} {n : Nat} :
    tagHere? before t = some (found, n, rest) ↔
      escaped before = false ∧ ∃ content, content.length = n ∧
        t = '{' :: '{' :: content ++ '}' :: '}' :: rest ∧
        (∀ d < n, ¬ Text.PairAt '}' (content ++ '}' :: '}' :: rest) d) ∧
        Tag.read? content = some found := by
  constructor
  · intro h
    unfold tagHere? at h
    split at h
    · split at h
      · simp at h
      · rename_i hfree
        split at h
        · simp at h
        · rename_i content rest' hcut
          obtain ⟨hsplit, -, hnone⟩ := cutClose?_eq_some_iff.mp hcut
          obtain ⟨tag, hread, heq⟩ := Option.map_eq_some_iff.mp h
          cases heq
          exact ⟨by simpa using hfree, content, rfl, by rw [hsplit]; rfl, hsplit ▸ hnone, hread⟩
    · simp at h
  · rintro ⟨hfree, content, rfl, rfl, hnone, hread⟩
    have hcut : cutClose? none (content ++ '}' :: '}' :: rest) = some (content, rest) := by
      rw [cutClose?_eq_some_iff, quoteAfter?_of_read? hread]
      exact ⟨rfl, rfl, hnone⟩
    simp [tagHere?, hfree, hcut, hread]

theorem take_braced (content rest : Text) :
    ('{' :: '{' :: content ++ '}' :: '}' :: rest).take (content.length + 4) =
      '{' :: '{' :: content ++ ['}', '}'] := by
  have hsplit : '{' :: '{' :: content ++ '}' :: '}' :: rest =
      ('{' :: '{' :: content ++ ['}', '}']) ++ rest := by simp
  rw [hsplit, List.take_left' (by simp)]

theorem tagAt_iff_tagHere? {before t : Text} {c : Nat} {found : Tag} :
    TagAt (before.reverse ++ t) before.length c found ↔
      ∃ n rest, tagHere? before t = some (found, n, rest) ∧ c = before.length + 2 + n := by
  have hpair (brace : Char) (d : Nat) :
      Text.PairAt brace (before.reverse ++ t) (before.length + d) ↔ Text.PairAt brace t d := by
    have h : Text.PairAt brace (before.reverse ++ t) (before.reverse.length + d) ↔
        Text.PairAt brace t d := Text.pairAt_append _ _
    simpa using h
  have hdrop (d : Nat) : (before.reverse ++ t).drop (before.length + d) = t.drop d := by
    simp [List.drop_append]
  simp only [tagHere?_eq_some_iff]
  constructor
  · intro h
    obtain ⟨n, rfl⟩ : ∃ n, c = before.length + 2 + n := ⟨_, (Nat.add_sub_cancel' h.behind).symm⟩
    obtain ⟨r, rfl⟩ := Text.pairAt_zero.mp ((hpair '{' 0).mp h.opened)
    have hclosed : Text.PairAt '}' r n := by
      have hshift := h.closed
      rw [Nat.add_assoc, hpair, Nat.add_comm] at hshift
      simpa only [Text.pairAt_cons_succ] using hshift
    obtain ⟨content, rest, hn, rfl⟩ := Text.pairAt_iff_split.mp hclosed
    refine ⟨n, rest, ⟨?_, content, hn, rfl, ?_, ?_⟩, rfl⟩
    · rw [← Bool.not_eq_true, ← escapedAt_iff]
      exact h.free
    · intro d hd hclose
      refine h.nearest (before.length + 2 + d) (by omega) (by omega) ?_
      rw [Nat.add_assoc, hpair, Nat.add_comm]
      simpa only [Text.pairAt_cons_succ] using hclose
    · have hread := h.read
      rw [hdrop, Nat.add_sub_cancel_left] at hread
      simpa [hn] using hread
  · rintro ⟨n, rest, ⟨hfree, content, hn, rfl, hnone, hread⟩, rfl⟩
    refine ⟨(hpair '{' 0).mpr (Text.pairAt_zero.mpr ⟨_, rfl⟩), ?_, by omega, ?_, ?_, ?_⟩
    · rw [escapedAt_iff, hfree]
      simp
    · rw [Nat.add_assoc, hpair]
      exact Text.pairAt_iff_split.mpr ⟨'{' :: '{' :: content, rest, by simp [hn]; omega, rfl⟩
    · intro d hd hlt hclose
      obtain ⟨k, rfl⟩ : ∃ k, d = before.length + 2 + k := ⟨_, (Nat.add_sub_cancel' hd).symm⟩
      rw [Nat.add_assoc, hpair, Nat.add_comm] at hclose
      simp only [List.cons_append, Text.pairAt_cons_succ] at hclose
      exact hnone k (by omega) hclose
    · rw [hdrop, Nat.add_sub_cancel_left]
      simpa [hn] using hread

theorem tagAt_append_iff {before t : Text} {c : Nat} {found : Tag} :
    TagAt (before ++ t) before.length c found ↔
      ∃ n rest, tagHere? before.reverse t = some (found, n, rest) ∧ c = before.length + 2 + n := by
  have h := @tagAt_iff_tagHere? before.reverse t c found
  rwa [List.reverse_reverse, List.length_reverse] at h

theorem tagAt_iff_split {t : Text} {p c : Nat} {found : Tag} :
    TagAt t p c found ↔ ∃ before content rest,
      t = before ++ '{' :: '{' :: content ++ '}' :: '}' :: rest ∧ p = before.length ∧
      c = before.length + 2 + content.length ∧ escaped before.reverse = false ∧
      (∀ d, ¬ Text.PairAt '}' content d) ∧ Tag.read? content = some found := by
  constructor
  · intro h
    obtain ⟨before, r, rfl, rfl⟩ := Text.pairAt_iff_split.mp h.opened
    obtain ⟨n, rest, hhere, rfl⟩ := tagAt_append_iff.mp h
    obtain ⟨hfree, content, rfl, hsplit, hnone, hread⟩ := tagHere?_eq_some_iff.mp hhere
    refine ⟨before, content, rest, ?_, rfl, rfl, hfree, (nearest_iff hread).mp hnone, hread⟩
    rw [hsplit]
    simp
  · rintro ⟨before, content, rest, rfl, rfl, rfl, hfree, hnone, hread⟩
    rw [List.append_assoc]
    refine tagAt_append_iff.mpr ⟨content.length, rest, ?_, rfl⟩
    exact tagHere?_eq_some_iff.mpr
      ⟨hfree, content, rfl, rfl, (nearest_iff hread).mpr hnone, hread⟩

theorem TagAt.stop_eq {t : Text} {p c d : Nat} {found : Tag} (h : TagAt t p c found)
    (hbehind : p + 2 ≤ d) (hclosed : Text.PairAt '}' t d)
    (hnearest : ∀ e, p + 2 ≤ e → e < d → ¬ Text.PairAt '}' t e) : c = d := by
  have hle : c ≤ d := Nat.not_lt.mp fun hlt => h.nearest d hbehind hlt hclosed
  have hge : d ≤ c := Nat.not_lt.mp fun hlt => hnearest c h.behind hlt h.closed
  omega

theorem TagAt.unique {t : Text} {p c d : Nat} {found other : Tag} (h : TagAt t p c found)
    (h' : TagAt t p d other) : c = d ∧ found = other := by
  obtain rfl := h.stop_eq h'.behind h'.closed h'.nearest
  exact ⟨rfl, Option.some.inj (h.read.symm.trans h'.read)⟩

-- a tag inside another one would begin in a literal, whose quote is open there, and yet end where
-- no quote is open
theorem TagAt.disjoint {t : Text} {p q c d : Nat} {found other : Tag} (hp : TagAt t p c found)
    (hq : TagAt t q d other) (hlt : p < q) : c + 2 ≤ q := by
  by_contra hover
  have hqc : q + 2 ≤ c := by
    have hopen := hq.opened
    have hclosed := hp.closed
    have hne (i j : Nat) (hi : t[i]? = some '{') (hj : t[j]? = some '}') : i ≠ j := by
      rintro rfl
      rw [hi] at hj
      exact absurd hj (by decide)
    have h₁ := hne _ _ hopen.1 hclosed.1
    have h₂ := hne _ _ hopen.1 hclosed.2
    have h₃ := hne _ _ hopen.2 hclosed.1
    omega
  have hend : d = c := by
    have hbehind := hq.behind
    have hle : c ≤ d := Nat.not_lt.mp fun h => hp.nearest d (by omega) h hq.closed
    have hge : d ≤ c := Nat.not_lt.mp fun h => hq.nearest c hqc h hp.closed
    omega
  subst hend
  have hquote := quoteAfter?_of_read? hp.read
  have hchar (k : Nat) (hk : p + 2 + k < d) :
      ((t.drop (p + 2)).take (d - (p + 2)))[k]? = t[p + 2 + k]? := by
    rw [List.getElem?_take_of_lt (by omega), List.getElem?_drop]
  rcases Nat.lt_or_ge q (p + 2) with hnear | hfar
  · obtain rfl : q = p + 1 := by omega
    have hhead := (hchar 0 (by omega)).trans hq.opened.2
    obtain ⟨inner, hinner⟩ := List.head?_eq_some_iff.mp (List.head?_eq_getElem?.trans hhead)
    rw [hinner, ← List.nil_append ('{' :: inner)] at hquote
    obtain ⟨a, -, hnil, -⟩ := quoteAfter?_brace hquote
    simp [quoteAfter?] at hnil
  · obtain ⟨k, rfl⟩ : ∃ k, q = p + 2 + k := ⟨_, (Nat.add_sub_cancel' hfar).symm⟩
    have hopen : Text.PairAt '{' ((t.drop (p + 2)).take (d - (p + 2))) k :=
      ⟨(hchar k (by omega)).trans hq.opened.1, (hchar (k + 1) (by omega)).trans hq.opened.2⟩
    obtain ⟨outer, inner, rfl, hsplit⟩ := Text.pairAt_iff_split.mp hopen
    have hinner :
        (t.drop (p + 2 + outer.length + 2)).take (d - (p + 2 + outer.length + 2)) = inner := by
      have hdrop := congrArg (List.drop (outer.length + 2)) hsplit
      rw [List.drop_take, List.drop_drop] at hdrop
      simpa [Nat.sub_sub, Nat.add_assoc] using hdrop
    have hquoteInner := hinner ▸ quoteAfter?_of_read? hq.read
    rw [hsplit, List.append_cons] at hquote
    obtain ⟨a, ha, -, hafter⟩ := quoteAfter?_brace hquote
    have habsurd := quoteAfter?_injective (by simpa using ha) (by simp) hafter hquoteInner
    simp at habsurd

end Token

end PromptTemplate
