import PromptTemplate.Proofs.Token.Quote

namespace PromptTemplate

def Text.PairAt (brace : Char) (t : Text) (p : Nat) : Prop :=
  t[p]? = some brace ∧ t[p + 1]? = some brace

namespace Text

variable {brace c : Char} {t : Text}

theorem pairAt_cons_succ (p : Nat) : PairAt brace (c :: t) (p + 1) ↔ PairAt brace t p := by
  simp [PairAt]

theorem pairAt_append (a : Text) (p : Nat) :
    PairAt brace (a ++ t) (a.length + p) ↔ PairAt brace t p := by
  induction a with
  | nil => simp
  | cons c a ih =>
      rw [List.length_cons, Nat.add_right_comm, List.cons_append, pairAt_cons_succ]
      exact ih

theorem pairAt_zero : PairAt brace t 0 ↔ ∃ r, t = brace :: brace :: r := by
  match t with
  | [] => simp [PairAt]
  | [c] => simp [PairAt]
  | c :: d :: r => simp [PairAt]

theorem pairAt_iff_split {p : Nat} :
    PairAt brace t p ↔ ∃ a r, a.length = p ∧ t = a ++ brace :: brace :: r := by
  constructor
  · intro h
    have hlt : p < t.length := (List.getElem?_eq_some_iff.mp h.1).1
    have hlen : (t.take p).length = p := by simp; omega
    have hdrop : PairAt brace (t.take p ++ t.drop p) ((t.take p).length + 0) := by
      rwa [List.take_append_drop, hlen]
    obtain ⟨r, hr⟩ := pairAt_zero.mp ((pairAt_append _ 0).mp hdrop)
    exact ⟨t.take p, r, hlen, by rw [← hr, List.take_append_drop]⟩
  · rintro ⟨a, r, rfl, rfl⟩
    exact (pairAt_append a 0).mpr (pairAt_zero.mpr ⟨r, rfl⟩)

def Confined (c : Char) (part t : Text) : Prop :=
  ∃ a b, t = a ++ part ++ b ∧ c ∉ a ∧ c ∉ b

theorem confined_nil (h : c ∉ t) : Confined c [] t :=
  ⟨t, [], by simp, h, by simp⟩

theorem Confined.around {part a b : Text} (h : Confined c part t) (ha : c ∉ a) (hb : c ∉ b) :
    Confined c part (a ++ t ++ b) := by
  obtain ⟨a', b', rfl, ha', hb'⟩ := h
  exact ⟨a ++ a', b' ++ b, by simp, by simp [ha, ha'], by simp [hb, hb']⟩

theorem Confined.pairless {part : Text} (h : Confined c part t)
    (hpart : ∀ d, ¬ PairAt c part d) : ∀ d, ¬ PairAt c t d := by
  obtain ⟨a, b, rfl, ha, hb⟩ := h
  have hinside (d : Nat) (hd : (a ++ part ++ b)[d]? = some c) :
      ∃ k, d = a.length + k ∧ part[k]? = some c := by
    rw [List.append_assoc] at hd
    rcases Nat.lt_or_ge d a.length with hlt | hge
    · rw [List.getElem?_append_left hlt] at hd
      exact absurd (List.mem_of_getElem? hd) ha
    · obtain ⟨k, rfl⟩ := Nat.exists_eq_add_of_le hge
      rw [List.getElem?_append_right hge, Nat.add_sub_cancel_left] at hd
      rcases Nat.lt_or_ge k part.length with hlt | hge
      · rw [List.getElem?_append_left hlt] at hd
        exact ⟨k, rfl, hd⟩
      · rw [List.getElem?_append_right hge] at hd
        exact absurd (List.mem_of_getElem? hd) hb
  rintro d ⟨hfirst, hsecond⟩
  obtain ⟨k, rfl, hk⟩ := hinside d hfirst
  obtain ⟨j, hj, hsecond⟩ := hinside _ hsecond
  obtain rfl : j = k + 1 := by omega
  exact hpart k ⟨hk, hsecond⟩

end Text

def Tag.quoted : Tag → Text
  | .opening o => (o.comparison.bind (·.literal)).getD []
  | _ => []

namespace Token

open Text (IsQuote Confined)

theorem closing_notMem {t : Text} (h : Plain t) : '}' ∉ t :=
  fun hmem => absurd (h _ hmem) (by decide)

theorem confined_of_ending {c : Comparison} {operand : Text} (h : c.Ending operand) :
    Confined '}' (c.literal.getD []) operand := by
  cases h with
  | @literal op literal blank quote _ hquote _ hblank _ =>
      have hne : '}' ≠ quote := by rcases hquote with rfl | rfl <;> decide
      refine ⟨blank ++ [quote], [quote], by simp, ?_, by simpa using hne⟩
      simpa [hne] using closing_notMem (plain_blank hblank)
  | key _ hother hblank _ =>
      exact Text.confined_nil
        (closing_notMem (plain_append (plain_blank hblank) (plain_key hother)))
  | alone _ => exact Text.confined_nil List.not_mem_nil

-- no brace can stand outside of a literal
theorem confined_of_spelled {tag : Tag} {content : Text} (h : tag.Spelled content) :
    Confined '}' tag.quoted content := by
  obtain ⟨front, core, back, hfront, hcore, hback, rfl⟩ := h
  refine Confined.around ?_ (closing_notMem (plain_blank hfront))
    (closing_notMem (plain_blank hback))
  cases hcore with
  | otherwise => exact Text.confined_nil (by decide)
  | «variable» hkey _ => exact Text.confined_nil (closing_notMem (plain_key hkey))
  | @closing helper =>
      exact Text.confined_nil (by simpa using closing_notMem (plain_name helper))
  | opening ho =>
      cases ho with
      | @simple helper key blank hblank _ hkey =>
          have hplain := plain_append (plain_append (plain_name helper) (plain_blank hblank))
            (plain_key hkey)
          exact Text.confined_nil (by simpa using closing_notMem hplain)
      | @compared helper key before inner between after operand c _ hkey hop hbefore _ hinner
          hbetween _ hafter =>
          have hfront :
              '}' ∉ '#' :: helper.name ++ before ++ '(' :: inner ++ c.op ++ between ++ key := by
            simp [closing_notMem (plain_name helper), closing_notMem (plain_blank hbefore),
              closing_notMem (plain_blank hinner), closing_notMem (plain_op hop),
              closing_notMem (plain_blank hbetween), closing_notMem (plain_key hkey)]
          have hback : '}' ∉ after ++ [')'] := by
            simp [closing_notMem (plain_blank hafter)]
          simpa [Tag.quoted] using (confined_of_ending hop).around hfront hback

theorem cutClose?_eq_some_iff {quote : Option Char} {t content rest : Text} :
    cutClose? quote t = some (content, rest) ↔
      t = content ++ '}' :: '}' :: rest ∧ (quoteAfter? quote content).isSome ∧
        ∀ d < content.length, ¬ Text.PairAt '}' t d := by
  fun_induction cutClose? quote t generalizing content with
  | case1 => simp
  | case2 quote r =>
      cases content with
      | nil => simp [quoteAfter?, eq_comm]
      | cons c content =>
          have hpair : Text.PairAt '}' ('}' :: '}' :: r) 0 := Text.pairAt_zero.mpr ⟨r, rfl⟩
          simp only [Option.some.injEq, Prod.mk.injEq, List.nil_eq, reduceCtorEq, false_and,
            false_iff, not_and]
          intro _ _ hnone
          exact hnone 0 (by simp) hpair
  | case3 quote c r hne hq =>
      cases content with
      | nil =>
          simp only [reduceCtorEq, List.nil_append, false_iff, not_and]
          intro heq
          exact absurd heq (by simpa using hne rest)
      | cons d content =>
          simp only [reduceCtorEq, List.cons_append, List.cons.injEq, false_iff, not_and]
          rintro ⟨rfl, _⟩ hsome
          simp [quoteAfter?, hq] at hsome
  | case4 quote c r hne q hq ih =>
      cases content with
      | nil =>
          simp only [Option.map_eq_some_iff, Prod.mk.injEq, reduceCtorEq, false_and, and_false,
            exists_false, List.nil_append, false_iff, not_and]
          intro heq
          exact absurd heq (by simpa using hne rest)
      | cons d content =>
          have hzero : ¬ Text.PairAt '}' (c :: r) 0 := by
            rw [Text.pairAt_zero]
            rintro ⟨r', heq⟩
            obtain ⟨rfl, rfl⟩ := List.cons.inj heq
            exact hne r' rfl rfl
          have hpairs : (∀ k < (d :: content).length, ¬ Text.PairAt '}' (c :: r) k) ↔
              ∀ k < content.length, ¬ Text.PairAt '}' r k := by
            constructor
            · intro h k hk
              rw [← Text.pairAt_cons_succ]
              exact h (k + 1) (by simpa using hk)
            · intro h k hk
              cases k with
              | zero => exact hzero
              | succ k =>
                  rw [Text.pairAt_cons_succ]
                  exact h k (by simpa using hk)
          rw [hpairs]
          simp only [List.cons_append, List.cons.injEq, and_assoc]
          constructor
          · intro h
            obtain ⟨⟨content', rest'⟩, hcut, heq⟩ := Option.map_eq_some_iff.mp h
            simp only [Prod.mk.injEq, List.cons.injEq] at heq
            obtain ⟨⟨rfl, rfl⟩, rfl⟩ := heq
            rw [quoteAfter?, hq]
            exact ⟨rfl, ih.mp hcut⟩
          · rintro ⟨rfl, h⟩
            rw [quoteAfter?, hq] at h
            rw [ih.mpr h]
            rfl

theorem nearest_iff {content rest : Text} {found : Tag} (h : Tag.read? content = some found) :
    (∀ d < content.length, ¬ Text.PairAt '}' (content ++ '}' :: '}' :: rest) d) ↔
      ∀ d, ¬ Text.PairAt '}' content d := by
  constructor
  · intro hnone d hd
    have hlt : d + 1 < content.length := (List.getElem?_eq_some_iff.mp hd.2).1
    refine hnone d (by omega) ⟨?_, ?_⟩
    · rw [List.getElem?_append_left (by omega)]
      exact hd.1
    · rw [List.getElem?_append_left hlt]
      exact hd.2
  · intro hnone d hlt hd
    have hfirst : content[d]? = some '}' := by
      rw [← hd.1, List.getElem?_append_left hlt]
    rcases Nat.lt_or_ge (d + 1) content.length with hin | hout
    · refine hnone d ⟨hfirst, ?_⟩
      rw [← hd.2, List.getElem?_append_left hin]
    · obtain rfl | ⟨front, c, rfl⟩ := List.eq_nil_or_concat content
      · simp at hlt
      · obtain rfl : d = front.length := by simp at hlt hout; omega
        obtain rfl : c = '}' := by simpa using hfirst
        have hlast := last_of_read? (by simpa using h)
        revert hlast
        unfold IsQuote
        decide

end Token

end PromptTemplate
