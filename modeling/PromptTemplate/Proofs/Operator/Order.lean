import PromptTemplate.Proofs.Number.Digits
import PromptTemplate.Proofs.Number.Nearest
import PromptTemplate.Proofs.Operator.Answer

namespace PromptTemplate

theorem Text.digit?_of_isDigit {c : Char} (h : c.isDigit) :
    digit? c = some (c.toNat - '0'.toNat) := by
  simp only [Char.isDigit, Bool.and_eq_true, decide_eq_true_eq, ge_iff_le,
    UInt32.le_iff_toNat_le] at h
  have hrange : 0x30 ≤ c.toNat ∧ c.toNat ≤ 0x39 := h
  have hascii : c.toNat < 0x80 := by omega
  simp [digit?, hascii, hrange]

theorem Text.digits_worths {t : Text} (h : ∀ c ∈ t, c.isDigit) : Digits (worths t) t := by
  induction t with
  | nil => exact .nil
  | cons c t ih =>
      obtain ⟨hc, ht⟩ := List.forall_mem_cons.mp h
      exact .cons (digit?_of_isDigit hc) (ih ht)

namespace Decimal

theorem core_ofInt (n : ℤ) : Core ⟨n < 0, n.natAbs, 0⟩ (Text.ofInt n) := by
  have hdigits (k : ℕ) : Mantissa (Text.worths (Text.ofNat k)) [] (Text.ofNat k) :=
    .whole (Text.digits_worths Text.isDigit_of_mem_ofNat) (by simp [Text.worths, Text.ofNat_ne_nil])
  have hcore {negative : Bool} {s : Text} (hs : Sign negative s) (k : ℕ) :
      Core ⟨negative, k, 0⟩ (s ++ Text.ofNat k) := by
    simpa [Text.digitsValue_ofNat] using Core.mk hs (hdigits k) .absent
  cases n with
  | ofNat k => exact hcore .absent k
  | negSucc k =>
      rw [decide_eq_true (Int.negSucc_lt_zero k)]
      exact hcore .minus (k + 1)

theorem toBinary64_whole {negative : Bool} {k : ℕ} (h : (k : ℚ) < Binary64.overflow) :
    toBinary64 ⟨negative, k, 0⟩ = Binary64.ofRatio negative k 1 := by
  have hfinite : (toBinary64 ⟨negative, k, 0⟩).isFinite :=
    (isFinite_toBinary64_iff _).mpr (by simpa [magnitude] using h)
  unfold toBinary64 at hfinite ⊢
  simp only at hfinite ⊢
  split_ifs at hfinite ⊢ with hzero hgreat hsmall
  · simp [hzero, Binary64.ofRatio]
  · cases hfinite
  · omega
  · show Binary64.ofRatio negative (k * Nat.pow 10 0) 1 = _
    simp

end Decimal

theorem readNumber_of_core {x : Decimal} {t : Text} (h : x.Core t) :
    readNumber t = if x.toBinary64.isFinite then .ok x.toBinary64
      else .error (.undecided (.notFinite t)) := by
  have hread : Decimal.read? Text.digit? t.strip = some x :=
    Decimal.read?_eq_some_iff.mpr ⟨[], t, [], List.forall_mem_nil _, h, List.forall_mem_nil _,
      (List.append_nil t).symm⟩
  have hsep : ¬t.any Text.isSeparator := by
    rw [List.any_eq_true]
    rintro ⟨c, hc, hsep⟩
    exact Text.not_separator_of_core h c hc hsep
  simp [readNumber, hread, hsep]

open Binary64 (overflow)

theorem readNumber_ofInt {n : ℤ} (h : |(n : ℚ)| < overflow) :
    readNumber (Text.ofInt n) = .ok (.ofInt n) := by
  have habs : (n.natAbs : ℚ) < overflow := by rwa [Nat.cast_natAbs, Int.cast_abs]
  have hfinite : (Binary64.ofRatio (n < 0) n.natAbs 1).isFinite :=
    (Binary64.isFinite_ofRatio_iff _ _ one_ne_zero).mpr (by simpa using habs)
  rw [readNumber_of_core (Decimal.core_ofInt n), Decimal.toBinary64_whole habs, if_pos hfinite]
  rfl

theorem readNumber_ofInt_of_overflow {n : ℤ} (h : overflow ≤ |(n : ℚ)|) :
    readNumber (Text.ofInt n) = .error (.undecided (.notFinite (Text.ofInt n))) := by
  have habs : ¬(⟨n < 0, n.natAbs, 0⟩ : Decimal).toBinary64.isFinite := by
    rw [Decimal.isFinite_toBinary64_iff, not_lt]
    simpa [Decimal.magnitude, Nat.cast_natAbs] using h
  rw [readNumber_of_core (Decimal.core_ofInt n), if_neg habs]

theorem Scope.comparisonText_of_int {s : Scope} {key : Text} {n : ℤ}
    (h : s.context.get? key = some (.int n)) : (s.resolve key).comparisonText = Text.ofInt n := by
  have hvalue : s.value? key = some (.int n, .explicit) := by
    rw [value?, h]
    rfl
  rw [resolve, hvalue]
  rfl

inductive Inequality where
  | gt
  | gte
  | lt
  | lte
  deriving DecidableEq, Repr

namespace Inequality

def name : Inequality → Text
  | .gt => "gt".toList
  | .gte => "gte".toList
  | .lt => "lt".toList
  | .lte => "lte".toList

def compare : Inequality → Operand → Operand → Bool
  | .gt => Operand.gt
  | .gte => Operand.ge
  | .lt => Operand.lt
  | .lte => Operand.le

def Holds {α : Type} [LinearOrder α] : Inequality → α → α → Prop
  | .gt, a, b => b < a
  | .gte, a, b => b ≤ a
  | .lt, a, b => a < b
  | .lte, a, b => a ≤ b

instance {α : Type} [LinearOrder α] (i : Inequality) (a b : α) : Decidable (i.Holds a b) :=
  match i with
  | .gt => inferInstanceAs (Decidable (b < a))
  | .gte => inferInstanceAs (Decidable (b ≤ a))
  | .lt => inferInstanceAs (Decidable (a < b))
  | .lte => inferInstanceAs (Decidable (a ≤ b))

def IsStrict (i : Inequality) : Prop :=
  i = .gt ∨ i = .lt

theorem get?_name (i : Inequality) :
    OperatorTable.builtin.get? i.name = some ⟨i.name, .number, 2, Operator.binary i.compare⟩ := by
  cases i <;> rfl

theorem evaluate_name (i : Inequality) (literal : Text) (other : Option Text) (left : Resolved)
    (right : Option Resolved) :
    Comparison.evaluate ⟨i.name, some literal, other⟩ .builtin left right = do
      let x ← readNumber left.comparisonText
      let y ← readNumber literal
      return i.compare (.number x) (.number y) := by
  simp [Comparison.evaluate, get?_name, Comparison.operands, Operator.binary, bind_assoc]

theorem compare_iff_holds (i : Inequality) {x y : Binary64} (hx : x.InRange) (hy : y.InRange) :
    i.compare (.number x) (.number y) ↔ i.Holds x.worth y.worth := by
  have hlt := Binary64.lt_iff_worth hx hy
  have hgt := Binary64.lt_iff_worth hy hx
  have hsame := Binary64.same_iff_worth hx hy
  cases i with
  | gt => exact hgt
  | lt => exact hlt
  | gte =>
      simp only [compare, Operand.ge, Operand.gt, Operand.same, Bool.or_eq_true, hgt, hsame, Holds,
        le_iff_lt_or_eq, eq_comm (a := x.worth)]
  | lte =>
      simp only [compare, Operand.le, Operand.lt, Operand.same, Bool.or_eq_true, hlt, hsame, Holds,
        le_iff_lt_or_eq]

theorem holds_of_strict {i : Inequality} (hi : i.IsStrict) {n m : ℤ} (hn : |(n : ℚ)| < overflow)
    (hm : |(m : ℚ)| < overflow) (h : i.Holds (Binary64.ofInt n).worth (Binary64.ofInt m).worth) :
    i.Holds n m := by
  rcases hi with rfl | rfl
  · exact Binary64.lt_of_worth_ofInt_lt hm hn h
  · exact Binary64.lt_of_worth_ofInt_lt hn hm h

theorem holds_worth_of_not_strict {i : Inequality} (hi : ¬i.IsStrict) {n m : ℤ}
    (hn : |(n : ℚ)| < overflow) (hm : |(m : ℚ)| < overflow) (h : i.Holds n m) :
    i.Holds (Binary64.ofInt n).worth (Binary64.ofInt m).worth := by
  cases i with
  | gt => exact absurd (.inl rfl) hi
  | lt => exact absurd (.inr rfl) hi
  | gte => exact Binary64.worth_ofInt_mono hm hn h
  | lte => exact Binary64.worth_ofInt_mono hn hm h

theorem holds_worth_iff (i : Inequality) {n m : ℤ} (hn : |(n : ℚ)| < overflow)
    (hm : |(m : ℚ)| < overflow)
    (hapart : (Binary64.ofInt n).worth = (Binary64.ofInt m).worth → n = m) :
    i.Holds (Binary64.ofInt n).worth (Binary64.ofInt m).worth ↔ i.Holds n m := by
  have hlt := Binary64.worth_ofInt_lt_iff hn hm hapart
  have hgt := Binary64.worth_ofInt_lt_iff hm hn fun heq => (hapart heq.symm).symm
  cases i with
  | gt => exact hgt
  | gte => exact le_iff_le_iff_lt_iff_lt.mpr hlt
  | lt => exact hlt
  | lte => exact le_iff_le_iff_lt_iff_lt.mpr hgt

end Inequality

/-- The answer is the one about the nearest binary numbers. It is the one about the whole numbers
unless two different ones have the same nearest number, and then it errs to one side only. The two
numbers are such as can be written at all. -/
theorem whole_numbers_compared (i : Inequality) {s : Scope} {key : Text} {n m : ℤ}
    (hvalue : s.context.get? key = some (.int n)) (_ : |n| < 10 ^ Text.maxDigits)
    (_ : |m| < 10 ^ Text.maxDigits) (other : Option Text) (right : Option Resolved) :
    let c : Comparison := ⟨i.name, some (Text.ofInt m), other⟩
    let answer := c.evaluate .builtin (s.resolve key) right
    let x := Binary64.ofInt n
    let y := Binary64.ofInt m
    (overflow ≤ |(n : ℚ)| ∨ overflow ≤ |(m : ℚ)| →
      ∃ e, answer = .error (.undecided e) ∧ e.IsInvalidOperand) ∧
    (|(n : ℚ)| < overflow → |(m : ℚ)| < overflow →
      x.Nearest n ∧ y.Nearest m ∧
      ∃ b : Bool, answer = .ok b ∧ (b ↔ i.Holds x.worth y.worth) ∧
        ((x.worth = y.worth → n = m) → (b ↔ i.Holds n m)) ∧
        (Binary64.IsShort n → Binary64.IsShort m → (b ↔ i.Holds n m)) ∧
        (i.IsStrict → b → i.Holds n m) ∧ (¬i.IsStrict → i.Holds n m → b)) := by
  intro c answer x y
  have hanswer : answer = do
      let x ← readNumber (Text.ofInt n)
      let y ← readNumber (Text.ofInt m)
      return i.compare (.number x) (.number y) := by
    rw [← Scope.comparisonText_of_int hvalue]
    exact i.evaluate_name _ _ _ _
  constructor
  · intro hlarge
    rcases le_or_gt overflow |(n : ℚ)| with hn | hn
    · rw [hanswer, readNumber_ofInt_of_overflow hn]
      exact ⟨_, rfl, rfl⟩
    · have hm := hlarge.resolve_left hn.not_ge
      rw [hanswer, readNumber_ofInt hn, readNumber_ofInt_of_overflow hm]
      exact ⟨_, rfl, rfl⟩
  · intro hn hm
    have hx := Binary64.nearest_ofInt hn
    have hy := Binary64.nearest_ofInt hm
    have hholds := i.compare_iff_holds hx.inRange hy.inRange
    have hexact := i.holds_worth_iff hn hm
    refine ⟨hx, hy, i.compare (.number x) (.number y), ?_, hholds, ?_, ?_, ?_, ?_⟩
    · rw [hanswer, readNumber_ofInt hn, readNumber_ofInt hm]
      rfl
    · exact fun hapart => hholds.trans (hexact hapart)
    · intro hshort hshort'
      refine hholds.trans (hexact fun heq => ?_)
      rw [Binary64.worth_ofInt hshort hn, Binary64.worth_ofInt hshort' hm] at heq
      exact Int.cast_injective heq
    · exact fun hi h => Inequality.holds_of_strict hi hn hm (hholds.mp h)
    · exact fun hi h => hholds.mpr (Inequality.holds_worth_of_not_strict hi hn hm h)

theorem powers_of_two_compared :
    let s : Scope := ⟨[(['n'], .int (2 ^ 100))], [], .comma⟩
    let answer (m : ℤ) := Comparison.evaluate ⟨"lt".toList, some (Text.ofInt m), none⟩ .builtin
      (s.resolve ['n']) none
    answer (2 ^ 100 + 2 ^ 50) = .ok true ∧
      ∃ e, answer (10 ^ 310) = .error (.undecided e) ∧ e.IsInvalidOperand := by
  intro s answer
  have hvalue : s.context.get? ['n'] = some (.int (2 ^ 100)) := rfl
  have hwritten (k : ℕ) (hk : k < Text.maxDigits) {n : ℤ} (hpos : 0 < n) (hn : n ≤ 10 ^ k) :
      |n| < 10 ^ Text.maxDigits :=
    calc |n| = n := abs_of_pos hpos
      _ ≤ 10 ^ k := hn
      _ < 10 ^ Text.maxDigits := pow_lt_pow_right₀ (by decide) hk
  have hfits {n : ℤ} (hpos : 0 < n) (hn : n < 2 ^ 101) : |(n : ℚ)| < overflow :=
    calc |(n : ℚ)| = n := abs_of_pos (Int.cast_pos.mpr hpos)
      _ < 2 ^ (101 : ℤ) := by exact_mod_cast hn
      _ ≤ 2 ^ (1023 : ℤ) := zpow_le_zpow_right₀ (by norm_num) (by norm_num)
      _ ≤ overflow := Binary64.overflow_bounds.1
  have hlarge : overflow ≤ |((10 ^ 310 : ℤ) : ℚ)| :=
    calc overflow ≤ 2 ^ (1024 : ℤ) := Binary64.overflow_bounds.2
      _ ≤ 10 ^ (310 : ℤ) := by exact_mod_cast Decimal.two_pow_le
      _ = ((10 ^ 310 : ℤ) : ℚ) := by rw [Int.cast_pow, Int.cast_ofNat, zpow_ofNat]
      _ ≤ |((10 ^ 310 : ℤ) : ℚ)| := le_abs_self _
  have hleft := hwritten 40 (by decide) (n := 2 ^ 100) (by decide) (by decide)
  constructor
  · obtain ⟨-, hsmall⟩ := whole_numbers_compared .lt (m := 2 ^ 100 + 2 ^ 50) hvalue hleft
      (hwritten 40 (by decide) (by decide) (by decide)) none none
    obtain ⟨-, -, b, hb, -, -, hshort, -⟩ := hsmall (hfits (by decide) (by decide))
      (hfits (by decide) (by decide))
    have htrue : b = true := (hshort ⟨1, 100, by decide, by decide⟩
      ⟨2 ^ 50 + 1, 50, by decide, by decide⟩).mpr (by decide)
    exact htrue ▸ hb
  · have hright := hwritten 310 (by decide) (pow_pos (by decide) 310) le_rfl
    exact (whole_numbers_compared .lt hvalue hleft hright none none).1 (.inr hlarge)

theorem successor_not_greater :
    let s : Scope := ⟨[(['n'], .int 9007199254740993), (['h'], .int (10 ^ 309))], [], .comma⟩
    let c : Comparison := ⟨"gt".toList, some (Text.ofInt 9007199254740992), none⟩
    Inequality.gt.Holds (9007199254740993 : ℤ) 9007199254740992 ∧
      c.evaluate .builtin (s.resolve ['n']) none = .ok false ∧
      Inequality.gt.Holds (10 ^ 309 : ℤ) 9007199254740992 ∧
      c.evaluate .builtin (s.resolve ['h']) none =
        .error (.undecided (.notFinite (Text.ofInt (10 ^ 309)))) := by
  intro s c
  exact ⟨by decide, by decide +kernel, by decide +kernel, by decide +kernel⟩

end PromptTemplate
