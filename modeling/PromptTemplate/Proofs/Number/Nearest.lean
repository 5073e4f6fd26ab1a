import Mathlib.Order.Compare
import PromptTemplate.Proofs.Number.Range

namespace PromptTemplate.Binary64

def worth : Binary64 → ℚ
  | .finite negative m e => (if negative then -(m : ℚ) else m) * 2 ^ e
  | _ => 0

def InRange : Binary64 → Prop
  | .finite _ m e => m < mantissaBound ∧ leastExponent ≤ e ∧ e ≤ greatestExponent
  | _ => False

def IsFull : Binary64 → Prop
  | .finite _ m e => e = leastExponent ∨ leastNormal ≤ m
  | _ => False

def IsEven : Binary64 → Prop
  | .finite _ m _ => m % 2 = 0
  | _ => False

structure Nearest (x : Binary64) (q : ℚ) : Prop where
  inRange : x.InRange
  -- evenness says something of the number only because the mantissa has as many digits as it can
  full : x.IsFull
  least : ∀ y : Binary64, y.InRange → |x.worth - q| ≤ |y.worth - q|
  even : ∀ y : Binary64, y.InRange → y.worth ≠ x.worth → |y.worth - q| = |x.worth - q| → x.IsEven

variable {x y : Binary64} {p q : ℚ}

theorem Nearest.worth_le (hx : x.Nearest p) (hy : y.Nearest q) (h : p < q) :
    x.worth ≤ y.worth := by
  by_contra hlt
  have hleft := sq_le_sq.mpr (hx.least y hy.inRange)
  have hright := sq_le_sq.mpr (hy.least x hx.inRange)
  -- each is nearer to its own number, so the numbers lie on other sides of the middle
  nlinarith

theorem Nearest.worth_eq (hx : x.Nearest p) (hy : y.InRange) (h : y.worth = p) : x.worth = p := by
  have hleast := hx.least y hy
  rw [h, sub_self, abs_zero] at hleast
  exact sub_eq_zero.mp (abs_nonpos_iff.mp hleast)

theorem worth_negate (x : Binary64) : x.negate.worth = -x.worth := by
  cases x with
  | nan => simp [negate, worth]
  | infinity negative => simp [negate, worth]
  | finite negative m e => cases negative <;> simp [negate, worth]

theorem inRange_negate (h : x.InRange) : x.negate.InRange := by
  cases x with
  | finite negative m e => exact h
  | _ => exact h.elim

theorem Nearest.negate (h : x.Nearest q) : x.negate.Nearest (-q) := by
  have hdistance (y : Binary64) : |y.worth - -q| = |y.negate.worth - q| := by
    rw [worth_negate, ← abs_neg]
    congr 1
    ring
  have htwice (y : Binary64) : y.negate.negate.worth = y.worth := by
    rw [worth_negate, worth_negate, neg_neg]
  refine ⟨inRange_negate h.inRange, ?_, ?_, ?_⟩
  · have hfull := h.full
    cases x with
    | finite negative m e => exact hfull
    | _ => exact hfull.elim
  · intro y hy
    rw [hdistance, htwice, hdistance]
    exact h.least _ (inRange_negate hy)
  · intro y hy hne heq
    rw [hdistance, hdistance, htwice] at heq
    have hne' : y.negate.worth ≠ x.worth := by
      rw [worth_negate] at hne ⊢
      exact fun h => hne (by rw [← h, neg_neg])
    have heven := h.even _ (inRange_negate hy) hne' heq
    cases x with
    | finite negative m e => exact heven
    | _ => exact heven.elim

theorem roundHalfEven_bounds (n : ℕ) {d : ℕ} (hd : 0 < d) :
    2 * (roundHalfEven n d * d) ≤ 2 * n + d ∧ 2 * n ≤ 2 * (roundHalfEven n d * d) + d ∧
      (2 * (roundHalfEven n d * d) = 2 * n + d ∨ 2 * n = 2 * (roundHalfEven n d * d) + d →
        roundHalfEven n d % 2 = 0) := by
  have hsplit := Nat.div_add_mod' n d
  have hr := Nat.mod_lt n hd
  unfold roundHalfEven
  generalize n / d = k at hsplit ⊢
  generalize n % d = r at hsplit hr ⊢
  have hnext : (k + 1) * d = k * d + d := Nat.succ_mul k d
  simp only
  split_ifs <;> (try rw [hnext]) <;> omega

theorem roundHalfEven_error (n : ℕ) {d : ℕ} (hd : 0 < d) :
    |(roundHalfEven n d : ℚ) - n / d| ≤ 1 / 2 ∧
      (|(roundHalfEven n d : ℚ) - n / d| = 1 / 2 → roundHalfEven n d % 2 = 0) := by
  obtain ⟨habove, hbelow, htie⟩ := roundHalfEven_bounds n hd
  generalize roundHalfEven n d = m at habove hbelow htie ⊢
  have hd' : (0 : ℚ) < d := by exact_mod_cast hd
  have hscale : ((m : ℚ) - n / d) * (2 * d) = 2 * (m * d) - 2 * n := by
    field_simp
  have habove' : (2 : ℚ) * (m * d) ≤ 2 * n + d := by exact_mod_cast habove
  have hbelow' : (2 : ℚ) * n ≤ 2 * (m * d) + d := by exact_mod_cast hbelow
  constructor
  · rw [abs_le]
    constructor <;> nlinarith
  · intro hhalf
    apply htie
    rcases (abs_eq (by norm_num)).mp hhalf with hhalf | hhalf
    · left
      have : (2 : ℚ) * (m * d) = 2 * n + d := by
        rw [hhalf] at hscale
        linarith
      exact_mod_cast this
    · right
      have : (2 : ℚ) * n = 2 * (m * d) + d := by
        rw [hhalf] at hscale
        linarith
      exact_mod_cast this

theorem roundHalfEven_nearest (n : ℕ) {d : ℕ} (hd : 0 < d) (k : ℤ) :
    |(roundHalfEven n d : ℚ) - n / d| ≤ |(k : ℚ) - n / d| ∧
      ((k : ℚ) ≠ roundHalfEven n d → |(k : ℚ) - n / d| = |(roundHalfEven n d : ℚ) - n / d| →
        roundHalfEven n d % 2 = 0) := by
  obtain ⟨herror, htie⟩ := roundHalfEven_error n hd
  generalize roundHalfEven n d = m at herror htie ⊢
  by_cases hk : k = m
  · subst hk
    simp
  · have hapart : (1 : ℚ) ≤ |(k : ℚ) - m| := by
      have hint : (1 : ℤ) ≤ |k - m| := Int.one_le_abs (sub_ne_zero.mpr hk)
      exact_mod_cast hint
    have htriangle := abs_sub_le (k : ℚ) (n / d) m
    rw [abs_sub_comm ((n : ℚ) / d) m] at htriangle
    refine ⟨by linarith, fun _ heq => htie (le_antisymm herror (by linarith))⟩

theorem worth_on_grid (hy : y.InRange) (e : ℤ) :
    (∃ k : ℤ, y.worth = k * 2 ^ e) ∨ leastExponent < e ∧ y.worth < 2 ^ (e + 52) := by
  cases y with
  | finite negative m f =>
      obtain ⟨hm, hleast, -⟩ := hy
      rcases le_or_gt e f with hle | hlt
      · left
        obtain ⟨j, rfl⟩ := Int.le.dest hle
        refine ⟨(if negative then -(m : ℤ) else m) * 2 ^ j, ?_⟩
        rw [worth, zpow_add₀ (by norm_num), zpow_natCast]
        cases negative <;> simp <;> ring
      · right
        refine ⟨by omega, ?_⟩
        have hm' : (m : ℚ) < 2 ^ (53 : ℤ) := by exact_mod_cast hm
        have hunit : (0 : ℚ) < 2 ^ f := by positivity
        calc worth (.finite negative m f) ≤ m * 2 ^ f := by
              have hworth : 0 ≤ (m : ℚ) * 2 ^ f := by positivity
              cases negative <;> simp [worth]
              linarith
          _ < 2 ^ (53 : ℤ) * 2 ^ f := mul_lt_mul_of_pos_right hm' hunit
          _ = 2 ^ (53 + f) := (zpow_add₀ (by norm_num) _ _).symm
          _ ≤ 2 ^ (e + 52) := zpow_le_zpow_right₀ (by norm_num) (by omega)
  | _ => exact hy.elim

variable {num den : ℕ}

theorem leastExponent_le_exponentOf : leastExponent ≤ exponentOf num den := by
  have hguess : leastExponent ≤ max leastExponent ((num.log2 : Int) - den.log2 - 53) :=
    le_max_left _ _
  unfold exponentOf
  simp only
  split
  · exact hguess
  · omega

theorem rounded_nearest (hnum : num ≠ 0) (hden : den ≠ 0) (hy : y.InRange) :
    let e := exponentOf num den
    let m := roundHalfEven (scaled num den e).1 (scaled num den e).2
    |(m : ℚ) * 2 ^ e - num / den| ≤ |y.worth - num / den| ∧
      (y.worth ≠ m * 2 ^ e → |y.worth - num / den| = |(m : ℚ) * 2 ^ e - num / den| →
        m % 2 = 0) := by
  intro e m
  obtain ⟨hd, hratio⟩ := scaled_ratio num (Nat.pos_of_ne_zero hden) e
  have hnearest (k : ℤ) := roundHalfEven_nearest (scaled num den e).1 hd k
  have hunit : (0 : ℚ) < 2 ^ e := by positivity
  have hdistance (k : ℚ) : |k * 2 ^ e - num / den| =
      |k - (scaled num den e).1 / (scaled num den e).2| * 2 ^ e := by
    rw [hratio, ← abs_of_pos hunit, ← abs_mul, abs_of_pos hunit, sub_mul,
      div_mul_cancel₀ _ hunit.ne']
  rcases worth_on_grid hy e with ⟨k, hk⟩ | ⟨hleast, hsmall⟩
  · rw [hk, hdistance, hdistance]
    constructor
    · exact mul_le_mul_of_nonneg_right (hnearest k).1 hunit.le
    · intro hne heq
      exact (hnearest k).2 (fun h => hne (by rw [h])) (mul_right_cancel₀ hunit.ne' heq)
  -- a finer number lies below the least full mantissa, which is on the grid
  · have hbelow := (exponentOf_bounds hnum hden).2.resolve_left hleast.ne'
    have hedge : (2 : ℚ) ^ (e + 52) = ((2 ^ 52 : ℤ) : ℚ) * 2 ^ e := by
      rw [add_comm, zpow_add₀ (by norm_num)]
      norm_num
    have hstrict : |(m : ℚ) * 2 ^ e - num / den| < |y.worth - num / den| :=
      calc |(m : ℚ) * 2 ^ e - num / den| ≤ |((2 ^ 52 : ℤ) : ℚ) * 2 ^ e - num / den| := by
            rw [hdistance, hdistance]
            exact mul_le_mul_of_nonneg_right (hnearest _).1 hunit.le
        _ = num / den - 2 ^ (e + 52) := by
            rw [← hedge, abs_sub_comm, abs_of_nonneg (sub_nonneg.mpr hbelow)]
        _ < num / den - y.worth := by linarith
        _ ≤ |y.worth - num / den| := by
            rw [abs_sub_comm]
            exact le_abs_self _
    exact ⟨hstrict.le, fun _ heq => absurd heq hstrict.ne'⟩

theorem rounded_bounds (hnum : num ≠ 0) (hden : den ≠ 0) :
    let e := exponentOf num den
    let m := roundHalfEven (scaled num den e).1 (scaled num den e).2
    m ≤ mantissaBound ∧ (e = leastExponent ∨ leastNormal ≤ m) := by
  intro e m
  obtain ⟨hd, hratio⟩ := scaled_ratio num (Nat.pos_of_ne_zero hden) e
  obtain ⟨habove, hbelow⟩ := exponentOf_bounds hnum hden
  obtain ⟨herror, -⟩ := roundHalfEven_error (scaled num den e).1 hd
  rw [hratio, abs_le] at herror
  have hunit : (0 : ℚ) < 2 ^ e := by positivity
  have hsplit (k : ℤ) : (2 : ℚ) ^ (e + k) = 2 ^ k * 2 ^ e := by
    rw [add_comm, zpow_add₀ (by norm_num)]
  constructor
  · have hratio' : (num : ℚ) / den / 2 ^ e < 2 ^ (53 : ℤ) := by
      rw [div_lt_iff₀ hunit, ← hsplit]
      exact habove
    have hm : (m : ℚ) < 2 ^ 53 + 1 := by
      have hcast : (2 : ℚ) ^ (53 : ℤ) = 2 ^ 53 := by norm_cast
      linarith [herror.2]
    have hm' : m < 2 ^ 53 + 1 := by exact_mod_cast hm
    exact Nat.lt_succ_iff.mp hm'
  · refine hbelow.imp_right fun hfull => ?_
    have hratio' : (2 : ℚ) ^ (52 : ℤ) ≤ num / den / 2 ^ e := by
      rw [le_div_iff₀ hunit, ← hsplit]
      exact hfull
    have hm : (2 : ℚ) ^ 52 < m + 1 := by
      have hcast : (2 : ℚ) ^ (52 : ℤ) = 2 ^ 52 := by norm_cast
      linarith [herror.1]
    have hm' : 2 ^ 52 < m + 1 := by exact_mod_cast hm
    exact Nat.lt_succ_iff.mp hm'

theorem exists_of_ofRatio (negative : Bool) (hnum : num ≠ 0) (hden : den ≠ 0)
    (h : (num : ℚ) / den < overflow) :
    let e := exponentOf num den
    let m := roundHalfEven (scaled num den e).1 (scaled num den e).2
    ∃ m' e', ofRatio negative num den = .finite negative m' e' ∧
      InRange (.finite negative m' e') ∧ IsFull (.finite negative m' e') ∧
      (m' : ℚ) * 2 ^ e' = m * 2 ^ e ∧ (m % 2 = 0 → m' % 2 = 0) := by
  intro e m
  obtain ⟨hbound, hfull⟩ := rounded_bounds hnum hden
  have hleast : leastExponent ≤ e := leastExponent_le_exponentOf
  have hfinite := (isFinite_ofRatio_iff negative num hden).mpr h
  have hdef : ofRatio negative num den =
      if m = mantissaBound then
        if greatestExponent < e + 1 then .infinity negative
        else .finite negative leastNormal (e + 1)
      else if greatestExponent < e then .infinity negative else .finite negative m e := by
    unfold ofRatio
    simp only [hnum, if_false]
    split_ifs <;> rfl
  rw [hdef] at hfinite ⊢
  rcases eq_or_ne m mantissaBound with hcarry | hsame
  · have hgreat : ¬greatestExponent < e + 1 := by
      intro hgreat
      simp [hcarry, hgreat, isFinite] at hfinite
    refine ⟨leastNormal, e + 1, by simp [hcarry, hgreat], ?_, .inr le_rfl, ?_, fun _ => rfl⟩
    · exact ⟨by decide, by omega, by omega⟩
    · rw [hcarry, zpow_add₀ (by norm_num)]
      norm_num [leastNormal, mantissaBound]
      ring
  · have hgreat : ¬greatestExponent < e := by
      intro hgreat
      simp [hsame, hgreat, isFinite] at hfinite
    refine ⟨m, e, by simp [hsame, hgreat], ?_, hfull, rfl, id⟩
    exact ⟨lt_of_le_of_ne hbound hsame, hleast, not_lt.mp hgreat⟩

theorem nearest_ofRatio (num : ℕ) (hden : den ≠ 0) (h : (num : ℚ) / den < overflow) :
    (ofRatio false num den).Nearest (num / den) := by
  rcases eq_or_ne num 0 with rfl | hnum
  · have hzero : ofRatio false 0 den = zero := rfl
    have hworth : worth zero = 0 := by simp [worth, zero]
    rw [hzero, Nat.cast_zero, zero_div]
    refine ⟨⟨by decide, by decide, by decide⟩, .inl rfl, ?_, fun _ _ _ _ => rfl⟩
    intro y _
    rw [hworth, sub_zero, abs_zero]
    exact abs_nonneg _
  · obtain ⟨m, e, heq, hrange, hfull, hworth, heven⟩ := exists_of_ofRatio false hnum hden h
    have hworth' : worth (.finite false m e) = m * 2 ^ e := by simp [worth]
    rw [hworth] at hworth'
    rw [heq]
    refine ⟨hrange, hfull, fun y hy => ?_, fun y hy hne htie => ?_⟩
    · rw [hworth']
      exact (rounded_nearest hnum hden hy).1
    · rw [hworth'] at hne htie
      exact heven ((rounded_nearest hnum hden hy).2 hne htie)

theorem negate_ofRatio (negative : Bool) (num den : ℕ) :
    (ofRatio negative num den).negate = ofRatio (!negative) num den := by
  unfold ofRatio
  simp only
  split_ifs <;> rfl

theorem nearest_ofInt {n : ℤ} (h : |(n : ℚ)| < overflow) : (ofInt n).Nearest n := by
  have habs : ((n.natAbs : ℕ) : ℚ) / (1 : ℕ) = |(n : ℚ)| := by
    rw [Nat.cast_one, div_one, Nat.cast_natAbs, Int.cast_abs]
  have hnearest := nearest_ofRatio n.natAbs one_ne_zero (habs ▸ h)
  rw [habs] at hnearest
  rcases lt_or_ge n 0 with hneg | hpos
  · have hcast : (n : ℚ) < 0 := by exact_mod_cast hneg
    rw [abs_of_neg hcast] at hnearest
    have hnegate := hnearest.negate
    rw [negate_ofRatio, neg_neg] at hnegate
    simpa [ofInt, hneg] using hnegate
  · have hcast : (0 : ℚ) ≤ n := by exact_mod_cast hpos
    rw [abs_of_nonneg hcast] at hnearest
    simpa [ofInt, hpos.not_gt] using hnearest

theorem units_worth (negative : Bool) (m : ℕ) {e least : ℤ} (h : least ≤ e) :
    (units negative m e least : ℚ) * 2 ^ least = worth (.finite negative m e) := by
  obtain ⟨k, rfl⟩ := Int.le.dest h
  have hshift : (least + k - least).toNat = k := by omega
  rw [units, hshift, worth, zpow_add₀ (by norm_num), zpow_natCast]
  cases negative <;> simp <;> ring

theorem compare?_of_inRange (hx : x.InRange) (hy : y.InRange) :
    ∃ (a b : ℤ) (unit : ℚ), 0 < unit ∧ x.worth = a * unit ∧ y.worth = b * unit ∧
      compare? x y = some (compare a b) := by
  cases x with
  | finite negative m e =>
      cases y with
      | finite negative' m' e' =>
          refine ⟨units negative m e (min e e'), units negative' m' e' (min e e'),
            2 ^ min e e', by positivity, ?_, ?_, rfl⟩
          · exact (units_worth negative m (min_le_left e e')).symm
          · exact (units_worth negative' m' (min_le_right e e')).symm
      | _ => exact hy.elim
  | _ => exact hx.elim

theorem lt_iff_worth (hx : x.InRange) (hy : y.InRange) : x.lt y ↔ x.worth < y.worth := by
  obtain ⟨a, b, unit, hunit, ha, hb, hcompare⟩ := compare?_of_inRange hx hy
  rw [lt, hcompare, ha, hb, mul_lt_mul_iff_left₀ hunit, Int.cast_lt, beq_iff_eq,
    Option.some.injEq, compare_lt_iff_lt]

theorem same_iff_worth (hx : x.InRange) (hy : y.InRange) : x.same y ↔ x.worth = y.worth := by
  obtain ⟨a, b, unit, hunit, ha, hb, hcompare⟩ := compare?_of_inRange hx hy
  rw [same, hcompare, ha, hb, mul_left_inj' hunit.ne', Int.cast_inj, beq_iff_eq,
    Option.some.injEq, compare_eq_iff_eq]

theorem worth_ofInt_mono {n m : ℤ} (hn : |(n : ℚ)| < overflow) (hm : |(m : ℚ)| < overflow)
    (h : n ≤ m) : (ofInt n).worth ≤ (ofInt m).worth := by
  rcases h.lt_or_eq with hlt | rfl
  · exact (nearest_ofInt hn).worth_le (nearest_ofInt hm) (Int.cast_lt.mpr hlt)
  · exact le_rfl

theorem lt_of_worth_ofInt_lt {n m : ℤ} (hn : |(n : ℚ)| < overflow) (hm : |(m : ℚ)| < overflow)
    (h : (ofInt n).worth < (ofInt m).worth) : n < m :=
  not_le.mp fun hle => not_le.mpr h (worth_ofInt_mono hm hn hle)

theorem worth_ofInt_lt_iff {n m : ℤ} (hn : |(n : ℚ)| < overflow) (hm : |(m : ℚ)| < overflow)
    (hapart : (ofInt n).worth = (ofInt m).worth → n = m) :
    (ofInt n).worth < (ofInt m).worth ↔ n < m := by
  refine ⟨lt_of_worth_ofInt_lt hn hm, fun h => ?_⟩
  apply lt_of_le_of_ne (worth_ofInt_mono hn hm h.le)
  exact fun heq => h.ne (hapart heq)

def IsShort (n : ℤ) : Prop :=
  ∃ (k : ℤ) (j : ℕ), k.natAbs < mantissaBound ∧ n = k * 2 ^ j

theorem worth_ofParts (k e : ℤ) : worth (.finite (k < 0) k.natAbs e) = k * 2 ^ e := by
  rcases lt_or_ge k 0 with hneg | hpos
  · have habs : ((k.natAbs : ℕ) : ℚ) = -k := by
      rw [Nat.cast_natAbs, abs_of_neg hneg, Int.cast_neg]
    simp [worth, hneg, habs]
  · have habs : ((k.natAbs : ℕ) : ℚ) = k := by
      rw [Nat.cast_natAbs, abs_of_nonneg hpos]
    simp [worth, hpos.not_gt, habs]

theorem exists_worth_eq {n : ℤ} (hshort : IsShort n) (h : |(n : ℚ)| < overflow) :
    ∃ y : Binary64, y.InRange ∧ y.worth = n := by
  obtain ⟨k, j, hk, rfl⟩ := hshort
  obtain ⟨g, hg⟩ : ∃ g : ℕ, greatestExponent = g := ⟨971, rfl⟩
  have hleast : leastExponent = -1074 := rfl
  rcases le_total j g with hle | hge
  · refine ⟨.finite (k < 0) k.natAbs j, ⟨hk, by omega, by omega⟩, ?_⟩
    rw [worth_ofParts, zpow_natCast]
    norm_cast
  -- the mantissa has room for the powers of two that the exponent has not
  · obtain ⟨i, rfl⟩ := Nat.exists_eq_add_of_le hge
    have hsplit : ((k * 2 ^ (g + i) : ℤ) : ℚ) = (k * 2 ^ i : ℤ) * 2 ^ g := by
      rw [pow_add, mul_comm (2 ^ g), ← mul_assoc, Int.cast_mul (k * 2 ^ i)]
      norm_cast
    have hroom : ((k * 2 ^ i).natAbs : ℚ) * 2 ^ g < 2 ^ 53 * 2 ^ g :=
      calc ((k * 2 ^ i).natAbs : ℚ) * 2 ^ g = |((k * 2 ^ (g + i) : ℤ) : ℚ)| := by
            rw [hsplit, abs_mul, abs_of_pos (by positivity : (0 : ℚ) < 2 ^ g), Nat.cast_natAbs,
              Int.cast_abs]
        _ < overflow := h
        _ ≤ 2 ^ (53 + greatestExponent) := overflow_bounds.2
        _ = 2 ^ 53 * 2 ^ g := by
            rw [hg, zpow_add₀ (by norm_num), zpow_natCast]
            norm_cast
    have hm : ((k * 2 ^ i).natAbs : ℚ) < 2 ^ 53 := lt_of_mul_lt_mul_right hroom (by positivity)
    refine ⟨.finite (k * 2 ^ i < 0) (k * 2 ^ i).natAbs g, ⟨?_, by omega, hg.ge⟩, ?_⟩
    · exact_mod_cast hm
    · rw [worth_ofParts, zpow_natCast, hsplit]

theorem worth_ofInt {n : ℤ} (hshort : IsShort n) (h : |(n : ℚ)| < overflow) :
    (ofInt n).worth = n := by
  obtain ⟨y, hy, hworth⟩ := exists_worth_eq hshort h
  exact (nearest_ofInt h).worth_eq hy hworth

end PromptTemplate.Binary64
