import Mathlib.Algebra.Order.Field.Power
import Mathlib.Data.Nat.Cast.Order.Field
import Mathlib.Tactic.FieldSimp
import Mathlib.Tactic.Linarith
import Mathlib.Tactic.Positivity
import Mathlib.Tactic.Ring
import PromptTemplate.Number.Decimal

namespace PromptTemplate

namespace Binary64

def overflow : ℚ :=
  (2 ^ 53 - 1 / 2) * 2 ^ 971

theorem overflow_pos : 0 < overflow := by
  have hfactor : (0 : ℚ) < 2 ^ 53 - 1 / 2 := by norm_num
  exact mul_pos hfactor (by positivity)

theorem overflow_bounds : 2 ^ (1023 : Int) ≤ overflow ∧ overflow ≤ 2 ^ (1024 : Int) := by
  have hlow : (2 : ℚ) ^ (1023 : Int) = 2 ^ 52 * 2 ^ 971 := by
    rw [← pow_add, ← zpow_natCast]
    rfl
  have hhigh : (2 : ℚ) ^ (1024 : Int) = 2 ^ 53 * 2 ^ 971 := by
    rw [← pow_add, ← zpow_natCast]
    rfl
  rw [hlow, hhigh, overflow]
  constructor <;> gcongr <;> norm_num

theorem scaled_ratio (num : Nat) {den : Nat} (hden : 0 < den) (e : Int) :
    0 < (scaled num den e).2 ∧
      ((scaled num den e).1 : ℚ) / (scaled num den e).2 = num / den / 2 ^ e := by
  have hden' : (den : ℚ) ≠ 0 := by positivity
  cases e with
  | ofNat k =>
      refine ⟨Nat.mul_pos hden (Nat.pow_pos (by decide)), ?_⟩
      simp only [scaled, Nat.pow_eq, Nat.cast_mul, Nat.cast_pow, Nat.cast_ofNat,
        Int.ofNat_eq_natCast, zpow_natCast]
      field_simp
  | negSucc k =>
      refine ⟨hden, ?_⟩
      simp only [scaled, Nat.pow_eq, Nat.cast_mul, Nat.cast_pow, Nat.cast_ofNat, zpow_negSucc]
      field_simp

theorem div_lt_iff_ratio {n d : Nat} (hd : 0 < d) (bound : Nat) :
    n / d < bound ↔ (n : ℚ) / d < bound := by
  have hd' : (0 : ℚ) < d := by exact_mod_cast hd
  rw [Nat.div_lt_iff_lt_mul hd, div_lt_iff₀ hd']
  exact_mod_cast Iff.rfl

theorem ratio_lt (num : Nat) {den : Nat} (hden : den ≠ 0) :
    (num : ℚ) / den < 2 ^ ((num.log2 : Int) - den.log2 + 1) := by
  have hnum : (num : ℚ) < 2 ^ (num.log2 + 1) := by exact_mod_cast Nat.lt_log2_self
  have hbelow : (2 : ℚ) ^ den.log2 ≤ den := by exact_mod_cast Nat.log2_self_le hden
  calc (num : ℚ) / den < 2 ^ (num.log2 + 1) / 2 ^ den.log2 := by gcongr
    _ = 2 ^ ((num.log2 : Int) - den.log2 + 1) := by
        rw [sub_add_eq_add_sub, zpow_sub₀ (by norm_num)]
        norm_cast

theorem le_ratio {num den : Nat} (hnum : num ≠ 0) (hden : den ≠ 0) :
    2 ^ ((num.log2 : Int) - den.log2 - 1) ≤ (num : ℚ) / den := by
  have hbelow : (2 : ℚ) ^ num.log2 ≤ num := by exact_mod_cast Nat.log2_self_le hnum
  have habove : (den : ℚ) ≤ 2 ^ (den.log2 + 1) := by exact_mod_cast Nat.lt_log2_self.le
  have hpos : (0 : ℚ) < den := by exact_mod_cast Nat.pos_of_ne_zero hden
  calc (2 : ℚ) ^ ((num.log2 : Int) - den.log2 - 1) = 2 ^ num.log2 / 2 ^ (den.log2 + 1) := by
        rw [sub_sub, zpow_sub₀ (by norm_num)]
        norm_cast
    _ ≤ num / den := by gcongr

theorem exponentOf_bounds {num den : Nat} (hnum : num ≠ 0) (hden : den ≠ 0) :
    (num : ℚ) / den < 2 ^ (exponentOf num den + 53) ∧
      (exponentOf num den = leastExponent ∨ 2 ^ (exponentOf num den + 52) ≤ (num : ℚ) / den) := by
  have habove := ratio_lt num hden
  have hbelow := le_ratio hnum hden
  unfold exponentOf
  set guess := max leastExponent ((num.log2 : Int) - den.log2 - 53) with hguess
  obtain ⟨hd, hratio⟩ := scaled_ratio num (Nat.pos_of_ne_zero hden) guess
  have htest : (scaled num den guess).1 / (scaled num den guess).2 < mantissaBound ↔
      (num : ℚ) / den < 2 ^ (guess + 53) := by
    have hbound : (mantissaBound : ℚ) = 2 ^ (53 : Int) := by
      norm_num [mantissaBound]
    rw [div_lt_iff_ratio hd, hratio, div_lt_iff₀ (by positivity), hbound,
      ← zpow_add₀ (by norm_num), add_comm]
  -- the guess is right or too low by one
  by_cases hfits : (num : ℚ) / den < 2 ^ (guess + 53)
  · simp only [htest.mpr hfits, if_true]
    refine ⟨hfits, ?_⟩
    rcases le_total ((num.log2 : Int) - den.log2 - 53) leastExponent with hle | hle
    · exact .inl (max_eq_left hle)
    · have hexact : guess + 52 = (num.log2 : Int) - den.log2 - 1 := by
        rw [hguess, max_eq_right hle]
        omega
      exact .inr (hexact ▸ hbelow)
  · simp only [mt htest.mp hfits, if_false]
    have hguess_le : (num.log2 : Int) - den.log2 - 53 ≤ guess := le_max_right _ _
    refine ⟨habove.trans_le (zpow_le_zpow_right₀ (by norm_num) (by omega)), .inr ?_⟩
    have hexact : guess + 1 + 52 = guess + 53 := by omega
    rw [hexact]
    exact not_lt.mp hfits

theorem roundHalfEven_eq_iff {n d bound : Nat} (heven : bound % 2 = 0) (h : n < bound * d) :
    roundHalfEven n d = bound ↔ 2 * (bound * d) ≤ 2 * n + d := by
  have hd : 0 < d := Nat.pos_of_ne_zero (by rintro rfl; simp at h)
  have hq : n / d < bound := (Nat.div_lt_iff_lt_mul hd).mpr h
  have hsplit := Nat.div_add_mod n d
  have hr := Nat.mod_lt n hd
  unfold roundHalfEven
  generalize n / d = q at hq hsplit ⊢
  generalize n % d = r at hsplit hr ⊢
  rcases Nat.lt_or_eq_of_le (Nat.succ_le_of_lt hq) with hfar | hnext
  · -- both sides fail: not even the greater of the two nearest numbers is the bound
    have hmul : (q + 2) * d ≤ bound * d := Nat.mul_le_mul_right d hfar
    have hexpand : (q + 2) * d = d * q + 2 * d := by ring
    simp only
    split_ifs <;> omega
  · have hexpand : bound * d = d * q + d := by
      rw [← hnext, Nat.succ_mul, Nat.mul_comm q d]
    simp only
    split_ifs <;> omega

theorem roundHalfEven_scaled_iff (num : Nat) {den : Nat} (hden : 0 < den)
    (h : (num : ℚ) / den < 2 ^ (greatestExponent + 53)) :
    roundHalfEven (scaled num den greatestExponent).1 (scaled num den greatestExponent).2 ≠
      mantissaBound ↔ (num : ℚ) / den < overflow := by
  obtain ⟨hd, hratio⟩ := scaled_ratio num hden greatestExponent
  generalize (scaled num den greatestExponent).1 = n at hratio ⊢
  generalize (scaled num den greatestExponent).2 = d at hd hratio ⊢
  have hd' : (0 : ℚ) < d := by exact_mod_cast hd
  have hunit : (0 : ℚ) < 2 ^ greatestExponent := by positivity
  have hvalue : (num : ℚ) / den = n / d * 2 ^ greatestExponent := by
    rw [hratio]
    field_simp
  have hbound : (mantissaBound : ℚ) = 2 ^ 53 := by norm_num [mantissaBound]
  have hbelow : n < mantissaBound * d := by
    rw [hvalue, add_comm, zpow_add₀ (by norm_num), mul_lt_mul_iff_left₀ hunit,
      div_lt_iff₀ hd'] at h
    have hcast : (n : ℚ) < (mantissaBound * d : Nat) := by
      rw [Nat.cast_mul, hbound]
      exact_mod_cast h
    exact_mod_cast hcast
  have hoverflow : overflow = (2 ^ 53 - 1 / 2) * 2 ^ greatestExponent := rfl
  rw [Ne, roundHalfEven_eq_iff (by decide) hbelow, not_le, hvalue, hoverflow,
    mul_lt_mul_iff_left₀ hunit, div_lt_iff₀ hd', ← hbound, ← Nat.cast_lt (α := ℚ)]
  push_cast
  constructor <;> intro h <;> linarith

theorem isFinite_ofRatio_iff (negative : Bool) (num : Nat) {den : Nat} (hden : den ≠ 0) :
    (ofRatio negative num den).isFinite ↔ (num : ℚ) / den < overflow := by
  by_cases hnum : num = 0
  · simp [ofRatio, hnum, isFinite, overflow_pos]
  obtain ⟨habove, hbelow⟩ := exponentOf_bounds hnum hden
  have hfinite : (ofRatio negative num den).isFinite ↔
      exponentOf num den < greatestExponent ∨ exponentOf num den = greatestExponent ∧
        roundHalfEven (scaled num den (exponentOf num den)).1
          (scaled num den (exponentOf num den)).2 ≠ mantissaBound := by
    unfold ofRatio
    simp only [hnum, if_false]
    split_ifs <;> simp [isFinite] <;> omega
  rw [hfinite]
  have hgreatest : greatestExponent = 971 := rfl
  rcases lt_trichotomy (exponentOf num den) greatestExponent with hlt | heq | hgt
  · have hsmall : (num : ℚ) / den < overflow :=
      calc (num : ℚ) / den < 2 ^ (exponentOf num den + 53) := habove
        _ ≤ 2 ^ (1023 : Int) := zpow_le_zpow_right₀ (by norm_num) (by omega)
        _ ≤ overflow := overflow_bounds.1
    simp [hlt, hsmall]
  · rw [heq] at habove ⊢
    simp [roundHalfEven_scaled_iff num (Nat.pos_of_ne_zero hden) habove]
  · have hnormal : exponentOf num den ≠ leastExponent := by
      intro hleast
      rw [hleast] at hgt
      exact absurd hgt (by decide)
    have hlarge : overflow ≤ (num : ℚ) / den :=
      calc overflow ≤ 2 ^ (1024 : Int) := overflow_bounds.2
        _ ≤ 2 ^ (exponentOf num den + 52) := zpow_le_zpow_right₀ (by norm_num) (by omega)
        _ ≤ num / den := hbelow.resolve_left hnormal
    simp [hgt.not_gt, hgt.ne', hlarge]

end Binary64

namespace Decimal

def magnitude (x : Decimal) : ℚ :=
  x.digits * 10 ^ x.exponent

theorem magnitude_lt (x : Decimal) :
    x.magnitude < 10 ^ ((Nat.toDigits 10 x.digits).length + x.exponent) := by
  have hdigits : x.digits < 10 ^ (Nat.toDigits 10 x.digits).length :=
    (Nat.length_toDigits_le_iff (by decide) Nat.length_toDigits_pos).mp le_rfl
  have hdigits' : (x.digits : ℚ) < 10 ^ (Nat.toDigits 10 x.digits).length := by
    exact_mod_cast hdigits
  rw [magnitude, zpow_add₀ (by norm_num), zpow_natCast]
  gcongr

theorem le_magnitude {x : Decimal} (h : x.digits ≠ 0) :
    10 ^ ((Nat.toDigits 10 x.digits).length + x.exponent - 1) ≤ x.magnitude := by
  obtain ⟨k, hk⟩ : ∃ k, (Nat.toDigits 10 x.digits).length = k + 1 :=
    Nat.exists_eq_add_one.mpr Nat.length_toDigits_pos
  have hdigits : 10 ^ k ≤ x.digits := by
    by_contra hlt
    rcases Nat.eq_zero_or_pos k with rfl | hpos
    · omega
    · have hle := (Nat.length_toDigits_le_iff (by decide) hpos).mpr (not_le.mp hlt)
      omega
  have hdigits' : (10 : ℚ) ^ k ≤ x.digits := by exact_mod_cast hdigits
  have hsize : ((k + 1 : Nat) : Int) + x.exponent - 1 = k + x.exponent := by omega
  rw [hk, hsize, magnitude, zpow_add₀ (by norm_num), zpow_natCast]
  gcongr

theorem two_pow_le : 2 ^ 1024 ≤ 10 ^ 310 := by
  decide +kernel

theorem isFinite_toBinary64_iff (x : Decimal) :
    x.toBinary64.isFinite ↔ x.magnitude < Binary64.overflow := by
  unfold toBinary64
  by_cases hzero : x.digits = 0
  · simp [hzero, magnitude, Binary64.isFinite, Binary64.overflow_pos]
  have hbelow := le_magnitude hzero
  have habove := magnitude_lt x
  generalize ((Nat.toDigits 10 x.digits).length : Int) + x.exponent = size at hbelow habove ⊢
  simp only [hzero, if_false]
  by_cases hgreat : 310 < size
  · have hlarge : Binary64.overflow ≤ x.magnitude :=
      calc Binary64.overflow ≤ 2 ^ (1024 : Int) := Binary64.overflow_bounds.2
        _ ≤ 10 ^ (310 : Int) := by exact_mod_cast two_pow_le
        _ ≤ 10 ^ (size - 1) := zpow_le_zpow_right₀ (by norm_num) (by omega)
        _ ≤ x.magnitude := hbelow
    simp [hgreat, Binary64.isFinite, hlarge]
  by_cases hsmall : size < -330
  · have hless : x.magnitude < Binary64.overflow :=
      calc x.magnitude < 10 ^ size := habove
        _ ≤ 10 ^ (0 : Int) := zpow_le_zpow_right₀ (by norm_num) (by omega)
        _ ≤ 2 ^ (1023 : Int) := one_le_zpow₀ (by norm_num) (by norm_num)
        _ ≤ Binary64.overflow := Binary64.overflow_bounds.1
    simp [hgreat, hsmall, Binary64.isFinite, hless]
  simp only [hgreat, hsmall, if_false]
  cases hexponent : x.exponent with
  | ofNat k =>
      have hvalue : x.magnitude = (x.digits * Nat.pow 10 k : Nat) / (1 : Nat) := by
        simp [magnitude, hexponent]
      rw [hvalue]
      exact Binary64.isFinite_ofRatio_iff _ _ one_ne_zero
  | negSucc k =>
      have hvalue : x.magnitude = x.digits / (Nat.pow 10 (k + 1) : Nat) := by
        simp [magnitude, hexponent, div_eq_mul_inv]
      rw [hvalue]
      exact Binary64.isFinite_ofRatio_iff _ _ (Nat.pow_pos (by decide)).ne'

end Decimal

end PromptTemplate
