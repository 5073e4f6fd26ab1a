import Mathlib.Data.List.Basic
import PromptTemplate.Text.Digit

namespace PromptTemplate.Text

def worths (w : Text) : List Nat :=
  w.map fun c => c.toNat - '0'.toNat

theorem digitsValue_worths (w : Text) : digitsValue (worths w) = Nat.ofDigitChars 10 w 0 := by
  simp only [digitsValue, worths, Nat.ofDigitChars_eq_foldl, List.foldl_map, Nat.mul_comm 10]

theorem asciiDigit?_eq (c : Char) :
    asciiDigit? c = if c.isDigit then some (c.toNat - '0'.toNat) else none :=
  rfl

theorem isDigit_of_mem_ofNat {n : Nat} : ∀ c ∈ ofNat n, c.isDigit :=
  fun _ hc => Nat.isDigit_of_mem_toDigits (by decide) (by decide) hc

theorem ofNat_ne_nil (n : Nat) : ofNat n ≠ [] :=
  Nat.toDigits_ne_nil

theorem digitsValue_ofNat (n : Nat) : digitsValue (worths (ofNat n)) = n :=
  (digitsValue_worths _).trans Nat.ofDigitChars_ten_toDigits

theorem head_ofNat_ne_zero {n : Nat} (h : 0 < n) : (ofNat n).head? ≠ some '0' := by
  induction n using Nat.strongRecOn with
  | ind n ih =>
      rw [ofNat, Nat.toDigits_eq_if (by decide)]
      split
      · simp
        omega
      · rename_i hle
        rw [List.head?_append_of_ne_nil _ Nat.toDigits_ne_nil]
        exact ih (n / 10) (Nat.div_lt_self h (by decide)) (Nat.div_pos (by omega) (by decide))

theorem ofNat_eq_cons (n : Nat) :
    ∃ c w, ofNat n = c :: w ∧ c.isDigit ∧ (∀ d ∈ w, d.isDigit) ∧ (c = '0' → w = []) := by
  have hdigits := isDigit_of_mem_ofNat (n := n)
  obtain ⟨c, w, hcons⟩ := List.exists_cons_of_ne_nil (ofNat_ne_nil n)
  rw [hcons] at hdigits
  obtain ⟨hc, hw⟩ := List.forall_mem_cons.mp hdigits
  refine ⟨c, w, hcons, hc, hw, ?_⟩
  rintro rfl
  cases n with
  | zero => cases hcons; rfl
  | succ n => exact absurd (congrArg List.head? hcons) (head_ofNat_ne_zero n.succ_pos)

end PromptTemplate.Text
