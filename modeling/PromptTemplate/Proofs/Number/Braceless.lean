import PromptTemplate.Value

namespace PromptTemplate

namespace Text

def Braceless (t : Text) : Prop :=
  ∀ c ∈ t, c ≠ '{' ∧ c ≠ '}'

instance (t : Text) : Decidable t.Braceless :=
  List.decidableBAll (fun c => c ≠ '{' ∧ c ≠ '}') t

@[simp] theorem braceless_nil : Braceless [] := by
  simp [Braceless]

@[simp] theorem braceless_cons {c : Char} {t : Text} :
    Braceless (c :: t) ↔ (c ≠ '{' ∧ c ≠ '}') ∧ Braceless t := by
  simp [Braceless]

@[simp] theorem braceless_append {a b : Text} :
    Braceless (a ++ b) ↔ Braceless a ∧ Braceless b := by
  simp only [Braceless, List.forall_mem_append]

theorem Braceless.of_subset {a b : Text} (h : Braceless b) (hsub : a ⊆ b) : Braceless a :=
  fun c hc => h c (hsub hc)

theorem braceless_replicate {c : Char} (h : c ≠ '{' ∧ c ≠ '}') (n : Nat) :
    Braceless (List.replicate n c) := by
  intro d hd
  obtain rfl := List.eq_of_mem_replicate hd
  exact h

theorem braceless_toDigits {b : Nat} (hb : 1 < b) (n : Nat) : Braceless (Nat.toDigits b n) := by
  have hdigit (d : Nat) : Braceless [d.digitChar] :=
    braceless_cons.mpr ⟨⟨Nat.digitChar_ne '{' rfl, Nat.digitChar_ne '}' rfl⟩, braceless_nil⟩
  induction n using Nat.strongRecOn with
  | ind n ih =>
      rw [Nat.toDigits_eq_if hb]
      split
      · exact hdigit n
      · rename_i hle
        exact braceless_append.mpr ⟨ih _ (Nat.div_lt_self (by omega) hb), hdigit _⟩

theorem braceless_ofNat (n : Nat) : Braceless (ofNat n) :=
  braceless_toDigits (by decide) n

theorem braceless_ofHex (width n : Nat) : Braceless (ofHex width n) :=
  braceless_append.mpr ⟨braceless_replicate (by decide) _, braceless_toDigits (by decide) n⟩

theorem braceless_ofInt (n : Int) : Braceless (ofInt n) := by
  cases n with
  | ofNat n => exact braceless_ofNat n
  | negSucc n => exact braceless_cons.mpr ⟨by decide, braceless_ofNat (n + 1)⟩

end Text

namespace Binary64

open Text (Braceless braceless_ofNat braceless_replicate)

theorem braceless_onGrid (n : Nat) (unit : Int) : Braceless (onGrid n unit).1 := by
  refine (braceless_ofNat n).of_subset fun c hc => ?_
  have hreversed := List.dropWhile_subset _ (List.mem_reverse.mp hc)
  exact List.mem_reverse.mp hreversed

theorem braceless_shortest (m : Nat) (e : Int) : Braceless (shortest m e).1 := by
  rw [shortest]
  exact braceless_onGrid _ _

theorem braceless_layout {digits : Text} (h : Braceless digits) (power : Int) :
    Braceless (layout digits power) := by
  have hsize := braceless_ofNat power.natAbs
  have hzeros (n : Nat) : Braceless (List.replicate n '0') := braceless_replicate (by decide) n
  unfold layout
  split
  · have hsign : (if power < 0 then '-' else '+') ≠ '{' ∧
        (if power < 0 then '-' else '+') ≠ '}' := by
      split <;> decide
    rw [Text.braceless_append, Text.braceless_append]
    refine ⟨⟨?_, by simp [hsign, hzeros]⟩, hsize⟩
    split
    · simpa using h
    · exact h
  · split
    · simp [hzeros, h]
    · dsimp only
      split
      · simp [hzeros, h]
      · have htake := h.of_subset (List.take_subset (power.toNat + 1) digits)
        have hdrop := h.of_subset (List.drop_subset (power.toNat + 1) digits)
        simp [htake, hdrop]

theorem braceless_toText (x : Binary64) : Braceless x.toText := by
  cases x with
  | nan => decide
  | infinity negative => cases negative <;> decide
  | finite negative m e =>
      have hdigits := braceless_shortest m e
      rw [toText]
      generalize shortest m e = written at hdigits ⊢
      obtain ⟨digits, power⟩ := written
      have hbody : Braceless (if m = 0 then "0.0".toList else layout digits power) := by
        split
        · decide
        · exact braceless_layout hdigits power
      cases negative with
      | false => exact hbody
      | true => exact Text.braceless_cons.mpr ⟨by decide, hbody⟩

end Binary64

end PromptTemplate
