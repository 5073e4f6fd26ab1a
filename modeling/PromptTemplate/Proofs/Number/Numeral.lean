import PromptTemplate.Number.Decimal
import PromptTemplate.Proofs.Tag.Reading

namespace PromptTemplate

namespace Text

inductive Digits : List Nat → Text → Prop
  | nil : Digits [] []
  | cons {d : Nat} {ds : List Nat} {c : Char} {t : Text} :
      digit? c = some d → Digits ds t → Digits (d :: ds) (c :: t)

variable {ds : List Nat} {t r : Text}

theorem takeDigits_append (h : Digits ds t) (hr : ∀ c ∈ r.head?, digit? c = none) :
    takeDigits digit? (t ++ r) = (ds, r) := by
  induction h with
  | nil =>
      cases r with
      | nil => rfl
      | cons c r =>
          have hc : digit? c = none := hr c rfl
          simp [takeDigits, hc]
  | cons hd _ ih => simp [takeDigits, hd, ih]

theorem digits_of_takeDigits (h : takeDigits digit? t = (ds, r)) :
    ∃ w, Digits ds w ∧ t = w ++ r := by
  induction t generalizing ds with
  | nil =>
      cases h
      exact ⟨[], .nil, rfl⟩
  | cons c t ih =>
      rw [takeDigits] at h
      cases hc : digit? c with
      | none =>
          simp only [hc] at h
          cases h
          exact ⟨[], .nil, rfl⟩
      | some d =>
          simp only [hc] at h
          cases h
          obtain ⟨w, hw, ht⟩ := ih rfl
          exact ⟨c :: w, .cons hc hw, congrArg (c :: ·) ht⟩

theorem isDigit_of_digits (h : Digits ds t) : ∀ c ∈ t, isDigit c := by
  induction h with
  | nil => exact List.forall_mem_nil _
  | cons hd _ ih => exact List.forall_mem_cons.mpr ⟨by simp [isDigit, hd], ih⟩

theorem head?_digits (h : Digits ds t) (hne : ds ≠ []) (r : Text) :
    ∀ c ∈ (t ++ r).head?, isDigit c := by
  cases h with
  | nil => exact absurd rfl hne
  | cons hd _ => simp [isDigit, hd]

theorem isBlank_of_isDigit {c : Char} (h : isDigit c) : isBlank c = false := by
  have hzeros : ∀ z ∈ digitZeros, z = 0x30 ∨ 0xa0 < z ∧ z + 10 ≤ 0x1680 ∨
      0x1680 < z ∧ z + 10 ≤ 0x2000 ∨ 0x3000 < z := by
    decide
  obtain ⟨d, hd⟩ := Option.isSome_iff_exists.mp h
  simp only [digit?] at hd
  split at hd
  · split at hd
    · rename_i hrange
      simp only [Bool.and_eq_true, decide_eq_true_eq] at hrange
      simp [isBlank]
      omega
    · cases hd
  · obtain ⟨z, hz, -⟩ := Option.map_eq_some_iff.mp hd
    have hin := List.find?_some hz
    simp only [Bool.and_eq_true, decide_eq_true_eq] at hin
    have hplace := hzeros z (List.mem_of_find?_eq_some hz)
    simp [isBlank]
    omega

end Text

namespace Decimal

open Text (Blank Digits)

inductive Sign : Bool → Text → Prop
  | absent : Sign false []
  | plus : Sign false ['+']
  | minus : Sign true ['-']

inductive Mantissa : List Nat → List Nat → Text → Prop
  | whole {ds : List Nat} {w : Text} : Digits ds w → ds ≠ [] → Mantissa ds [] w
  | pointed {ds fs : List Nat} {w f : Text} : Digits ds w → Digits fs f → ds ++ fs ≠ [] →
      Mantissa ds fs (w ++ '.' :: f)

inductive Power : Int → Text → Prop
  | absent : Power 0 []
  | present {mark : Char} {negative : Bool} {s w : Text} {ds : List Nat} :
      mark = 'e' ∨ mark = 'E' → Sign negative s → Digits ds w → ds ≠ [] →
      Power (if negative then -(Text.digitsValue ds : Int) else Text.digitsValue ds)
        (mark :: s ++ w)

inductive Core : Decimal → Text → Prop
  | mk {negative : Bool} {ds fs : List Nat} {e : Int} {s m p : Text} : Sign negative s →
      Mantissa ds fs m → Power e p →
      Core ⟨negative, Text.digitsValue (ds ++ fs), e - fs.length⟩ (s ++ m ++ p)

def Spelled (x : Decimal) (t : Text) : Prop :=
  ∃ front core back, Blank front ∧ x.Core core ∧ Blank back ∧ t = front ++ core ++ back

theorem sign_of_takeSign {t r : Text} {negative : Bool} (h : takeSign t = (negative, r)) :
    ∃ s, Sign negative s ∧ t = s ++ r := by
  unfold takeSign at h
  split at h <;> cases h
  · exact ⟨_, .minus, rfl⟩
  · exact ⟨_, .plus, rfl⟩
  · exact ⟨_, .absent, rfl⟩

theorem power_of_exponent? {t : Text} {e : Int} (h : exponent? Text.digit? t = some e) :
    Power e t := by
  cases t with
  | nil =>
      cases h
      exact .absent
  | cons mark t =>
      rw [exponent?] at h
      split at h
      · rename_i hmark
        simp only [Bool.or_eq_true, decide_eq_true_eq] at hmark
        rcases hsign : takeSign t with ⟨negative, unsigned⟩
        rcases hdigits : Text.takeDigits Text.digit? unsigned with ⟨ds, r⟩
        simp only [hsign, hdigits] at h
        split at h
        · cases h
        · rename_i hne
          cases h
          obtain ⟨s, hs, rfl⟩ := sign_of_takeSign hsign
          obtain ⟨w, hw, rfl⟩ := Text.digits_of_takeDigits hdigits
          simp only [Bool.or_eq_true, List.isEmpty_iff, Bool.not_eq_true', not_or,
            Bool.not_eq_false] at hne
          obtain ⟨hds, rfl⟩ := hne
          rw [List.append_nil]
          exact .present hmark hs hw hds
      · cases h

theorem core_of_read? {t : Text} {x : Decimal} (h : read? Text.digit? t = some x) : x.Core t := by
  rw [read?] at h
  rcases hsign : takeSign t with ⟨negative, unsigned⟩
  rcases hdigits : Text.takeDigits Text.digit? unsigned with ⟨ds, r⟩
  obtain ⟨s, hs, rfl⟩ := sign_of_takeSign hsign
  obtain ⟨w, hw, rfl⟩ := Text.digits_of_takeDigits hdigits
  simp only [hsign, hdigits] at h
  split at h
  · rename_i behind
    rcases hfraction : Text.takeDigits Text.digit? behind with ⟨fs, r⟩
    obtain ⟨f, hf, rfl⟩ := Text.digits_of_takeDigits hfraction
    simp only [hfraction] at h
    split at h
    · cases h
    · rename_i hne
      obtain ⟨e, he, rfl⟩ := Option.map_eq_some_iff.mp h
      have hdigit : ds ++ fs ≠ [] := by simpa using hne
      have hcore := Core.mk hs (.pointed hw hf hdigit) (power_of_exponent? he)
      simpa using hcore
  · simp only [List.isEmpty_nil, Bool.and_true] at h
    split at h
    · cases h
    · rename_i hne
      obtain ⟨e, he, rfl⟩ := Option.map_eq_some_iff.mp h
      have hcore := Core.mk hs (.whole hw (by simpa using hne)) (power_of_exponent? he)
      simpa using hcore

theorem takeSign_append {negative : Bool} {s r : Text} (h : Sign negative s)
    (hr : ∀ c ∈ r.head?, c ≠ '+' ∧ c ≠ '-') : takeSign (s ++ r) = (negative, r) := by
  cases h with
  | plus => rfl
  | minus => rfl
  | absent =>
      rw [List.nil_append]
      unfold takeSign
      split
      · exact absurd rfl (hr _ rfl).2
      · exact absurd rfl (hr _ rfl).1
      · rfl

theorem not_sign_of_isDigit {c : Char} (h : Text.isDigit c) : c ≠ '+' ∧ c ≠ '-' := by
  constructor
  · rintro rfl
    exact absurd h (by decide)
  · rintro rfl
    exact absurd h (by decide)

theorem exponent?_of_power {e : Int} {p : Text} (h : Power e p) :
    exponent? Text.digit? p = some e := by
  cases h with
  | absent => rfl
  | @present mark negative s w ds hmark hs hw hne =>
      have hhead := Text.head?_digits hw hne []
      have hall := Text.takeDigits_append (r := []) hw (by simp)
      rw [List.append_nil] at hhead hall
      simp [exponent?, hmark, takeSign_append hs fun c hc => not_sign_of_isDigit (hhead c hc), hall,
        hne]

theorem head?_power {e : Int} {p : Text} (h : Power e p) : ∀ c ∈ p.head?, c = 'e' ∨ c = 'E' := by
  cases h with
  | absent => simp
  | present hmark => simpa using hmark

theorem digit?_of_mark {c : Char} (h : c = 'e' ∨ c = 'E') : Text.digit? c = none := by
  rcases h with rfl | rfl <;> decide

theorem read?_of_core {t : Text} {x : Decimal} (h : x.Core t) : read? Text.digit? t = some x := by
  obtain @⟨negative, ds, fs, e, s, m, p, hs, hm, hp⟩ := h
  have hbehind : ∀ c ∈ p.head?, Text.digit? c = none := fun c hc =>
    digit?_of_mark (head?_power hp c hc)
  rw [read?]
  cases hm with
  | whole hw hne =>
      have hhead : ∀ c ∈ (m ++ p).head?, c ≠ '+' ∧ c ≠ '-' := fun c hc =>
        not_sign_of_isDigit (Text.head?_digits hw hne p c hc)
      rw [List.append_assoc, takeSign_append hs hhead]
      simp only [Text.takeDigits_append hw hbehind]
      split
      · have hpoint := head?_power hp '.' rfl
        simp at hpoint
      · simp [hne, exponent?_of_power hp]
  | @pointed _ w f hw hf hne =>
      have hhead : ∀ c ∈ (w ++ '.' :: (f ++ p)).head?, c ≠ '+' ∧ c ≠ '-' := by
        cases hw with
        | nil => simp
        | cons hd _ => simpa using not_sign_of_isDigit (by simp [Text.isDigit, hd])
      have hpoint : ∀ c ∈ ('.' :: (f ++ p)).head?, Text.digit? c = none := by
        simp
        decide
      rw [List.append_assoc, List.append_assoc, List.cons_append, takeSign_append hs hhead]
      simp only [Text.takeDigits_append hw hpoint, Text.takeDigits_append hf hbehind]
      have hsome : ¬(ds.isEmpty && fs.isEmpty) := by simpa using hne
      simp [hsome, exponent?_of_power hp]

theorem blankless_digits {ds : List Nat} {t : Text} (h : Digits ds t) :
    ∀ c ∈ t, Text.isBlank c = false :=
  fun c hc => Text.isBlank_of_isDigit (Text.isDigit_of_digits h c hc)

theorem blankless_sign {negative : Bool} {s : Text} (h : Sign negative s) :
    ∀ c ∈ s, Text.isBlank c = false := by
  cases h with
  | absent => exact List.forall_mem_nil _
  | plus => exact List.forall_mem_singleton.mpr (by decide)
  | minus => exact List.forall_mem_singleton.mpr (by decide)

theorem blankless_mantissa {ds fs : List Nat} {m : Text} (h : Mantissa ds fs m) :
    ∀ c ∈ m, Text.isBlank c = false := by
  cases h with
  | whole hw => exact blankless_digits hw
  | pointed hw hf =>
      exact List.forall_mem_append.mpr
        ⟨blankless_digits hw, List.forall_mem_cons.mpr ⟨by decide, blankless_digits hf⟩⟩

theorem blankless_power {e : Int} {p : Text} (h : Power e p) : ∀ c ∈ p, Text.isBlank c = false := by
  cases h with
  | absent => exact List.forall_mem_nil _
  | present hmark hs hw =>
      have hfirst := List.forall_mem_append.mpr ⟨blankless_sign hs, blankless_digits hw⟩
      rcases hmark with rfl | rfl
      · exact List.forall_mem_cons.mpr ⟨by decide, hfirst⟩
      · exact List.forall_mem_cons.mpr ⟨by decide, hfirst⟩

theorem blankless_core {t : Text} {x : Decimal} (h : x.Core t) :
    ∀ c ∈ t, Text.isBlank c = false := by
  obtain ⟨hs, hm, hp⟩ := h
  have hfirst := List.forall_mem_append.mpr ⟨blankless_sign hs, blankless_mantissa hm⟩
  exact List.forall_mem_append.mpr ⟨hfirst, blankless_power hp⟩

theorem core_ne_nil {t : Text} {x : Decimal} (h : x.Core t) : t ≠ [] := by
  obtain ⟨-, hm, -⟩ := h
  cases hm with
  | pointed => simp
  | whole hw hne =>
      cases hw with
      | nil => exact absurd rfl hne
      | cons => simp

theorem read?_eq_some_iff {t : Text} {x : Decimal} :
    read? Text.digit? t.strip = some x ↔ x.Spelled t := by
  constructor
  · intro h
    obtain ⟨front, back, hfront, hback, hsplit⟩ := Text.strip_split t
    exact ⟨front, _, back, hfront, core_of_read? h, hback, hsplit⟩
  · rintro ⟨front, core, back, hfront, hcore, hback, rfl⟩
    have htight := Text.tight_of_blankless (core_ne_nil hcore) (blankless_core hcore)
    rw [Text.strip_tight htight hfront hback]
    exact read?_of_core hcore

end Decimal

end PromptTemplate
