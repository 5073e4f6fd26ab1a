import PromptTemplate.Data.Toml
import PromptTemplate.Proofs.Number.Digits
import PromptTemplate.Proofs.Tag.Reading

namespace PromptTemplate

open Text (worths)

theorem Text.joinLineEnds_of_notMem {t : Text} (h : '\r' ∉ t) : joinLineEnds t = t := by
  induction t using joinLineEnds.induct with
  | case1 => rfl
  | case2 r ih => simp at h
  | case3 c r hpair ih =>
      rw [joinLineEnds, ih (List.not_mem_of_not_mem_cons h)]
      exact hpair

theorem Assoc.put_of_notMem {α : Type} {key : Text} {m : Assoc α} (h : key ∉ m.keys) (value : α) :
    Assoc.put key value m = m ++ [(key, value)] := by
  induction m with
  | nil => rfl
  | cons e m ih =>
      obtain ⟨k, v⟩ := e
      obtain ⟨hne, hrest⟩ := not_or.mp (mt List.mem_cons.mpr h)
      simp [put, Ne.symm hne, ih hrest]

namespace Toml

variable {w r : Text} {n : Nat}

theorem ne_of_apart {p : Char → Bool} {c d : Char} (hc : p c) (hd : p d = false) : c ≠ d := by
  rintro rfl
  simp [hc] at hd

theorem takeMoreDigits_append (hw : ∀ c ∈ w, c.isDigit) (r : Text) :
    takeMoreDigits Text.asciiDigit? (w ++ '\n' :: r) = (worths w, '\n' :: r) := by
  induction w with
  | nil => rfl
  | cons c w ih =>
      obtain ⟨hc, hw⟩ := List.forall_mem_cons.mp hw
      have hdigit : Text.asciiDigit? c = some (c.toNat - '0'.toNat) := by
        rw [Text.asciiDigit?_eq, if_pos hc]
      rw [List.cons_append, takeMoreDigits, hdigit, ih hw]
      · rfl
      · intro _ _ hunderscore
        exact absurd hunderscore (ne_of_apart hc rfl)

theorem takeWhole?_ofNat (n : Nat) (r : Text) :
    takeWhole? (Text.ofNat n ++ '\n' :: r) = some (worths (Text.ofNat n), '\n' :: r) := by
  obtain ⟨c, w, hn, hc, hw, hzero⟩ := Text.ofNat_eq_cons n
  rw [hn]
  by_cases h : c = '0'
  · rw [hzero h, h]
    rfl
  · have hunderscore := ne_of_apart (d := '_') hc rfl
    have hdigits := takeMoreDigits_append (List.forall_mem_cons.mpr ⟨hc, hw⟩) r
    simp only [List.cons_append] at hdigits ⊢
    simp [takeWhole?, h, takeSpacedDigits, hunderscore, hdigits, worths]

theorem takeDecimal?_ofNat (n : Nat) (r : Text) :
    takeDecimal? (Text.ofNat n ++ '\n' :: r) = some (.int n, '\n' :: r) := by
  have hsign : Decimal.takeSign (Text.ofNat n ++ '\n' :: r) =
      (false, Text.ofNat n ++ '\n' :: r) := by
    obtain ⟨c, w, hn, hc, -⟩ := Text.ofNat_eq_cons n
    have hminus := ne_of_apart (d := '-') hc rfl
    have hplus := ne_of_apart (d := '+') hc rfl
    simp [hn, Decimal.takeSign, hminus, hplus]
  simp [takeDecimal?, hsign, takeWhole?_ofNat, takeFraction, takeExponent, Text.digitsValue_ofNat]

theorem takeNumber?_ofNat (n : Nat) (r : Text) :
    takeNumber? (Text.ofNat n ++ '\n' :: r) = some (.int n, '\n' :: r) := by
  have hdecimal := takeDecimal?_ofNat n r
  obtain ⟨c, w, hn, -, -, hzero⟩ := Text.ofNat_eq_cons n
  rw [hn] at hdecimal ⊢
  by_cases h : c = '0'
  · rw [hzero h, h] at hdecimal ⊢
    simp only [List.cons_append, List.nil_append] at hdecimal ⊢
    simp [takeNumber?, hdecimal]
  · simp only [List.cons_append] at hdecimal ⊢
    simp [takeNumber?, h, hdecimal]

theorem isDigit_of_mapM {t : Text} {ds : List Nat} (h : t.mapM Text.asciiDigit? = some ds) :
    ∀ c ∈ t, c.isDigit := by
  induction t generalizing ds with
  | nil => exact List.forall_mem_nil _
  | cons c t ih =>
      rw [List.mapM_cons] at h
      obtain ⟨d, hd, h⟩ := Option.bind_eq_some_iff.mp h
      obtain ⟨ds, hds, -⟩ := Option.bind_eq_some_iff.mp h
      refine List.forall_mem_cons.mpr ⟨?_, ih hds⟩
      rw [Text.asciiDigit?_eq] at hd
      exact (Option.ite_none_right_eq_some.mp hd).1

theorem takePadded?_eq_some {digits most : Nat} {t : Text}
    (h : takePadded? digits most t = some (n, r)) :
    r = t.drop digits ∧ ∀ c ∈ t.take digits, c.isDigit := by
  obtain ⟨ds, hds, h⟩ := Option.bind_eq_some_iff.mp h
  obtain ⟨-, h⟩ := Option.ite_none_right_eq_some.mp h
  cases h
  exact ⟨rfl, isDigit_of_mapM hds⟩

theorem after?_drop (mark : Char) {digits : Nat} (hw : ∀ c ∈ w, c.isDigit)
    (hmark : mark.isDigit = false) (hline : mark ≠ '\n')
    (h : ∀ c ∈ (w ++ '\n' :: r).take digits, c.isDigit) :
    Text.after? [mark] ((w ++ '\n' :: r).drop digits) = none := by
  induction w generalizing digits with
  | nil =>
      cases digits with
      | zero => simp [Text.after?, hline]
      | succ n => simp at h
  | cons c w ih =>
      obtain ⟨hc, hw⟩ := List.forall_mem_cons.mp hw
      cases digits with
      | zero => simp [Text.after?, (ne_of_apart hc hmark).symm]
      | succ n => exact ih hw (List.forall_mem_cons.mp h).2

theorem takeDate?_digits (hw : ∀ c ∈ w, c.isDigit) (r : Text) :
    takeDate? (w ++ '\n' :: r) = none := by
  unfold takeDate?
  cases h : takePadded? 4 9999 (w ++ '\n' :: r) with
  | none => rfl
  | some found =>
      obtain ⟨year, s⟩ := found
      obtain ⟨rfl, hyear⟩ := takePadded?_eq_some h
      simp [after?_drop '-' hw rfl (by decide) hyear]

theorem takeClock?_digits (hw : ∀ c ∈ w, c.isDigit) (r : Text) :
    takeClock? (w ++ '\n' :: r) = none := by
  unfold takeClock?
  cases h : takePadded? 2 23 (w ++ '\n' :: r) with
  | none => rfl
  | some found =>
      obtain ⟨hour, s⟩ := found
      obtain ⟨rfl, hhour⟩ := takePadded?_eq_some h
      simp [after?_drop ':' hw rfl (by decide) hhour]

theorem takeMoment?_digits (hw : ∀ c ∈ w, c.isDigit) (r : Text) :
    takeMoment? (w ++ '\n' :: r) = none := by
  rw [takeMoment?, takeDate?_digits hw, takeClock?_digits hw]
  rfl

def Plain (t : Text) : Prop :=
  ∀ c ∈ t, c ≠ '"' ∧ c ≠ '\\' ∧ isForbidden c = false

instance (t : Text) : Decidable (Plain t) :=
  List.decidableBAll (fun c => c ≠ '"' ∧ c ≠ '\\' ∧ isForbidden c = false) t

inductive Written : Value → Text → Prop
  | int (n : Nat) : Written (.int n) (Text.ofNat n)
  | text {t : Text} : Plain t → Written (.text t) (writeString t)
  | bool (b : Bool) : Written (.bool b) (if b then "true" else "false").toList

theorem takeBasic?_plain {t : Text} (ht : Plain t) {fuel : Nat} (hfuel : t.length < fuel)
    (r : Text) : takeBasic? false fuel (t ++ '"' :: r) = some (t, r) := by
  induction t generalizing fuel with
  | nil =>
      obtain ⟨fuel, rfl⟩ := Nat.exists_eq_add_one_of_ne_zero (Nat.ne_zero_of_lt hfuel)
      rfl
  | cons c t ih =>
      obtain ⟨⟨hquote, hescape, hforbidden⟩, ht⟩ := List.forall_mem_cons.mp ht
      obtain ⟨fuel, rfl⟩ := Nat.exists_eq_add_one_of_ne_zero (Nat.ne_zero_of_lt hfuel)
      have hrest := ih ht (Nat.lt_of_succ_lt_succ hfuel)
      rw [List.cons_append, takeBasic?, isForbiddenIn, hforbidden, hrest]
      · rfl
      · exact hquote
      · exact hescape

theorem takeString?_written {t : Text} (ht : Plain t) (r : Text) :
    takeString? (writeString t ++ '\n' :: r) = some (t, '\n' :: r) := by
  have hwritten : writeString t ++ '\n' :: r = '"' :: (t ++ '"' :: '\n' :: r) := by
    simp [writeString]
  have hline : takeLine? ('"' :: (t ++ '"' :: '\n' :: r)) = some (t, '\n' :: r) :=
    takeBasic?_plain ht (by rw [List.length_append]; omega) ('\n' :: r)
  rw [hwritten, takeString?, hline]
  · intro s hs
    cases t with
    | nil => simp at hs
    | cons c t => simp [(List.forall_mem_cons.mp ht).1.1] at hs
  · intro s hs
    simp at hs

theorem takeValue?_written {v : Value} (h : Written v w) (fuel : Nat) (r : Text) :
    takeValue? (fuel + 1) (w ++ '\n' :: r) = some (v, '\n' :: r) := by
  cases h with
  | int n =>
      have hmoment := takeMoment?_digits (Text.isDigit_of_mem_ofNat (n := n)) r
      have hnumber := takeNumber?_ofNat n r
      obtain ⟨c, w, hn, hc, -⟩ := Text.ofNat_eq_cons n
      rw [hn, List.cons_append] at hmoment hnumber ⊢
      have hne {d : Char} (hd : d.isDigit = false) (s : Text) : c :: (w ++ '\n' :: r) ≠ d :: s :=
        fun heq => ne_of_apart hc hd (List.cons.inj heq).1
      have hafter {d : Char} (hd : d.isDigit = false) (p : Text) :
          Text.after? (d :: p) (c :: (w ++ '\n' :: r)) = none :=
        if_neg (ne_of_apart hc hd).symm
      have htrue : Text.after? "true".toList (c :: (w ++ '\n' :: r)) = none :=
        hafter rfl "rue".toList
      have hfalse : Text.after? "false".toList (c :: (w ++ '\n' :: r)) = none :=
        hafter rfl "alse".toList
      rw [takeValue?, htrue, hfalse, hmoment, hnumber]
      · exact hne rfl
      · exact hne rfl
      · exact hne rfl
      · exact hne rfl
  | text ht =>
      have hstring := takeString?_written ht r
      rw [writeString, List.cons_append, List.cons_append] at hstring ⊢
      rw [takeValue?, hstring]
      rfl
  | bool b => cases b <;> rfl

theorem isCollection_of_written {v : Value} (h : Written v w) : isCollection v = false := by
  cases h <;> rfl

theorem skip_of_head {t : Text} (h : ∀ c ∈ t.head?, isSpace c = false) : skip t = t := by
  cases t with
  | nil => rfl
  | cons c t => simp [skip, h c rfl]

theorem skip_written {v : Value} (h : Written v w) (r : Text) : skip (w ++ r) = w ++ r := by
  refine skip_of_head ?_
  cases h with
  | int n =>
      obtain ⟨c, w, hn, hc, -⟩ := Text.ofNat_eq_cons n
      have hspace : isSpace c = false := by
        simp [isSpace, ne_of_apart (d := ' ') hc rfl, ne_of_apart (d := '\t') hc rfl]
      simpa [hn] using hspace
  | text ht => simp [writeString]; rfl
  | bool b => cases b <;> simp <;> rfl

structure Bare (key : Text) : Prop where
  nonempty : key ≠ []
  chars : ∀ c ∈ key, isBareChar c

instance (key : Text) : Decidable (Bare key) :=
  decidable_of_iff (key.isEmpty = false ∧ key.all isBareChar)
    ⟨fun h => ⟨List.isEmpty_eq_false_iff.mp h.1, List.all_eq_true.mp h.2⟩,
      fun h => ⟨List.isEmpty_eq_false_iff.mpr h.nonempty, List.all_eq_true.mpr h.chars⟩⟩

theorem Bare.eq_cons {key : Text} (h : Bare key) :
    ∃ c rest, key = c :: rest ∧ isBareChar c := by
  cases key with
  | nil => exact absurd rfl h.nonempty
  | cons c rest => exact ⟨c, rest, rfl, h.chars c List.mem_cons_self⟩

theorem skip_bare {key : Text} (h : Bare key) (r : Text) : skip (key ++ r) = key ++ r := by
  obtain ⟨c, rest, rfl, hc⟩ := h.eq_cons
  refine skip_of_head ?_
  simp [isSpace, ne_of_apart (d := ' ') hc rfl, ne_of_apart (d := '\t') hc rfl]

theorem takeKey?_bare {key : Text} (h : Bare key) (hr : ∀ c ∈ r.head?, isBareChar c = false)
    (hdot : ∀ s, skip r ≠ '.' :: s) (fuel : Nat) :
    takeKey? (fuel + 1) (key ++ r) = some ([key], skip r) := by
  have hpart : takeKeyPart? (key ++ r) = some (key, r) := by
    obtain ⟨htake, hdrop⟩ := Text.split_append h.chars hr
    rw [takeKeyPart?, htake, hdrop, List.isEmpty_eq_false_iff.mpr h.nonempty]
    rfl
  rw [takeKey?, skip_bare h, hpart]
  simp only [Option.bind_eq_bind, Option.bind_some]

inductive Entries : Assoc Value → Text → Prop
  | nil : Entries [] []
  | cons {key w t : Text} {v : Value} {m : Assoc Value} : Bare key → Written v w → Entries m t →
      Entries ((key, v) :: m) (key ++ " = ".toList ++ w ++ '\n' :: t)

theorem endLine?_newline (t : Text) : endLine? ('\n' :: t) = some t :=
  rfl

theorem readLines_key {c : Char} (hc : isBareChar c) (fuel : Nat) (d : Draft) (t : Text) :
    readLines (fuel + 1) d (c :: t) = (do
      let (key, r) ← takeKey? (t.length + 1) (c :: t)
      let r := skip (← Text.after? ['='] r)
      let (v, r) ← takeValue? (r.length + 1) r
      readLines fuel (← d.entry? key v) (← endLine? r)) := by
  have hspace := ne_of_apart (d := ' ') hc rfl
  have htab := ne_of_apart (d := '\t') hc rfl
  have hbracket := ne_of_apart (d := '[') hc rfl
  have hcomment := ne_of_apart (d := '#') hc rfl
  have hbreak := ne_of_apart (d := '\n') hc rfl
  have hskip : skip (c :: t) = c :: t := skip_of_head (by simp [isSpace, hspace, htab])
  rw [readLines, hskip]
  simp [hbracket, hcomment, hbreak]

theorem readLines_entry {key : Text} {v : Value} (hkey : Bare key) (hv : Written v w)
    (fuel : Nat) (d : Draft) (t : Text) :
    readLines (fuel + 1) d (key ++ " = ".toList ++ w ++ '\n' :: t) =
      (do readLines fuel (← d.entry? [key] v) t) := by
  obtain ⟨c, rest, hcons, hc⟩ := hkey.eq_cons
  have htext : key ++ " = ".toList ++ w ++ '\n' :: t =
      key ++ ' ' :: '=' :: ' ' :: (w ++ '\n' :: t) := by
    simp
  have htakes (fuel : Nat) : takeKey? (fuel + 1) (key ++ ' ' :: '=' :: ' ' :: (w ++ '\n' :: t)) =
      some ([key], '=' :: ' ' :: (w ++ '\n' :: t)) :=
    takeKey?_bare hkey (by simp; rfl) (by simp [skip, isSpace]) fuel
  have hskip : skip (' ' :: (w ++ '\n' :: t)) = w ++ '\n' :: t := skip_written hv ('\n' :: t)
  rw [htext]
  rw [hcons, List.cons_append] at htakes ⊢
  rw [readLines_key hc, htakes]
  have hafter : Text.after? ['='] ('=' :: ' ' :: (w ++ '\n' :: t)) =
      some (' ' :: (w ++ '\n' :: t)) := rfl
  simp only [Option.bind_eq_bind, Option.bind_some, hafter, hskip, takeValue?_written hv,
    endLine?_newline]

namespace Draft

def within (name : Text) (m : Assoc Value) : Draft :=
  ⟨[(name, .dict m)], [name], [[name]], [], []⟩

theorem entry?_within {name key : Text} {m : Assoc Value} {v : Value} (h : key ∉ m.keys)
    (hv : isCollection v = false) :
    entry? (within name m) [key] v = some (within name (m ++ [(key, v)])) := by
  have hnone := Assoc.get?_eq_none_iff.mpr h
  simp [tablesOn, entry?, within, passes, insert?, update?, add?, Assoc.get?, Assoc.put, hnone, hv,
    Assoc.put_of_notMem h]

end Draft

theorem readLines_entries {name t : Text} {m : Assoc Value} (h : Entries m t) {fuel : Nat}
    (hfuel : m.length ≤ fuel) (before : Assoc Value) (hkeys : (before ++ m).keys.Nodup) :
    readLines fuel (.within name before) t = some [(name, .dict (before ++ m))] := by
  induction h generalizing fuel before with
  | nil =>
      rw [List.append_nil]
      cases fuel <;> rfl
  | @cons key w t v m hkey hv _ ih =>
      obtain ⟨fuel, rfl⟩ := Nat.exists_eq_add_one_of_ne_zero (Nat.ne_zero_of_lt hfuel)
      have hsplit : before ++ (key, v) :: m = (before ++ [(key, v)]) ++ m := by simp
      have hnew : key ∉ before.keys := by
        intro hmem
        rw [Assoc.keys, List.map_append] at hkeys
        exact (List.nodup_append.mp hkeys).2.2 key hmem key (by simp) rfl
      rw [hsplit] at hkeys ⊢
      rw [readLines_entry hkey hv, Draft.entry?_within hnew (isCollection_of_written hv),
        Option.bind_eq_bind, Option.bind_some, ih (Nat.le_of_succ_le_succ hfuel) _ hkeys]

theorem readLines_bracket {c : Char} (hc : c ≠ '[') (fuel : Nat) (d : Draft) (t : Text) :
    readLines (fuel + 1) d ('[' :: c :: t) = (do
      let (way, r) ← takeKey? (t.length + 1) (c :: t)
      readLines fuel (← d.header? way) (← endLine? (← Text.after? [']'] r))) := by
  have hskip : skip ('[' :: c :: t) = '[' :: c :: t := rfl
  rw [readLines, hskip]
  simp [hc]

theorem readLines_header {name : Text} (hname : Bare name) (fuel : Nat) (t : Text) :
    readLines (fuel + 1) .start ('[' :: name ++ ']' :: '\n' :: t) =
      readLines fuel (.within name []) t := by
  obtain ⟨c, rest, hcons, hc⟩ := hname.eq_cons
  have htakes (fuel : Nat) : takeKey? (fuel + 1) (name ++ ']' :: '\n' :: t) =
      some ([name], ']' :: '\n' :: t) :=
    takeKey?_bare hname (by simp; rfl) (by simp [skip, isSpace]) fuel
  have hheader : Draft.start.header? [name] = some (.within name []) := by
    simp [Draft.header?, Draft.start, Draft.close, Draft.within, passes, update?, Assoc.get?,
      Assoc.put]
  have hafter : Text.after? [']'] (']' :: '\n' :: t) = some ('\n' :: t) := rfl
  rw [hcons, List.cons_append] at htakes
  rw [List.cons_append, hcons, List.cons_append, readLines_bracket (ne_of_apart hc rfl), htakes]
  simp only [Option.bind_eq_bind, Option.bind_some, ← hcons, hafter, hheader, endLine?_newline]

theorem notMem_written {v : Value} (h : Written v w) : '\r' ∉ w := by
  cases h with
  | int n =>
      intro hmem
      exact absurd (Text.isDigit_of_mem_ofNat _ hmem) (by decide)
  | @text t ht =>
      intro hmem
      have hmem' : '\r' ∈ t := by simpa [writeString] using hmem
      exact absurd (ht _ hmem').2.2 (by decide)
  | bool b => cases b <;> decide

theorem notMem_bare {key : Text} (h : Bare key) : '\r' ∉ key :=
  fun hmem => absurd (h.chars _ hmem) (by decide)

theorem notMem_entries {t : Text} {m : Assoc Value} (h : Entries m t) : '\r' ∉ t := by
  induction h with
  | nil => exact List.not_mem_nil
  | cons hkey hv _ ih => simp [notMem_bare hkey, notMem_written hv, ih]

theorem length_entries {t : Text} {m : Assoc Value} (h : Entries m t) : m.length ≤ t.length := by
  induction h with
  | nil => exact Nat.le_refl 0
  | cons _ _ _ ih =>
      simp only [List.length_append, List.length_cons]
      omega

theorem read?_table {name t : Text} {m : Assoc Value} (hname : Bare name) (h : Entries m t)
    (hkeys : m.keys.Nodup) : read? ('[' :: name ++ ']' :: '\n' :: t) = some [(name, .dict m)] := by
  have hjoined : Text.joinLineEnds ('[' :: name ++ ']' :: '\n' :: t) =
      '[' :: name ++ ']' :: '\n' :: t :=
    Text.joinLineEnds_of_notMem (by simp [notMem_bare hname, notMem_entries h])
  have hfuel : m.length ≤ ('[' :: name ++ ']' :: '\n' :: t).length := by
    have hlength := length_entries h
    simp only [List.length_append, List.length_cons]
    omega
  rw [read?, hjoined, readLines_header hname]
  exact readLines_entries h hfuel [] hkeys

end Toml

end PromptTemplate
