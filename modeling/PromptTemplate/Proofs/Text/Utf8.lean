import PromptTemplate.Text.Utf8

namespace PromptTemplate.Text

theorem toList_loop_eq (b : ByteArray) (i : Nat) (seen : List UInt8) :
    ByteArray.toList.loop b i seen = seen.reverse ++ b.data.toList.drop i := by
  induction i, seen using ByteArray.toList.loop.induct b with
  | case1 i seen hi ih =>
      have hlength : i < b.data.toList.length := hi
      rw [ByteArray.toList.loop, if_pos hi, ih, List.drop_eq_getElem_cons hlength]
      have hi' : i < b.size := hi
      simp [ByteArray.get!, hi']
  | case2 i seen hi =>
      have hlength : b.data.toList.length ≤ i := Nat.le_of_not_lt hi
      rw [ByteArray.toList.loop, if_neg hi, List.drop_eq_nil_of_le hlength, List.append_nil]

theorem toUtf8_eq (t : Text) : toUtf8 t = t.flatMap String.utf8EncodeChar := by
  rw [toUtf8, String.toUTF8, String.toByteArray_ofList, List.utf8Encode, ByteArray.toList,
    toList_loop_eq, List.toList_data_toByteArray]
  rfl

variable {b : Nat}

theorem lead?_one (h : b < 0x80) : lead? b = some ⟨b, 0, 0, 0⟩ :=
  if_pos h

theorem lead?_two (hlow : 0xc2 ≤ b) (hhigh : b < 0xe0) :
    lead? b = some ⟨b - 0xc0, 1, 0x80, 0xbf⟩ := by
  grind [lead?]

theorem lead?_three (hlow : 0xe0 ≤ b) (hhigh : b < 0xf0) :
    ∃ low high, lead? b = some ⟨b - 0xe0, 2, low, high⟩ ∧
      low = (if b = 0xe0 then 0xa0 else 0x80) ∧ high = if b = 0xed then 0x9f else 0xbf := by
  grind [lead?]

theorem lead?_four (hlow : 0xf0 ≤ b) (hhigh : b < 0xf5) :
    ∃ low high, lead? b = some ⟨b - 0xf0, 3, low, high⟩ ∧
      low = (if b = 0xf0 then 0x90 else 0x80) ∧ high = if b = 0xf4 then 0x8f else 0xbf := by
  grind [lead?]

variable {position byte start bits count low high n : Nat} {r : List UInt8}

theorem toNat_ofNat_byte (h : n < 0x100) : (UInt8.ofNat n).toNat = n := by
  rw [UInt8.toNat_ofNat']
  exact Nat.mod_eq_of_lt h

theorem utf8From_first (hb : b < 0x100) (hlead : lead? b = some ⟨bits, count + 1, low, high⟩) :
    utf8From position none (UInt8.ofNat b :: r) =
      utf8From (position + 1) (some ⟨b, position, ⟨bits, count + 1, low, high⟩⟩) r := by
  simp only [utf8From, toNat_ofNat_byte hb, hlead, if_neg (Nat.succ_ne_zero count)]

theorem utf8From_next (hn : n < 0x40) (hrange : low ≤ n + 0x80 ∧ n + 0x80 ≤ high) :
    utf8From position (some ⟨byte, start, ⟨bits, count + 2, low, high⟩⟩)
        (UInt8.ofNat (n + 0x80) :: r) =
      utf8From (position + 1) (some ⟨byte, start, ⟨bits * 64 + n, count + 1, 0x80, 0xbf⟩⟩) r := by
  have hbyte := toNat_ofNat_byte (n := n + 0x80) (by omega)
  have hmore : ¬ count + 2 = 1 := by omega
  simp only [utf8From, hbyte, hrange.1, hrange.2, decide_true, Bool.and_self, if_true, if_neg hmore,
    Nat.add_sub_cancel]
  rfl

theorem utf8From_last (hn : n < 0x40) (hrange : low ≤ n + 0x80 ∧ n + 0x80 ≤ high) :
    utf8From position (some ⟨byte, start, ⟨bits, 1, low, high⟩⟩) (UInt8.ofNat (n + 0x80) :: r) =
      (utf8From (position + 1) none r).map (Char.ofNat (bits * 64 + n) :: ·) := by
  have hbyte := toNat_ofNat_byte (n := n + 0x80) (by omega)
  simp only [utf8From, hbyte, hrange.1, hrange.2, decide_true, Bool.and_self, if_true,
    Nat.add_sub_cancel]

theorem utf8From_one (h : n < 0x80) :
    utf8From position none (UInt8.ofNat n :: r) =
      (utf8From (position + 1) none r).map (Char.ofNat n :: ·) := by
  simp only [utf8From, toNat_ofNat_byte (n := n) (by omega), lead?_one h, if_true]

theorem utf8From_two (hlow : 0x80 ≤ n) (hhigh : n < 0x800) :
    utf8From position none (UInt8.ofNat (n / 64 % 32 + 192) :: UInt8.ofNat (n % 64 + 128) :: r) =
      (utf8From (position + 1 + 1) none r).map (Char.ofNat n :: ·) := by
  have hlead := lead?_two (b := n / 64 % 32 + 192) (by omega) (by omega)
  have hbits : (n / 64 % 32 + 192 - 192) * 64 + n % 64 = n := by omega
  rw [utf8From_first (by omega) hlead, utf8From_last (by omega) (by omega), hbits]

theorem utf8From_three (hlow : 0x800 ≤ n) (hhigh : n < 0x10000) (hvalid : n < 0xd800 ∨ 0xdfff < n) :
    utf8From position none (UInt8.ofNat (n / 4096 % 16 + 224) ::
        UInt8.ofNat (n / 64 % 64 + 128) :: UInt8.ofNat (n % 64 + 128) :: r) =
      (utf8From (position + 1 + 1 + 1) none r).map (Char.ofNat n :: ·) := by
  obtain ⟨low, high, hlead, hlow, hhigh⟩ :=
    lead?_three (b := n / 4096 % 16 + 224) (by omega) (by omega)
  have hsecond : low ≤ n / 64 % 64 + 0x80 ∧ n / 64 % 64 + 0x80 ≤ high := by
    split at hlow <;> split at hhigh <;> omega
  have hbits : ((n / 4096 % 16 + 224 - 224) * 64 + n / 64 % 64) * 64 + n % 64 = n := by omega
  rw [utf8From_first (by omega) hlead, utf8From_next (by omega) hsecond,
    utf8From_last (by omega) (by omega), hbits]

theorem utf8From_four (hlow : 0x10000 ≤ n) (hhigh : n < 0x110000) :
    utf8From position none (UInt8.ofNat (n / 262144 % 8 + 240) ::
        UInt8.ofNat (n / 4096 % 64 + 128) :: UInt8.ofNat (n / 64 % 64 + 128) ::
          UInt8.ofNat (n % 64 + 128) :: r) =
      (utf8From (position + 1 + 1 + 1 + 1) none r).map (Char.ofNat n :: ·) := by
  obtain ⟨low, high, hlead, hlow, hhigh⟩ :=
    lead?_four (b := n / 262144 % 8 + 240) (by omega) (by omega)
  have hsecond : low ≤ n / 4096 % 64 + 0x80 ∧ n / 4096 % 64 + 0x80 ≤ high := by
    split at hlow <;> split at hhigh <;> omega
  have hbits : (((n / 262144 % 8 + 240 - 240) * 64 + n / 4096 % 64) * 64 + n / 64 % 64) * 64 +
      n % 64 = n := by
    omega
  rw [utf8From_first (by omega) hlead, utf8From_next (by omega) hsecond,
    utf8From_next (by omega) (by omega), utf8From_last (by omega) (by omega), hbits]

theorem utf8From_char (c : Char) (position : Nat) (r : List UInt8) :
    ∃ next, utf8From position none (String.utf8EncodeChar c ++ r) =
      (utf8From next none r).map (c :: ·) := by
  obtain ⟨n, hn⟩ : ∃ n, n = c.val.toNat := ⟨_, rfl⟩
  have hchar : Char.ofNat n = c := hn ▸ Char.ofNat_toNat c
  have hvalid : n < 0xd800 ∨ 0xdfff < n ∧ n < 0x110000 := hn ▸ c.valid
  simp only [String.utf8EncodeChar, ← hn]
  rw [← hchar]
  split
  · exact ⟨_, utf8From_one (by omega)⟩
  · split
    · exact ⟨_, utf8From_two (by omega) (by omega)⟩
    · split
      · exact ⟨_, utf8From_three (by omega) (by omega) (by omega)⟩
      · exact ⟨_, utf8From_four (by omega) (by omega)⟩

theorem utf8From_toUtf8 (t : Text) (position : Nat) :
    utf8From position none (toUtf8 t) = .ok t := by
  rw [toUtf8_eq]
  induction t generalizing position with
  | nil => rfl
  | cons c t ih =>
      obtain ⟨next, hnext⟩ := utf8From_char c position (List.flatMap String.utf8EncodeChar t)
      rw [List.flatMap_cons, hnext, ih]
      rfl

theorem ofUtf8_toUtf8 (t : Text) : ofUtf8 (toUtf8 t) = .ok t :=
  utf8From_toUtf8 t 0

end PromptTemplate.Text
