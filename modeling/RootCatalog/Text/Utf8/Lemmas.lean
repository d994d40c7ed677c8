import RootCatalog.Text.Utf8
/-! What `utf8` writes, `decode` reads back. Each character is read by its own lemma, and the text by
induction; that refused input is no UTF-8 is not shown here. -/
namespace RootCatalog.Text

theorem decodeFromOne {b : UInt8} (h : b.toNat < 128) (pos : Nat) (read : List Char) (rest : Bytes) :
    decodeFrom pos read (b :: rest) = decodeFrom (pos + 1) (Char.ofNat b.toNat :: read) rest := by
  have : b < 0x80 := by simpa [UInt8.lt_iff_toNat_lt] using h
  rw [decodeFrom.eq_def]
  simp [this]

theorem isContinuationBounds {b : UInt8} : isContinuation b = true ↔ 128 ≤ b.toNat ∧ b.toNat < 192 := by
  simp [isContinuation, UInt8.le_iff_toNat_le, UInt8.lt_iff_toNat_lt]

theorem secondAllowedBounds {b c : UInt8} : secondAllowed b c = true ↔
    128 ≤ c.toNat ∧ c.toNat < 192 ∧ (b.toNat = 224 → 160 ≤ c.toNat) ∧ (b.toNat = 237 → c.toNat < 160) ∧
      (b.toNat = 240 → 144 ≤ c.toNat) ∧ (b.toNat = 244 → c.toNat < 144) := by
  unfold secondAllowed
  simp only [← UInt8.toNat_inj]
  split
  · simp [UInt8.le_iff_toNat_le, UInt8.lt_iff_toNat_lt] at *; omega
  split
  · simp [UInt8.le_iff_toNat_le, UInt8.lt_iff_toNat_lt] at *; omega
  split
  · simp [UInt8.le_iff_toNat_le, UInt8.lt_iff_toNat_lt] at *; omega
  split
  · simp [UInt8.le_iff_toNat_le, UInt8.lt_iff_toNat_lt] at *; omega
  · rw [isContinuationBounds]; simp at *; omega

theorem decodeFromTwo {b c : UInt8} (lead : 194 ≤ b.toNat ∧ b.toNat < 224)
    (second : secondAllowed b c = true) (pos : Nat) (read : List Char) (rest : Bytes) :
    decodeFrom pos read (b :: c :: rest) =
      decodeFrom (pos + 2) (Char.ofNat (b.toNat % 32 * 64 + c.toNat % 64) :: read) rest := by
  have notOne : ¬ b < 0x80 := by simp [UInt8.lt_iff_toNat_lt]; omega
  have leads : ¬ (b < 0xC2 ∨ 0xF4 < b) := by simp [UInt8.lt_iff_toNat_lt]; omega
  have two : b < 0xE0 := by simp [UInt8.lt_iff_toNat_lt]; omega
  rw [decodeFrom.eq_def]
  simp only [notOne, leads, second, two, if_false, if_true, Bool.or_eq_true, decide_eq_true_eq,
    Bool.not_true, Bool.false_eq_true]

theorem decodeFromThree {b c d : UInt8} (lead : 224 ≤ b.toNat ∧ b.toNat < 240)
    (second : secondAllowed b c = true) (third : isContinuation d = true) (pos : Nat)
    (read : List Char) (rest : Bytes) :
    decodeFrom pos read (b :: c :: d :: rest) =
      decodeFrom (pos + 3)
        (Char.ofNat ((b.toNat % 16 * 64 + c.toNat % 64) * 64 + d.toNat % 64) :: read) rest := by
  have notOne : ¬ b < 0x80 := by simp [UInt8.lt_iff_toNat_lt]; omega
  have leads : ¬ (b < 0xC2 ∨ 0xF4 < b) := by simp [UInt8.lt_iff_toNat_lt]; omega
  have notTwo : ¬ b < 0xE0 := by simp [UInt8.lt_iff_toNat_lt]; omega
  have three : b < 0xF0 := by simp [UInt8.lt_iff_toNat_lt]; omega
  rw [decodeFrom.eq_def]
  simp only [notOne, leads, second, notTwo, third, three, if_false, if_true, Bool.or_eq_true,
    decide_eq_true_eq, Bool.not_true, Bool.false_eq_true]

theorem decodeFromFour {b c d e : UInt8} (lead : 240 ≤ b.toNat ∧ b.toNat ≤ 244)
    (second : secondAllowed b c = true) (third : isContinuation d = true)
    (fourth : isContinuation e = true) (pos : Nat) (read : List Char) (rest : Bytes) :
    decodeFrom pos read (b :: c :: d :: e :: rest) =
      decodeFrom (pos + 4) (Char.ofNat
        (((b.toNat % 8 * 64 + c.toNat % 64) * 64 + d.toNat % 64) * 64 + e.toNat % 64) :: read)
        rest := by
  have notOne : ¬ b < 0x80 := by simp [UInt8.lt_iff_toNat_lt]; omega
  have leads : ¬ (b < 0xC2 ∨ 0xF4 < b) := by simp [UInt8.lt_iff_toNat_lt]; omega
  have notTwo : ¬ b < 0xE0 := by simp [UInt8.lt_iff_toNat_lt]; omega
  have notThree : ¬ b < 0xF0 := by simp [UInt8.lt_iff_toNat_lt]; omega
  rw [decodeFrom.eq_def]
  simp only [notOne, leads, second, notTwo, third, notThree, fourth, if_false, Bool.or_eq_true,
    decide_eq_true_eq, Bool.not_true, Bool.false_eq_true]

theorem decodeFromEncoded (c : Char) (pos : Nat) (read : List Char) (rest : Bytes) :
    decodeFrom pos read (String.utf8EncodeChar c ++ rest) =
      decodeFrom (pos + (String.utf8EncodeChar c).length) (c :: read) rest := by
  have valid := c.valid
  have back : Char.ofNat c.val.toNat = c := Char.ofNat_toNat c
  simp only [UInt32.isValidChar, Nat.isValidChar] at valid
  generalize value : c.val.toNat = v at valid back
  have octet (n : Nat) (h : n < 256) : (UInt8.ofNat n).toNat = n := by simp; omega
  unfold String.utf8EncodeChar
  simp only [value]
  split
  · have lead := octet v (by omega)
    rw [List.cons_append, List.nil_append, decodeFromOne (by omega), lead, back]
    rfl
  split
  · have lead := octet (v / 64 % 32 + 192) (by omega)
    have second := octet (v % 64 + 128) (by omega)
    simp only [List.cons_append, List.nil_append]
    rw [decodeFromTwo (by omega) (secondAllowedBounds.mpr (by omega)), lead, second,
      show (v / 64 % 32 + 192) % 32 * 64 + (v % 64 + 128) % 64 = v by omega, back]
    rfl
  split
  · have lead := octet (v / 4096 % 16 + 224) (by omega)
    have second := octet (v / 64 % 64 + 128) (by omega)
    have third := octet (v % 64 + 128) (by omega)
    simp only [List.cons_append, List.nil_append]
    rw [decodeFromThree (by omega) (secondAllowedBounds.mpr (by omega))
      (isContinuationBounds.mpr (by omega)), lead, second, third,
      show ((v / 4096 % 16 + 224) % 16 * 64 + (v / 64 % 64 + 128) % 64) * 64 +
        (v % 64 + 128) % 64 = v by omega, back]
    rfl
  · have lead := octet (v / 262144 % 8 + 240) (by omega)
    have second := octet (v / 4096 % 64 + 128) (by omega)
    have third := octet (v / 64 % 64 + 128) (by omega)
    have fourth := octet (v % 64 + 128) (by omega)
    simp only [List.cons_append, List.nil_append]
    rw [decodeFromFour (by omega) (secondAllowedBounds.mpr (by omega))
      (isContinuationBounds.mpr (by omega)) (isContinuationBounds.mpr (by omega)), lead, second,
      third, fourth, show (((v / 262144 % 8 + 240) % 8 * 64 + (v / 4096 % 64 + 128) % 64) * 64 +
        (v / 64 % 64 + 128) % 64) * 64 + (v % 64 + 128) % 64 = v by omega, back]
    rfl

theorem decodeFromChars (chars : List Char) (pos : Nat) (read : List Char) :
    decodeFrom pos read (chars.flatMap String.utf8EncodeChar) = .ok (read.reverse ++ chars) := by
  induction chars generalizing pos read with
  | nil => simp [decodeFrom]
  | cons c rest ih => simp [decodeFromEncoded, ih]

theorem decodeUtf8 (s : String) : decode (utf8 s) = .ok s := by
  simp [decode, utf8, decodeFromChars, Except.map]

theorem utf8Inj {s t : String} (h : utf8 s = utf8 t) : s = t := by
  have read := decodeUtf8 s
  rw [h, decodeUtf8] at read
  exact (Except.ok.inj read).symm

theorem utf8Append (s t : String) : utf8 (s ++ t) = utf8 s ++ utf8 t := by
  simp [utf8]

theorem utf8OfList (chars : List Char) :
    utf8 (String.ofList chars) = chars.flatMap String.utf8EncodeChar := by
  simp [utf8]

theorem byteOrderEq {s t : String} : byteOrder s t = .eq ↔ s = t := by
  unfold byteOrder
  rw [Std.compare_eq_iff_eq]
  exact ⟨utf8Inj, congrArg utf8⟩

instance : Std.TransCmp byteOrder where
  eq_swap := Std.OrientedOrd.eq_swap
  isLE_trans := Std.TransOrd.isLE_trans

instance : Std.LawfulEqCmp byteOrder where
  eq_of_compare := byteOrderEq.mp

end RootCatalog.Text
