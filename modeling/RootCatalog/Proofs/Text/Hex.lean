import RootCatalog.ContentKey
import RootCatalog.Text.Utf8.Lemmas
/-! Hexadecimal digits. They are read in either case and written in the lower one, one by one and in
the pairs of a content key, and written pairs are in the order of the octets they stand for. -/
namespace RootCatalog

namespace Text

def hexOctet (n : Nat) : UInt8 := UInt8.ofNat (hexDigit n).toNat

theorem hexSpelled : ∀ n < 16, String.utf8EncodeChar (hexDigit n) = [hexOctet n] := by decide

theorem hexRead : ∀ n < 16, hexValue? (hexOctet n) = some n := by decide

theorem halvesSmall (b : UInt8) : b.toNat / 16 < 16 ∧ b.toNat % 16 < 16 := by
  have bound := b.toNat_lt
  omega

theorem halvesJoined (b : UInt8) : UInt8.ofNat (b.toNat / 16 * 16 + b.toNat % 16) = b := by
  rw [Nat.div_add_mod', UInt8.ofNat_toNat]

theorem pairSpelled (b : UInt8) : (hexPair b).flatMap String.utf8EncodeChar =
    [hexOctet (b.toNat / 16), hexOctet (b.toNat % 16)] := by
  simp [hexPair, hexSpelled _ (halvesSmall b).1, hexSpelled _ (halvesSmall b).2]

theorem hexTextCons (b : UInt8) (rest : Bytes) : utf8 (hexText (b :: rest)) =
    hexOctet (b.toNat / 16) :: hexOctet (b.toNat % 16) :: utf8 (hexText rest) := by
  rw [hexText, utf8OfList, List.flatMap_cons, List.flatMap_append, pairSpelled, hexText, utf8OfList]
  rfl

theorem hexTextLength (bytes : Bytes) : (utf8 (hexText bytes)).length = 2 * bytes.length := by
  induction bytes with
  | nil => rfl
  | cons b rest ih =>
    rw [hexTextCons, List.length_cons, List.length_cons, List.length_cons, ih]
    omega

inductive HexDigit : UInt8 → Nat → Prop
  | decimal {b : UInt8} {n : Nat} (small : n < 10) (spelled : b.toNat = 48 + n) : HexDigit b n
  | upper {b : UInt8} {n : Nat} (range : 10 ≤ n ∧ n < 16) (spelled : b.toNat = 55 + n) : HexDigit b n
  | lower {b : UInt8} {n : Nat} (range : 10 ≤ n ∧ n < 16) (spelled : b.toNat = 87 + n) : HexDigit b n

theorem hexValueIff {b : UInt8} {n : Nat} : hexValue? b = some n ↔ HexDigit b n := by
  constructor
  · intro read
    unfold hexValue? at read
    simp only at read
    split at read
    · cases read
      exact .decimal (by omega) (by omega)
    split at read
    · cases read
      exact .upper (by omega) (by omega)
    split at read
    · cases read
      exact .lower (by omega) (by omega)
    · cases read
  · intro digit
    unfold hexValue?
    simp only
    cases digit with
    | decimal small spelled => rw [if_pos (by omega), spelled, Nat.add_sub_cancel_left]
    | upper range spelled =>
      rw [if_neg (by omega), if_pos (by omega), spelled, Nat.add_sub_cancel_left]
    | lower range spelled =>
      rw [if_neg (by omega), if_neg (by omega), if_pos (by omega), spelled, Nat.add_sub_cancel_left]

theorem HexDigit.below {b : UInt8} {n : Nat} (digit : HexDigit b n) : n < 16 ∧ b.toNat < 128 := by
  cases digit <;> omega

theorem HexDigit.written {b : UInt8} {n : Nat} (digit : HexDigit b n) :
    (Char.ofNat b.toNat).toLower = hexDigit n := by
  have decimal : ∀ n < 10, (Char.ofNat (48 + n)).toLower = hexDigit n := by decide
  have upper : ∀ n < 16, 10 ≤ n → (Char.ofNat (55 + n)).toLower = hexDigit n := by decide
  have lower : ∀ n < 16, 10 ≤ n → (Char.ofNat (87 + n)).toLower = hexDigit n := by decide
  cases digit with
  | decimal small spelled => exact spelled ▸ decimal n small
  | upper range spelled => exact spelled ▸ upper n range.2 range.1
  | lower range spelled => exact spelled ▸ lower n range.2 range.1

theorem hexOctetOrder : ∀ m < 16, ∀ n < 16, compare (hexOctet m) (hexOctet n) = compare m n := by
  decide

theorem octetOrder (a b : UInt8) : compare a b = compare a.toNat b.toNat := by
  change compareOfLessAndEq a b = compareOfLessAndEq a.toNat b.toNat
  simp only [compareOfLessAndEq, UInt8.lt_iff_toNat_lt, ← UInt8.toNat_inj]

theorem halvesOrder (a b : UInt8) : compare a b =
    (compare (hexOctet (a.toNat / 16)) (hexOctet (b.toNat / 16))).then
      (compare (hexOctet (a.toNat % 16)) (hexOctet (b.toNat % 16))) := by
  rw [hexOctetOrder _ (halvesSmall a).1 _ (halvesSmall b).1,
    hexOctetOrder _ (halvesSmall a).2 _ (halvesSmall b).2, octetOrder]
  rcases Nat.lt_trichotomy (a.toNat / 16) (b.toNat / 16) with less | same | more
  · rw [Nat.compare_eq_lt.mpr less, Nat.compare_eq_lt.mpr (by omega), Ordering.lt_then]
  · rw [Nat.compare_eq_eq.mpr same, Ordering.eq_then]
    have less : a.toNat < b.toNat ↔ a.toNat % 16 < b.toNat % 16 := by omega
    have more : b.toNat < a.toNat ↔ b.toNat % 16 < a.toNat % 16 := by omega
    simp only [Nat.compare_eq_ite_lt, less, more]
  · rw [Nat.compare_eq_gt.mpr more, Nat.compare_eq_gt.mpr (by omega), Ordering.gt_then]

theorem hexTextOrder (a b : Bytes) : byteOrder (hexText a) (hexText b) = compare a b := by
  unfold byteOrder
  induction a generalizing b with
  | nil =>
    cases b with
    | nil => rfl
    | cons y later => rw [hexTextCons]; rfl
  | cons x rest ih =>
    cases b with
    | nil => rw [hexTextCons]; rfl
    | cons y later =>
      rw [hexTextCons, hexTextCons, List.compare_cons_cons, List.compare_cons_cons, ih,
        List.compare_cons_cons, halvesOrder x y, Ordering.then_assoc]

end Text

namespace ContentKey

theorem pairsRead (bytes : Bytes) (pos : Nat) :
    readPairs pos (Text.utf8 (Text.hexText bytes)) = .ok bytes := by
  induction bytes generalizing pos with
  | nil => rfl
  | cons b rest ih =>
    rw [Text.hexTextCons, readPairs, Text.hexRead _ (Text.halvesSmall b).1,
      Text.hexRead _ (Text.halvesSmall b).2]
    simp only [ih]
    change Except.ok (UInt8.ofNat (b.toNat / 16 * 16 + b.toNat % 16) :: rest) = _
    rw [Text.halvesJoined]

theorem parseText (key : ContentKey) : parse key.text = .ok key := by
  have length : (Text.utf8 key.text).length = 32 := by
    rw [text, Text.hexTextLength, key.lengthEq]
  have read := pairsRead key.bytes 0
  unfold parse
  simp only
  rw [dif_pos length]
  split
  · rename_i bytes spelled
    rw [text, read] at spelled
    cases spelled
    rfl
  · rename_i e spelled
    rw [text, read] at spelled
    cases spelled

end ContentKey
end RootCatalog
