/-! Octet strings are lists of octets. The module gives the cut of a fixed number of octets off the
front and the little-endian words of the root format. -/
namespace RootCatalog

abbrev Bytes := List UInt8

namespace Bytes

def cutFrom (front : Bytes) : Nat → Bytes → Option (Bytes × Bytes)
  | 0, rest => some (front.reverse, rest)
  | _ + 1, [] => none
  | n + 1, b :: rest => cutFrom (b :: front) n rest

def cut (n : Nat) (bytes : Bytes) : Option (Bytes × Bytes) := cutFrom [] n bytes

theorem cutFromTakes (front : Bytes) (n : Nat) (bytes : Bytes) :
    cutFrom front n bytes =
      if n ≤ bytes.length then some (front.reverse ++ bytes.take n, bytes.drop n) else none := by
  induction n generalizing front bytes with
  | zero => simp [cutFrom]
  | succ n ih =>
    cases bytes with
    | nil => simp [cutFrom]
    | cons b rest => simp [cutFrom, ih]

theorem cutTakes (n : Nat) (bytes : Bytes) :
    cut n bytes = if n ≤ bytes.length then some (bytes.take n, bytes.drop n) else none := by
  simp [cut, cutFromTakes]

def ofNat : Nat → Nat → Bytes
  | 0, _ => []
  | n + 1, value => UInt8.ofNat (value % 256) :: ofNat n (value / 256)

def toNat : Bytes → Nat
  | [] => 0
  | b :: rest => b.toNat + 256 * toNat rest

theorem lengthOfNat (n value : Nat) : (ofNat n value).length = n := by
  induction n generalizing value with
  | zero => rfl
  | succ n ih => simp [ofNat, ih]

theorem ofNatToNat (bytes : Bytes) : ofNat bytes.length (toNat bytes) = bytes := by
  induction bytes with
  | nil => rfl
  | cons b rest ih =>
    have hb := b.toNat_lt
    have low : (b.toNat + 256 * toNat rest) % 256 = b.toNat := by omega
    have high : (b.toNat + 256 * toNat rest) / 256 = toNat rest := by omega
    simp [List.length_cons, ofNat, toNat, low, high, ih]

end Bytes
end RootCatalog
