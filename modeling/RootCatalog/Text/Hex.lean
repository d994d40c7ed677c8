import RootCatalog.Text.Bytes
/-! Hexadecimal digits: the two lower-case digits of an octet, and the value of a digit of either
case, read from its octet. -/
namespace RootCatalog.Text

def hexDigit (n : Nat) : Char :=
  if n < 10 then Char.ofNat (48 + n) else Char.ofNat (87 + n)

def hexPair (b : UInt8) : List Char := [hexDigit (b.toNat / 16), hexDigit (b.toNat % 16)]

def hexText (bytes : Bytes) : String := String.ofList (bytes.flatMap hexPair)

def hexValue? (b : UInt8) : Option Nat :=
  let n := b.toNat
  if 48 ≤ n ∧ n < 58 then some (n - 48)
  else if 65 ≤ n ∧ n < 71 then some (n - 55)
  else if 97 ≤ n ∧ n < 103 then some (n - 87)
  else none

def hexNumber (n : Nat) : String := String.ofList (Nat.toDigits 16 n)

end RootCatalog.Text
