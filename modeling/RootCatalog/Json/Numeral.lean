import RootCatalog.Json.Token
/-! Numbers of a JSON document. `Numeral.scan` takes one apart by the grammar alone; `Numeral.value`
gives its value. A fraction is computed from at most the leading digits that fit a 64-bit word and
one scaling by a power of ten, so its last bit may differ from the nearest number. -/
namespace RootCatalog.Json

structure Numeral where
  negative : Bool
  whole : List Nat
  fraction : List Nat
  exponent : Option (Bool × List Nat)
  deriving DecidableEq, Repr

def isDigit (b : UInt8) : Bool := 0x30 ≤ b && b ≤ 0x39

def digitRun (bytes : Bytes) : List Nat × Bytes :=
  ((bytes.takeWhile isDigit).map (·.toNat - 48), bytes.dropWhile isDigit)

namespace Numeral

def someDigits (bytes : Bytes) : Except Fault (List Nat × Bytes) :=
  match digitRun bytes with
  | ([], []) => .error .truncated
  | ([], _ :: _) => .error .malformed
  | run => .ok run

def scanFraction : Bytes → Except Fault (List Nat × Bytes)
  | [] => .ok ([], [])
  | b :: rest => if b = 0x2E then someDigits rest else .ok ([], b :: rest)

def scanExponent : Bytes → Except Fault (Option (Bool × List Nat) × Bytes)
  | [] => .ok (none, [])
  | b :: rest =>
    if b = 0x65 ∨ b = 0x45 then do
      let (up, rest) := match rest with
        | [] => (true, [])
        | s :: tail => if s = 0x2B then (true, tail) else if s = 0x2D then (false, tail)
          else (true, s :: tail)
      let (digits, rest) ← someDigits rest
      pure (some (up, digits), rest)
    else .ok (none, b :: rest)

def scan (bytes : Bytes) : Except Fault (Numeral × Bytes) := do
  let (negative, rest) := match bytes with
    | [] => (false, [])
    | b :: tail => if b = 0x2D then (true, tail) else (false, b :: tail)
  let (whole, rest) ← someDigits rest
  if whole.head? = some 0 ∧ 1 < whole.length then throw .malformed
  let (fraction, rest) ← scanFraction rest
  let (exponent, rest) ← scanExponent rest
  pure (⟨negative, whole, fraction, exponent⟩, rest)

def gather (bound start : Nat) : List Nat → Nat × List Nat
  | [] => (start, [])
  | d :: rest =>
    if start * 10 + d < bound then gather bound (start * 10 + d) rest else (start, d :: rest)

def tenTo (n : Nat) : Float := Float.ofScientific 1 false n

def scaleDown (x : Float) (exponent : Nat) : Nat → Float
  | 0 => x / tenTo exponent
  | steps + 1 =>
    if exponent ≤ 308 then x / tenTo exponent
    else if x == 0 then x
    else scaleDown (x / tenTo 308) (exponent - 308) steps

def scaled (negative : Bool) (significand : Nat) (exponent : Int) : Except Fault Number :=
  let x := significand.toUInt64.toFloat
  let sign (x : Float) : Number := .float (if negative then -x else x)
  if exponent < 0 then .ok (sign (scaleDown x exponent.natAbs (exponent.natAbs / 308)))
  else if exponent ≤ 308 then
    let y := x * tenTo exponent.toNat
    if y.isInf then .error .malformed else .ok (sign y)
  else if x == 0 then .ok (sign x)
  else .error .malformed

/-- A whole number of at most 64 bits. Without a sign it is an integer; with one it is an integer
down to `-2 ^ 63`, and a float if it is zero or lies below that. -/
def wholeNumber (negative : Bool) (n : Nat) : Number :=
  if !negative then .integer n
  else if n = 0 ∨ 9223372036854775808 < n then .float (-n.toUInt64.toFloat)
  else .integer (-n)

def value (n : Numeral) : Except Fault Number :=
  let (leading, dropped) := gather UInt64.size 0 n.whole
  if dropped = [] ∧ n.fraction = [] ∧ n.exponent = none then
    .ok (wholeNumber n.negative leading)
  else
    let (significand, ignored) := gather UInt64.size leading n.fraction
    let start : Int := dropped.length + ignored.length - n.fraction.length
    match n.exponent with
    | none => scaled n.negative significand start
    | some (up, digits) =>
      match gather 2147483648 0 digits with
      | (size, []) =>
        let exponent := if up then start + size else start - size
        scaled n.negative significand (max (-2147483648) (min 2147483647 exponent))
      | (_, _ :: _) =>
        if significand ≠ 0 ∧ up then .error .malformed
        else .ok (.float (if n.negative then -0.0 else 0.0))

end Numeral
end RootCatalog.Json
