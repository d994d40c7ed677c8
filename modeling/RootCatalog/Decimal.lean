/-! Decimal text of a binary64 number: the fewest digits that read back as the number, and of those
the nearest. The search compares exact naturals; nothing is proved here about core's floating point
operations. -/
namespace RootCatalog.Decimal

/-- A positive number `numerator / denominator` with the bounds, over the same denominator, of the
reals that round to it. The bounds belong to the interval if `closed`. -/
structure Rounding where
  numerator : Nat
  lower : Nat
  upper : Nat
  denominator : Nat
  closed : Bool
  deriving DecidableEq, Repr

def Rounding.ofBits (bits : Nat) : Rounding :=
  let fraction := bits % 4503599627370496
  let biased := bits / 4503599627370496 % 2048
  let mantissa := if biased = 0 then fraction else 4503599627370496 + fraction
  let exponent : Int := Int.ofNat (if biased = 0 then 1 else biased) - 1077
  let scale := Nat.pow 2 exponent.toNat
  let gap := if fraction = 0 ∧ 1 < biased then 1 else 2
  ⟨4 * mantissa * scale, (4 * mantissa - gap) * scale, (4 * mantissa + 2) * scale,
    Nat.pow 2 (-exponent).toNat, mantissa % 2 = 0⟩

def Rounding.admits (r : Rounding) (digits : Nat) (exponent : Int) : Bool :=
  let value := digits * Nat.pow 10 exponent.toNat * r.denominator
  let unit := Nat.pow 10 (-exponent).toNat
  if r.closed then r.lower * unit ≤ value && value ≤ r.upper * unit
  else r.lower * unit < value && value < r.upper * unit

def Rounding.magnitude (r : Rounding) : Int :=
  if r.denominator ≤ r.numerator then
    Int.ofNat ((Nat.toDigits 10 (r.numerator / r.denominator)).length - 1)
  else
    match (List.range 400).find? fun n => r.denominator ≤ r.numerator * Nat.pow 10 n with
    | some n => -Int.ofNat n
    | none => 0

def Rounding.onGrid (r : Rounding) (exponent : Int) : Option Nat :=
  let number := r.numerator * Nat.pow 10 (-exponent).toNat
  let unit := r.denominator * Nat.pow 10 exponent.toNat
  let below := number / unit
  let rest := number % unit
  match r.admits below exponent, r.admits (below + 1) exponent with
  | true, true =>
    some (if 2 * rest < unit ∨ (2 * rest = unit ∧ below % 2 = 0) then below else below + 1)
  | true, false => some below
  | false, true => some (below + 1)
  | false, false => none

def trimZeros (digits : List Char) : List Char :=
  (digits.reverse.dropWhile (· = '0')).reverse

def Rounding.shortest (r : Rounding) : List Char × Int :=
  let top := r.magnitude
  let hit := (List.range 17).findSome? fun n =>
    let exponent := top - Int.ofNat n
    (r.onGrid exponent).map fun d => (d, exponent)
  match hit with
  | none => (['0'], 0)
  | some (d, exponent) =>
    let digits := Nat.toDigits 10 d
    (trimZeros digits, exponent + Int.ofNat (digits.length - 1))

def positional (digits : List Char) (top : Int) : List Char :=
  if top < 0 then ['0', '.'] ++ List.replicate ((-top).toNat - 1) '0' ++ digits
  else
    let whole := top.toNat + 1
    if digits.length ≤ whole then
      digits ++ List.replicate (whole - digits.length) '0' ++ ['.', '0']
    else digits.take whole ++ '.' :: digits.drop whole

def scientific (digits : List Char) (top : Int) : List Char :=
  let fraction := if digits.length ≤ 1 then [] else '.' :: digits.drop 1
  digits.take 1 ++ fraction ++ ['e', if top < 0 then '-' else '+'] ++
    Nat.toDigits 10 top.natAbs

def text (x : Float) : String :=
  let bits := x.toBits.toNat
  let sign := if bits / 9223372036854775808 = 0 then [] else ['-']
  let size := bits % 9223372036854775808
  if size = 0 then String.ofList (sign ++ ['0', '.', '0'])
  else
    let (digits, top) := (Rounding.ofBits size).shortest
    let body := if -5 ≤ top ∧ top < 16 then positional digits top else scientific digits top
    String.ofList (sign ++ body)

end RootCatalog.Decimal
