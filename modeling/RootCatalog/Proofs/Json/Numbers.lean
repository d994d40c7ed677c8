import RootCatalog.Proofs.Json.Strings
/-! Numbers of a document. `Numeral.Spelled` is their grammar, taken apart as the scanner does it. A
number is one token where nothing behind it could carry it on, and a whole one without a sign has the
value of its digits as long as that fits a 64-bit word. A printed number is such a one. -/
namespace RootCatalog.Json

open Text (utf8)

def decimal (n : Nat) : List Nat := if n < 10 then [n] else decimal (n / 10) ++ [n % 10]
termination_by n

theorem decimalSmall {n : Nat} (small : n < 10) : decimal n = [n] := by
  rw [decimal, if_pos small]

theorem decimalMore {n : Nat} (more : ¬ n < 10) : decimal n = decimal (n / 10) ++ [n % 10] := by
  rw [decimal, if_neg more]

theorem decimalBelow (n : Nat) : ∀ d ∈ decimal n, d < 10 := by
  induction n using decimal.induct with
  | case1 n small =>
    rw [decimalSmall small]
    simpa using small
  | case2 n more ih =>
    rw [decimalMore more]
    intro d member
    rcases List.mem_append.mp member with front | last
    · exact ih d front
    · rw [List.mem_singleton.mp last]
      exact Nat.mod_lt n (by decide)

theorem decimalDigits (n : Nat) : Nat.toDigits 10 n = (decimal n).map Nat.digitChar := by
  induction n using decimal.induct with
  | case1 n small => rw [decimalSmall small, Nat.toDigits_of_lt_base small, List.map_singleton]
  | case2 n more ih =>
    rw [decimalMore more, Nat.toDigits_of_base_le (by decide) (Nat.not_lt.mp more), ih,
      List.map_append, List.map_singleton]

theorem decimalHead {n : Nat} (positive : 0 < n) : ∃ d digits, decimal n = d :: digits ∧ d ≠ 0 := by
  induction n using decimal.induct with
  | case1 n small => exact ⟨n, [], decimalSmall small, Nat.ne_of_gt positive⟩
  | case2 n more ih =>
    obtain ⟨d, digits, same, apart⟩ := ih (by omega)
    exact ⟨d, digits ++ [n % 10], by rw [decimalMore more, same, List.cons_append], apart⟩

def joined (start : Nat) (digits : List Nat) : Nat := digits.foldl (fun n d => n * 10 + d) start

theorem decimalJoined (n : Nat) : joined 0 (decimal n) = n := by
  induction n using decimal.induct with
  | case1 n small =>
    rw [decimalSmall small]
    simp [joined]
  | case2 n more ih =>
    rw [decimalMore more, joined, List.foldl_append]
    change joined 0 (decimal (n / 10)) * 10 + n % 10 = n
    rw [ih]
    omega

theorem joinedGrows (start : Nat) (digits : List Nat) : start ≤ joined start digits := by
  induction digits generalizing start with
  | nil => exact Nat.le_refl start
  | cons d digits ih =>
    have further := ih (start * 10 + d)
    change start ≤ joined (start * 10 + d) digits
    omega

theorem gatherJoined {bound start : Nat} {digits : List Nat} (fits : joined start digits < bound) :
    Numeral.gather bound start digits = (joined start digits, []) := by
  induction digits generalizing start with
  | nil => rfl
  | cons d digits ih =>
    have fits : joined (start * 10 + d) digits < bound := fits
    have small := Nat.lt_of_le_of_lt (joinedGrows _ digits) fits
    rw [Numeral.gather, if_pos small, ih fits]
    rfl

def digitOctet (d : Nat) : UInt8 := UInt8.ofNat (48 + d)

theorem digitSpelled : ∀ d < 10, String.utf8EncodeChar (Nat.digitChar d) = [digitOctet d] := by
  decide

theorem digitRead : ∀ d < 10, isDigit (digitOctet d) = true ∧ (digitOctet d).toNat - 48 = d := by
  decide

theorem digitLexed : ∀ d < 10, punctuation? (digitOctet d) = none ∧ digitOctet d ≠ 0x22 ∧
    digitOctet d ≠ 0x2B ∧ digitOctet d ≠ 0x2D ∧ isBlank (digitOctet d) = false := by
  decide

theorem utf8Decimal (n : Nat) : utf8 (toString n) = (decimal n).map digitOctet := by
  have spelled {digits : List Nat} (below : ∀ d ∈ digits, d < 10) :
      (digits.map Nat.digitChar).flatMap String.utf8EncodeChar = digits.map digitOctet := by
    induction digits with
    | nil => rfl
    | cons d digits ih =>
      obtain ⟨small, below⟩ := List.forall_mem_cons.mp below
      rw [List.map_cons, List.flatMap_cons, digitSpelled d small, ih below]
      rfl
  change utf8 (String.ofList (Nat.toDigits 10 n)) = _
  rw [Text.utf8OfList, decimalDigits, spelled (decimalBelow n)]

namespace Numeral

inductive Digits : Bytes → List Nat → Bytes → Prop
  | last {d : Nat} (rest : Bytes) (small : d < 10) : Digits (digitOctet d :: rest) [d] rest
  | more {d : Nat} {text rest : Bytes} {digits : List Nat} (small : d < 10)
      (later : Digits text digits rest) : Digits (digitOctet d :: text) (d :: digits) rest

inductive Whole : Bytes → List Nat → Bytes → Prop
  | zero (rest : Bytes) : Whole (digitOctet 0 :: rest) [0] rest
  | digits {text rest : Bytes} {digits : List Nat} (run : Digits text digits rest)
      (leading : digits.head? ≠ some 0) : Whole text digits rest

inductive Fraction : Bytes → List Nat → Bytes → Prop
  | absent (rest : Bytes) : Fraction rest [] rest
  | digits {text rest : Bytes} {digits : List Nat} (run : Digits text digits rest) :
      Fraction (0x2E :: text) digits rest

inductive Sign : Bytes → Bool → Bytes → Prop
  | absent (rest : Bytes) : Sign rest true rest
  | plus (rest : Bytes) : Sign (0x2B :: rest) true rest
  | minus (rest : Bytes) : Sign (0x2D :: rest) false rest

inductive Exponent : Bytes → Option (Bool × List Nat) → Bytes → Prop
  | absent (rest : Bytes) : Exponent rest none rest
  | marked {mark : UInt8} {text text' rest : Bytes} {up : Bool} {digits : List Nat}
      (letter : mark = 0x65 ∨ mark = 0x45) (sign : Sign text up text')
      (run : Digits text' digits rest) : Exponent (mark :: text) (some (up, digits)) rest

inductive Spelled : Bytes → Numeral → Bytes → Prop
  | unsigned {text text' text'' rest : Bytes} {whole fraction : List Nat}
      {exponent : Option (Bool × List Nat)} (first : Whole text whole text')
      (second : Fraction text' fraction text'') (third : Exponent text'' exponent rest) :
      Spelled text ⟨false, whole, fraction, exponent⟩ rest
  | negative {text text' text'' rest : Bytes} {whole fraction : List Nat}
      {exponent : Option (Bool × List Nat)} (first : Whole text whole text')
      (second : Fraction text' fraction text'') (third : Exponent text'' exponent rest) :
      Spelled (0x2D :: text) ⟨true, whole, fraction, exponent⟩ rest

end Numeral

open Numeral (Digits Whole Fraction Sign Exponent Spelled)

def Follows (rest : Bytes) : Prop :=
  ∀ b ∈ rest.head?, isDigit b = false ∧ b ≠ 0x2E ∧ b ≠ 0x65 ∧ b ≠ 0x45

def Stops (rest : Bytes) : Prop := ∀ b ∈ rest.head?, isDigit b = false

theorem Follows.stops {rest : Bytes} (follows : Follows rest) : Stops rest :=
  fun b next => (follows b next).1

theorem stopsAt {b : UInt8} {rest : Bytes} (other : isDigit b = false) : Stops (b :: rest) := by
  rintro _ ⟨⟩
  exact other

section Runs

variable {text text' rest : Bytes} {digits : List Nat}

theorem digitsRun (run : Digits text digits rest) (stops : Stops rest) :
    digitRun text = (digits, rest) := by
  induction run with
  | @last d rest small =>
    obtain ⟨digit, value⟩ := digitRead d small
    have ended : rest.takeWhile isDigit = [] ∧ rest.dropWhile isDigit = rest := by
      cases rest with
      | nil => exact ⟨rfl, rfl⟩
      | cons b rest =>
        have next := stops b rfl
        exact ⟨List.takeWhile_cons_of_neg (by simp [next]),
          List.dropWhile_cons_of_neg (by simp [next])⟩
    rw [digitRun, List.takeWhile_cons_of_pos digit, List.dropWhile_cons_of_pos digit, ended.1,
      ended.2, List.map_singleton, value]
  | @more d text rest digits small later ih =>
    obtain ⟨digit, value⟩ := digitRead d small
    have behind := ih stops
    simp only [digitRun, Prod.mk.injEq] at behind ⊢
    rw [List.takeWhile_cons_of_pos digit, List.dropWhile_cons_of_pos digit, List.map_cons, value,
      behind.1, behind.2]
    exact ⟨rfl, rfl⟩

theorem someDigitsRun (run : Digits text digits rest) (stops : Stops rest) :
    Numeral.someDigits text = .ok (digits, rest) := by
  rw [Numeral.someDigits, digitsRun run stops]
  cases run <;> rfl

theorem digitsLead (run : Digits text digits rest) :
    ∃ d tail, d < 10 ∧ text = digitOctet d :: tail ∧ rest <:+ tail := by
  induction run with
  | last rest small => exact ⟨_, rest, small, rfl, List.suffix_refl rest⟩
  | more small later ih =>
    obtain ⟨d, tail, -, rfl, suffix⟩ := ih
    exact ⟨_, _, small, rfl, suffix.trans (List.suffix_cons _ _)⟩

theorem Numeral.Whole.run (whole : Whole text digits rest) :
    Digits text digits rest ∧ ¬ (digits.head? = some 0 ∧ 1 < digits.length) := by
  cases whole with
  | zero => exact ⟨.last (d := 0) rest (by decide), by simp⟩
  | digits run leading => exact ⟨run, fun zero => leading zero.1⟩

variable {exponent : Option (Bool × List Nat)} {fraction : List Nat}

theorem letterPlain {mark : UInt8} (letter : mark = 0x65 ∨ mark = 0x45) :
    isDigit mark = false ∧ mark ≠ 0x2E := by
  rcases letter with rfl | rfl <;> exact ⟨rfl, by decide⟩

theorem exponentStops (third : Exponent text exponent rest) (follows : Follows rest) :
    Stops text := by
  cases third with
  | absent => exact follows.stops
  | marked letter sign run => exact stopsAt (letterPlain letter).1

theorem fractionStops (second : Fraction text fraction text') (stops : Stops text') :
    Stops text := by
  cases second with
  | absent => exact stops
  | digits run => exact stopsAt rfl

theorem scanFractionRun (second : Fraction text fraction text')
    (third : Exponent text' exponent rest) (follows : Follows rest) :
    Numeral.scanFraction text = .ok (fraction, text') := by
  have none {b : UInt8} {tail : Bytes} (other : b ≠ 0x2E) :
      Numeral.scanFraction (b :: tail) = .ok ([], b :: tail) := if_neg other
  cases second with
  | digits run => exact someDigitsRun run (exponentStops third follows)
  | absent =>
    cases third with
    | marked letter sign run => exact none (letterPlain letter).2
    | absent =>
      cases text with
      | nil => rfl
      | cons b tail => exact none (follows b rfl).2.1

theorem scanExponentRun (third : Exponent text exponent rest) (follows : Follows rest) :
    Numeral.scanExponent text = .ok (exponent, rest) := by
  cases third with
  | absent =>
    cases text with
    | nil => rfl
    | cons b tail => exact if_neg (not_or.mpr (follows b rfl).2.2)
  | marked letter sign run =>
    have read := someDigitsRun run follows.stops
    cases sign with
    | absent =>
      obtain ⟨d, tail, small, rfl, -⟩ := digitsLead run
      obtain ⟨-, -, plus, minus, -⟩ := digitLexed d small
      simp only [Numeral.scanExponent, if_pos letter, if_neg plus, if_neg minus, read]
      rfl
    | plus =>
      simp only [Numeral.scanExponent, if_pos letter, if_true, read]
      rfl
    | minus =>
      have apart : ¬ (0x2D : UInt8) = 0x2B := by decide
      simp only [Numeral.scanExponent, if_pos letter, if_neg apart, if_true, read]
      rfl

end Runs

section Spelled

variable {text text' text'' rest : Bytes} {whole fraction : List Nat}
  {exponent : Option (Bool × List Nat)} {n : Numeral}

theorem partsScanned (first : Whole text whole text') (second : Fraction text' fraction text'')
    (third : Exponent text'' exponent rest) (follows : Follows rest) :
    Numeral.someDigits text = .ok (whole, text') ∧
      ¬ (whole.head? = some 0 ∧ 1 < whole.length) ∧
      Numeral.scanFraction text' = .ok (fraction, text'') ∧
      Numeral.scanExponent text'' = .ok (exponent, rest) :=
  ⟨someDigitsRun first.run.1 (fractionStops second (exponentStops third follows)), first.run.2,
    scanFractionRun second third follows, scanExponentRun third follows⟩

theorem scanSpelled (spelled : Spelled text n rest) (follows : Follows rest) :
    Numeral.scan text = .ok (n, rest) := by
  cases spelled with
  | unsigned first second third =>
    obtain ⟨whole, single, fraction, exponent⟩ := partsScanned first second third follows
    obtain ⟨d, tail, small, rfl, -⟩ := digitsLead first.run.1
    have unsigned := (digitLexed d small).2.2.2.1
    simp only [Numeral.scan, if_neg unsigned, whole, bind, Except.bind, if_neg single, fraction,
      exponent]
    rfl
  | negative first second third =>
    obtain ⟨whole, single, fraction, exponent⟩ := partsScanned first second third follows
    simp only [Numeral.scan, if_true, whole, bind, Except.bind, if_neg single, fraction, exponent]
    rfl

theorem suffixExponent (third : Exponent text exponent rest) : rest <:+ text := by
  cases third with
  | absent => exact List.suffix_refl _
  | marked letter sign run =>
    obtain ⟨d, tail, -, rfl, suffix⟩ := digitsLead run
    have behind := suffix.trans (List.suffix_cons (digitOctet d) tail)
    cases sign with
    | absent => exact behind.trans (List.suffix_cons _ _)
    | plus => exact behind.trans ((List.suffix_cons _ _).trans (List.suffix_cons _ _))
    | minus => exact behind.trans ((List.suffix_cons _ _).trans (List.suffix_cons _ _))

theorem suffixFraction (second : Fraction text fraction rest) : rest <:+ text := by
  cases second with
  | absent => exact List.suffix_refl _
  | digits run =>
    obtain ⟨d, tail, -, rfl, suffix⟩ := digitsLead run
    exact suffix.trans ((List.suffix_cons _ _).trans (List.suffix_cons _ _))

theorem partsLead (first : Whole text whole text') (second : Fraction text' fraction text'')
    (third : Exponent text'' exponent rest) :
    ∃ d tail, d < 10 ∧ text = digitOctet d :: tail ∧ rest <:+ tail := by
  obtain ⟨d, tail, small, same, suffix⟩ := digitsLead first.run.1
  exact ⟨d, tail, small, same, (suffixExponent third).trans ((suffixFraction second).trans suffix)⟩

theorem spelledLead (spelled : Spelled text n rest) : ∃ b tail, text = b :: tail ∧
    rest <:+ tail ∧ isBlank b = false ∧ punctuation? b = none ∧ b ≠ 0x22 ∧
      (isDigit b || decide (b = 0x2D)) = true := by
  cases spelled with
  | unsigned first second third =>
    obtain ⟨d, tail, small, rfl, suffix⟩ := partsLead first second third
    obtain ⟨mark, quote, -, -, solid⟩ := digitLexed d small
    exact ⟨_, tail, rfl, suffix, solid, mark, quote, by rw [(digitRead d small).1, Bool.true_or]⟩
  | negative first second third =>
    obtain ⟨d, tail, -, rfl, suffix⟩ := partsLead first second third
    exact ⟨_, _, rfl, suffix.trans (List.suffix_cons _ _), rfl, rfl, by decide, rfl⟩

theorem tokensSpelled (spelled : Spelled text n rest) (follows : Follows rest) :
    tokens text = .number n.value (.ok ()) :: tokens rest := by
  have scanned := scanSpelled spelled follows
  obtain ⟨b, tail, rfl, suffix, solid, mark, quote, begins⟩ := spelledLead spelled
  have lexed : lexeme b tail = (.number n.value (.ok ()), some (tail.length - rest.length)) := by
    simp only [lexeme, mark, if_neg quote, begins, if_true, scanned]
  rw [tokensNext solid lexed, ← List.suffix_iff_eq_drop.mp suffix]

theorem tokensWhole {digits : List Nat} (whole : Whole text digits rest) (follows : Follows rest)
    (fits : joined 0 digits < UInt64.size) :
    tokens text = .number (.ok (.integer (joined 0 digits))) (.ok ()) :: tokens rest := by
  rw [tokensSpelled (.unsigned whole (.absent rest) (.absent rest)) follows, Numeral.value,
    gatherJoined fits]
  rfl

end Spelled

theorem digitsPrinted {digits : List Nat} (some : digits ≠ []) (below : ∀ d ∈ digits, d < 10)
    (rest : Bytes) : Digits (digits.map digitOctet ++ rest) digits rest := by
  induction digits with
  | nil => exact absurd rfl some
  | cons d later ih =>
    obtain ⟨small, below⟩ := List.forall_mem_cons.mp below
    cases later with
    | nil => exact .last rest small
    | cons next later => exact .more small (ih nofun below)

theorem wholePrinted (n : Nat) (rest : Bytes) :
    Whole (utf8 (toString n) ++ rest) (decimal n) rest := by
  rw [utf8Decimal]
  rcases Nat.eq_zero_or_pos n with rfl | positive
  · rw [decimalSmall (by decide)]
    exact .zero rest
  · obtain ⟨d, digits, same, apart⟩ := decimalHead positive
    refine .digits (digitsPrinted (by simp [same]) (decimalBelow n) rest) ?_
    rw [same]
    exact fun zero => apart (Option.some.inj zero)

end RootCatalog.Json
