import RootCatalog.Json.Record
import RootCatalog.Proofs.Json.Numbers
/-! Values of a document. `Scalar` are those that a field asks for, each of them one token. `Written`
is the grammar of values of any nesting, with blanks wherever two tokens meet; a reader of records
passes over such a value and is then where it was, one value further. Strings in it need only be
skimmed, and numbers need not have a value. -/
namespace RootCatalog.Json

inductive Blanks : Bytes → Bytes → Prop
  | none (rest : Bytes) : Blanks rest rest
  | more {b : UInt8} {text rest : Bytes} (blank : b = 0x20 ∨ b = 0x09 ∨ b = 0x0A ∨ b = 0x0D)
      (later : Blanks text rest) : Blanks (b :: text) rest

/-- What the grammar speaks of: a value, one with blanks around it, one or more of these in an array,
one member of an object, and one or more of these. -/
inductive Part where
  | value
  | item
  | items
  | member
  | members

inductive Written : Part → Bytes → Bytes → Prop
  | null (rest : Bytes) : Written .value (0x6E :: 0x75 :: 0x6C :: 0x6C :: rest) rest
  | true (rest : Bytes) : Written .value (0x74 :: 0x72 :: 0x75 :: 0x65 :: rest) rest
  | false (rest : Bytes) : Written .value (0x66 :: 0x61 :: 0x6C :: 0x73 :: 0x65 :: rest) rest
  | number {text rest : Bytes} {n : Numeral} (spelled : Numeral.Spelled text n rest) :
      Written .value text rest
  | string {text rest : Bytes} (inside : Skimmed text rest) : Written .value (0x22 :: text) rest
  | emptyArray {text rest : Bytes} (blanks : Blanks text (0x5D :: rest)) :
      Written .value (0x5B :: text) rest
  | array {text rest : Bytes} (items : Written .items text (0x5D :: rest)) :
      Written .value (0x5B :: text) rest
  | emptyObject {text rest : Bytes} (blanks : Blanks text (0x7D :: rest)) :
      Written .value (0x7B :: text) rest
  | object {text rest : Bytes} (members : Written .members text (0x7D :: rest)) :
      Written .value (0x7B :: text) rest
  | item {text text' text'' rest : Bytes} (before : Blanks text text')
      (value : Written .value text' text'') (behind : Blanks text'' rest) : Written .item text rest
  | lastItem {text rest : Bytes} (item : Written .item text rest) : Written .items text rest
  | nextItem {text text' rest : Bytes} (item : Written .item text (0x2C :: text'))
      (later : Written .items text' rest) : Written .items text rest
  | member {text key text' text'' rest : Bytes} (before : Blanks text (0x22 :: key))
      (name : Skimmed key text') (behind : Blanks text' (0x3A :: text''))
      (value : Written .item text'' rest) : Written .member text rest
  | lastMember {text rest : Bytes} (member : Written .member text rest) : Written .members text rest
  | nextMember {text text' rest : Bytes} (member : Written .member text (0x2C :: text'))
      (later : Written .members text' rest) : Written .members text rest

theorem blankOctet {b : UInt8} (blank : b = 0x20 ∨ b = 0x09 ∨ b = 0x0A ∨ b = 0x0D) :
    isBlank b = true ∧ isDigit b = false ∧ b ≠ 0x2E ∧ b ≠ 0x65 ∧ b ≠ 0x45 := by
  rcases blank with rfl | rfl | rfl | rfl <;> decide

theorem tokensBlanks {text rest : Bytes} (blanks : Blanks text rest) : tokens text = tokens rest := by
  induction blanks with
  | none rest => rfl
  | more blank later ih => rw [tokens, if_pos (blankOctet blank).1, ih]

theorem Blanks.follows {text rest : Bytes} (blanks : Blanks text rest) (follows : Follows rest) :
    Follows text := by
  cases blanks with
  | none => exact follows
  | more blank later =>
    rintro _ ⟨⟩
    exact (blankOctet blank).2

theorem markFollows {b : UInt8} (mark : b = 0x2C ∨ b = 0x5D ∨ b = 0x7D) (rest : Bytes) :
    Follows (b :: rest) := by
  rintro _ ⟨⟩
  rcases mark with rfl | rfl | rfl <;> decide

theorem tokensMark {b : UInt8} {t : Token} (mark : punctuation? b = some t)
    (solid : isBlank b = false) (rest : Bytes) : tokens (b :: rest) = t :: tokens rest := by
  refine tokensNext (n := 0) solid ?_
  simp only [lexeme, mark]

inductive Scalar where
  | string (s : String)
  | bool (b : Bool)
  | natural (n : Nat)

namespace Scalar

inductive Spelled : Scalar → Bytes → Bytes → Prop
  | string {s : String} {text rest : Bytes} (inside : Chars text s.toList rest) :
      Spelled (.string s) (0x22 :: text) rest
  | true (rest : Bytes) : Spelled (.bool true) (0x74 :: 0x72 :: 0x75 :: 0x65 :: rest) rest
  | false (rest : Bytes) : Spelled (.bool false) (0x66 :: 0x61 :: 0x6C :: 0x73 :: 0x65 :: rest) rest
  | natural {digits : List Nat} {text rest : Bytes} (whole : Numeral.Whole text digits rest) :
      Spelled (.natural (joined 0 digits)) text rest

def token : Scalar → Token
  | string s => .string (.ok s) (.ok ())
  | bool b => .bool b
  | natural n => .number (.ok (.integer n)) (.ok ())

def Fits : Scalar → Prop
  | string _ | bool _ => True
  | natural n => n < UInt64.size

theorem Spelled.lexed {s : Scalar} {text rest : Bytes} (spelled : s.Spelled text rest)
    (follows : Follows rest) (fits : s.Fits) : tokens text = s.token :: tokens rest := by
  cases spelled with
  | string inside => exact tokensChars inside
  | true => exact tokensNext (n := 3) rfl rfl
  | false => exact tokensNext (n := 4) rfl rfl
  | natural whole => exact tokensWhole whole follows fits

def text : Scalar → String
  | string s => stringText s
  | bool b => if b then "true" else "false"
  | natural n => toString n

theorem printed (s : Scalar) (rest : Bytes) : s.Spelled (Text.utf8 s.text ++ rest) rest := by
  cases s with
  | string s =>
    rw [text, utf8StringText]
    exact .string (charsPrinted s.toList rest)
  | bool b => cases b <;> constructor
  | natural n =>
    have spelled := Spelled.natural (wholePrinted n rest)
    rwa [decimalJoined] at spelled

end Scalar

namespace RecordForm

variable {δ α : Type} (form : RecordForm δ α)

def goes (place : Place δ α) (text : Bytes) : Except Fault α := do
  finish (← (tokens text).foldlM form.step place)

variable {form} {place place' : Place δ α} {text rest : Bytes} {t : Token}

theorem goesToken (here : tokens text = t :: tokens rest) (stepped : form.step place t = .ok place') :
    form.goes place text = form.goes place' rest := by
  rw [goes, here, List.foldlM_cons, stepped]
  rfl

theorem goesFault {fault : Fault} (here : tokens text = t :: tokens rest)
    (stepped : form.step place t = .error fault) : form.goes place text = .error fault := by
  rw [goes, here, List.foldlM_cons, stepped]
  rfl

theorem goesBlanks (blanks : Blanks text rest) : form.goes place text = form.goes place rest := by
  rw [goes, tokensBlanks blanks, goes]

end RecordForm

namespace Skim

def Opens (s : Skim) : Prop := s.expect = .value ∨ s.expect = .valueOrClose

def Awaits (s : Skim) : Part → Prop
  | .value | .item => s.Opens
  | .items => s.Opens ∧ ∃ frames, s.frames = .array :: frames
  | .member => s.expect = .key ∨ s.expect = .keyOrClose
  | .members => (s.expect = .key ∨ s.expect = .keyOrClose) ∧ ∃ frames, s.frames = .object :: frames

theorem stepValue {s : Skim} (opens : s.Opens) {t : Token} (other : t ≠ .closeBracket) :
    s.step t = value s.frames t := by
  obtain ⟨expect, frames⟩ := s
  rcases opens with rfl | rfl
  · rfl
  · unfold step
    split <;> simp_all

theorem stepKey {s : Skim} (opens : s.expect = .key ∨ s.expect = .keyOrClose)
    (read : Except Fault String) :
    s.step (.string read (.ok ())) = .ok (some ⟨.colon, s.frames⟩) := by
  obtain ⟨expect, frames⟩ := s
  rcases opens with rfl | rfl
  · rfl
  · rcases frames with _ | ⟨_ | _, frames⟩ <;> rfl

end Skim

namespace RecordForm

variable {δ α : Type} {form : RecordForm δ α} {draft : δ} {s : Skim} {text rest : Bytes}

def passed (draft : δ) (next : Option Skim) : Place δ α :=
  next.elim (.afterMember draft) (.passing draft)

theorem goesPast {t : Token} {next : Option Skim} (here : tokens text = t :: tokens rest)
    (stepped : s.step t = .ok next) :
    form.goes (.passing draft s) text = form.goes (passed draft next) rest := by
  refine goesToken here ?_
  rw [step, pass, stepped]
  cases next <;> rfl

theorem goesScalar {t : Token} (opens : s.Opens) (here : tokens text = t :: tokens rest)
    (whole : Skim.value s.frames t = .ok (Skim.ended s.frames)) :
    form.goes (.passing draft s) text = form.goes (passed draft (Skim.ended s.frames)) rest := by
  refine goesPast here ?_
  rw [s.stepValue opens, whole]
  rintro rfl
  cases whole

theorem goesMark {b : UInt8} {t : Token} {inside : Skim} (mark : punctuation? b = some t)
    (solid : isBlank b = false) (stepped : s.step t = .ok (some inside)) :
    form.goes (.passing draft s) (b :: text) = form.goes (.passing draft inside) text :=
  goesPast (tokensMark mark solid text) stepped

theorem goesWritten {part : Part} (written : Written part text rest) (awaits : s.Awaits part)
    (follows : Follows rest) :
    form.goes (.passing draft s) text = form.goes (passed draft (Skim.ended s.frames)) rest := by
  induction written generalizing s with
  | null rest => exact goesScalar awaits (tokensNext (n := 3) rfl rfl) rfl
  | true rest => exact goesScalar awaits (tokensNext (n := 3) rfl rfl) rfl
  | false rest => exact goesScalar awaits (tokensNext (n := 4) rfl rfl) rfl
  | number spelled => exact goesScalar awaits (tokensSpelled spelled follows) rfl
  | string inside => exact goesScalar awaits (tokensSkimmed inside) rfl
  | emptyArray blanks =>
    rw [goesMark rfl rfl (s.stepValue awaits (by simp)), goesBlanks blanks]
    exact goesPast (tokensMark rfl rfl _) rfl
  | array items ih =>
    rw [goesMark rfl rfl (s.stepValue awaits (by simp)),
      ih ⟨.inr rfl, _, rfl⟩ (markFollows (.inr (.inl rfl)) _)]
    exact goesPast (tokensMark rfl rfl _) rfl
  | emptyObject blanks =>
    rw [goesMark rfl rfl (s.stepValue awaits (by simp)), goesBlanks blanks]
    exact goesPast (tokensMark rfl rfl _) rfl
  | object members ih =>
    rw [goesMark rfl rfl (s.stepValue awaits (by simp)),
      ih ⟨.inr rfl, _, rfl⟩ (markFollows (.inr (.inr rfl)) _)]
    exact goesPast (tokensMark rfl rfl _) rfl
  | item before value behind ih =>
    rw [goesBlanks before, ih awaits (behind.follows follows), goesBlanks behind]
  | lastItem item ih => exact ih awaits.1 follows
  | nextItem item later ih ih' =>
    obtain ⟨opens, frames, array⟩ := awaits
    rw [ih opens (markFollows (.inl rfl) _), array,
      ← ih' (s := ⟨.value, .array :: frames⟩) ⟨.inl rfl, frames, rfl⟩ follows]
    exact goesMark rfl rfl rfl
  | member before name behind value ih =>
    rw [goesBlanks before, goesPast (tokensSkimmed name) (s.stepKey awaits _),
      ← ih (s := ⟨.value, s.frames⟩) (.inl rfl) follows]
    exact (goesBlanks behind).trans (goesMark rfl rfl rfl)
  | lastMember member ih => exact ih awaits.1 follows
  | nextMember member later ih ih' =>
    obtain ⟨opens, frames, object⟩ := awaits
    rw [ih opens (markFollows (.inl rfl) _), object,
      ← ih' (s := ⟨.key, .object :: frames⟩) ⟨.inl rfl, frames, rfl⟩ follows]
    exact goesMark rfl rfl rfl

end RecordForm
end RootCatalog.Json
