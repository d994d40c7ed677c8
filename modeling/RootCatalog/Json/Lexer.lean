import RootCatalog.Json.Numeral
import RootCatalog.Json.StringText
/-! The tokens of a document, in order. The list ends with the first token that even skimming
refuses, since nothing behind it is ever looked at. -/
namespace RootCatalog.Json

def isBlank (b : UInt8) : Bool := b = 0x20 || b = 0x09 || b = 0x0A || b = 0x0D

def punctuation? (b : UInt8) : Option Token :=
  if b = 0x7B then some .openBrace
  else if b = 0x7D then some .closeBrace
  else if b = 0x5B then some .openBracket
  else if b = 0x5D then some .closeBracket
  else if b = 0x2C then some .comma
  else if b = 0x3A then some .colon
  else none

def word? (b : UInt8) : Option (Bytes × Token) :=
  if b = 0x6E then some ([0x75, 0x6C, 0x6C], .null)
  else if b = 0x74 then some ([0x72, 0x75, 0x65], .bool true)
  else if b = 0x66 then some ([0x61, 0x6C, 0x73, 0x65], .bool false)
  else none

def spell : Bytes → Bytes → Except Fault Unit
  | [], _ => .ok ()
  | _ :: _, [] => .error .truncated
  | w :: word, b :: rest => if b = w then spell word rest else .error .malformed

/-- One token that begins with `b`, and how many octets of `rest` belong to it. No number says that
nothing behind the token is to be read. -/
def lexeme (b : UInt8) (rest : Bytes) : Token × Option Nat :=
  match punctuation? b with
  | some t => (t, some 0)
  | none =>
    if b = 0x22 then
      match skimString 0 rest with
      | .ok n => (.string (readString [] rest) (.ok ()), some n)
      | .error f => (.string (readString [] rest) (.error f), none)
    else if isDigit b || b = 0x2D then
      match Numeral.scan (b :: rest) with
      | .ok (n, behind) => (.number n.value (.ok ()), some (rest.length - behind.length))
      | .error f => (.number (.error f) (.error .malformed), none)
    else
      match word? b with
      | none => (.broken .malformed, none)
      | some (letters, t) =>
        match spell letters rest with
        | .ok () => (t, some letters.length)
        | .error f => (.broken f, none)

def tokens : Bytes → List Token
  | [] => []
  | b :: rest =>
    if isBlank b then tokens rest
    else match lexeme b rest with
      | (t, some n) => t :: tokens (rest.drop n)
      | (t, none) => [t]
termination_by bytes => bytes.length
decreasing_by
  · simp
  · simp only [List.length_drop, List.length_cons]; omega

end RootCatalog.Json
