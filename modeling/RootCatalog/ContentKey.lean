import RootCatalog.Json.Printer
import RootCatalog.Text.Quoted
import RootCatalog.Text.Utf8
/-! Content keys: sixteen octets, written as thirty-two lower-case hexadecimal digits and read from
digits of either case. -/
namespace RootCatalog

structure ContentKey where
  bytes : Bytes
  lengthEq : bytes.length = 16
  deriving DecidableEq, Repr

inductive ContentKey.ParseError where
  | invalidLength (actual : Nat)
  | invalidHex (octet : UInt8) (position : Nat)
  deriving DecidableEq, Repr

namespace ContentKey

def zero : ContentKey := ⟨List.replicate 16 0, rfl⟩

instance : Inhabited ContentKey := ⟨zero⟩

instance : Ord ContentKey := ⟨fun a b => compare a.bytes b.bytes⟩

def text (key : ContentKey) : String := Text.hexText key.bytes

def json (key : ContentKey) : String := Json.stringText key.text

def ParseError.message : ParseError → String
  | .invalidLength actual => s!"content key must be 32 hex characters, got {actual}"
  | .invalidHex octet position =>
    "content key is not valid hex: Invalid character " ++
      Text.quotedChar (Char.ofNat octet.toNat) ++ s!" at position {position}"

def readPairs (pos : Nat) : Bytes → Except ParseError Bytes
  | a :: b :: rest =>
    match Text.hexValue? a with
    | none => .error (.invalidHex a pos)
    | some high =>
      match Text.hexValue? b with
      | none => .error (.invalidHex b (pos + 1))
      | some low => do
        let tail ← readPairs (pos + 2) rest
        pure (UInt8.ofNat (high * 16 + low) :: tail)
  | _ => .ok []

theorem lengthReadPairs {pos : Nat} {text bytes : Bytes} (h : readPairs pos text = .ok bytes) :
    bytes.length = text.length / 2 := by
  fun_induction readPairs pos text generalizing bytes with
  | case1 => cases h
  | case2 => cases h
  | case3 pos a b rest high _ low _ ih =>
    cases ht : readPairs (pos + 2) rest with
    | error e => simp [ht, bind, Except.bind] at h
    | ok tail =>
      simp only [ht, bind, Except.bind, pure, Except.pure, Except.ok.injEq] at h
      subst h
      simp only [List.length_cons, ih ht]
      omega
  | case4 text _ short =>
    cases h
    rcases text with _ | ⟨a, _ | ⟨b, rest⟩⟩
    · rfl
    · simp
    · exact absurd rfl (short a b rest)

def parse (s : String) : Except ParseError ContentKey :=
  let octets := Text.utf8 s
  if hl : octets.length = 32 then
    match h : readPairs 0 octets with
    | .ok bytes => .ok ⟨bytes, by rw [lengthReadPairs h, hl]⟩
    | .error e => .error e
  else .error (.invalidLength octets.length)

end ContentKey
end RootCatalog
