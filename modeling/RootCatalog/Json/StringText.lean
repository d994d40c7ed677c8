import RootCatalog.Json.Token
import RootCatalog.Text.Utf8
/-! Strings of a JSON document, from behind the opening quote. Reading gives the text; skimming only
finds the end, and lets unpaired surrogates and octets that are not UTF-8 pass. -/
namespace RootCatalog.Json

def shortEscape? (letter : UInt8) : Option UInt8 :=
  if letter = 0x22 ∨ letter = 0x5C ∨ letter = 0x2F then some letter
  else if letter = 0x62 then some 0x08
  else if letter = 0x66 then some 0x0C
  else if letter = 0x6E then some 0x0A
  else if letter = 0x72 then some 0x0D
  else if letter = 0x74 then some 0x09
  else none

def unit? (a b c d : UInt8) : Option Nat := do
  let a ← Text.hexValue? a
  let b ← Text.hexValue? b
  let c ← Text.hexValue? c
  let d ← Text.hexValue? d
  pure (((a * 16 + b) * 16 + c) * 16 + d)

def isLeading (n : Nat) : Bool := 0xD800 ≤ n && n < 0xDC00
def isTrailing (n : Nat) : Bool := 0xDC00 ≤ n && n < 0xE000

def skimString (count : Nat) : Bytes → Except Fault Nat
  | [] => .error .truncated
  | b :: rest =>
    if b = 0x22 then .ok (count + 1)
    else if b < 0x20 then .error .malformed
    else if b ≠ 0x5C then skimString (count + 1) rest
    else match rest with
    | [] => .error .truncated
    | letter :: rest =>
      if letter = 0x75 then
        match rest with
        | a :: b :: c :: d :: rest =>
          if (unit? a b c d).isSome then skimString (count + 6) rest else .error .malformed
        | _ => .error .truncated
      else if (shortEscape? letter).isSome then skimString (count + 2) rest
      else .error .malformed

def closeString (read : Bytes) : Except Fault String :=
  match Text.decode read.reverse with
  | .ok s => .ok s
  | .error _ => .error .malformed

def pushCode (n : Nat) (read : Bytes) : Bytes :=
  (String.utf8EncodeChar (Char.ofNat n)).reverse ++ read

def readString (read : Bytes) : Bytes → Except Fault String
  | [] => .error .truncated
  | b :: rest =>
    if b = 0x22 then closeString read
    else if b < 0x20 then .error .malformed
    else if b ≠ 0x5C then readString (b :: read) rest
    else match rest with
    | [] => .error .truncated
    | letter :: rest =>
      if letter = 0x75 then
        match rest with
        | a :: b :: c :: d :: rest =>
          match unit? a b c d with
          | none => .error .malformed
          | some n =>
            if isTrailing n then .error .malformed
            else if isLeading n then
              match rest with
              | [] => .error .truncated
              | mark :: rest =>
                if mark ≠ 0x5C then .error .malformed
                else match rest with
                | [] => .error .truncated
                | letter :: rest =>
                  if letter ≠ 0x75 then .error .malformed
                  else match rest with
                  | a :: b :: c :: d :: rest =>
                    match unit? a b c d with
                    | none => .error .malformed
                    | some m =>
                      if isTrailing m then
                        readString (pushCode (0x10000 + (n - 0xD800) * 1024 + (m - 0xDC00)) read)
                          rest
                      else .error .malformed
                  | _ => .error .truncated
            else readString (pushCode n read) rest
        | _ => .error .truncated
      else match shortEscape? letter with
        | some octet => readString (octet :: read) rest
        | none => .error .malformed

end RootCatalog.Json
