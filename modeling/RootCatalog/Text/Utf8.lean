import RootCatalog.Text.Bytes
/-! UTF-8 as lists of octets. `utf8` writes a text; `decode` reads octets back or says how long the
longest well-formed part is and how the sequence after it fails. `byteOrder` orders texts by their
octets. -/
namespace RootCatalog.Text

def utf8 (s : String) : Bytes := s.toList.flatMap String.utf8EncodeChar

/-- Where a text stops being UTF-8. `length` counts the octets of the sequence at fault that could
still begin a character; it is absent when the input ends inside such a sequence. -/
structure Utf8Fault where
  validUpTo : Nat
  length : Option Nat
  deriving DecidableEq, Repr

def Utf8Fault.message (f : Utf8Fault) : String :=
  match f.length with
  | none => s!"incomplete utf-8 byte sequence from index {f.validUpTo}"
  | some n => s!"invalid utf-8 sequence of {n} bytes from index {f.validUpTo}"

def isContinuation (b : UInt8) : Bool := 0x80 ≤ b && b < 0xC0

def secondAllowed (lead second : UInt8) : Bool :=
  if lead = 0xE0 then 0xA0 ≤ second && second < 0xC0
  else if lead = 0xED then 0x80 ≤ second && second < 0xA0
  else if lead = 0xF0 then 0x90 ≤ second && second < 0xC0
  else if lead = 0xF4 then 0x80 ≤ second && second < 0x90
  else isContinuation second

def decodeFrom (pos : Nat) (read : List Char) : Bytes → Except Utf8Fault (List Char)
  | [] => .ok read.reverse
  | b :: rest =>
    let low (c : UInt8) := c.toNat % 64
    if b < 0x80 then decodeFrom (pos + 1) (Char.ofNat b.toNat :: read) rest
    else if b < 0xC2 || 0xF4 < b then .error ⟨pos, some 1⟩
    else match rest with
    | [] => .error ⟨pos, none⟩
    | c :: rest =>
      if !secondAllowed b c then .error ⟨pos, some 1⟩
      else if b < 0xE0 then
        decodeFrom (pos + 2) (Char.ofNat (b.toNat % 32 * 64 + low c) :: read) rest
      else match rest with
      | [] => .error ⟨pos, none⟩
      | d :: rest =>
        if !isContinuation d then .error ⟨pos, some 2⟩
        else if b < 0xF0 then
          decodeFrom (pos + 3)
            (Char.ofNat ((b.toNat % 16 * 64 + low c) * 64 + low d) :: read) rest
        else match rest with
        | [] => .error ⟨pos, none⟩
        | e :: rest =>
          if !isContinuation e then .error ⟨pos, some 3⟩
          else decodeFrom (pos + 4)
            (Char.ofNat (((b.toNat % 8 * 64 + low c) * 64 + low d) * 64 + low e) :: read) rest

def decode (bytes : Bytes) : Except Utf8Fault String :=
  (decodeFrom 0 [] bytes).map String.ofList

def byteOrder (s t : String) : Ordering := compare (utf8 s) (utf8 t)

end RootCatalog.Text
