import RootCatalog.RootFile.Layout
/-! Reading a root file. The reader takes the parts in their order and stops at the first that is
cut off or wrong; nothing may be left over. -/
namespace RootCatalog

structure RootFile where
  declaredCount : UInt32
  faultIndex : UInt32
  entries : List FileEntry
  deriving DecidableEq, Repr

namespace RootFile

inductive Part where
  | magic
  | headerVersion
  | declaredCount
  | faultIndex
  | recordCount
  | nameLength
  | name
  | size
  | localeFlags
  | fileDataId
  | contentKey
  deriving DecidableEq, Repr

def Part.label : Part → String
  | magic => "magic"
  | headerVersion => "header version"
  | declaredCount => "declared count"
  | faultIndex => "search fault index"
  | recordCount => "record count"
  | nameLength => "name length"
  | name => "name"
  | size => "size"
  | localeFlags => "locale flags"
  | fileDataId => "file data id"
  | contentKey => "content key"

inductive Fault where
  | truncated (part : Part)
  | badMagic (octets : Bytes)
  | unsupportedVersion (version : Nat)
  | name (fault : Text.Utf8Fault)
  | trailing (count : Nat)
  deriving DecidableEq, Repr

def Fault.text : Fault → String
  | truncated part => "truncated " ++ part.label
  | badMagic octets =>
    "bad magic [" ++ ", ".intercalate (octets.map fun b => String.ofList (Text.hexPair b)) ++ "]"
  | unsupportedVersion version => s!"unsupported header version {version}"
  | name fault => "name is not UTF-8: " ++ fault.message
  | trailing count => s!"{count} trailing bytes"

def take (part : Part) (n : Nat) (bytes : Bytes) : Except Fault (Bytes × Bytes) :=
  match Bytes.cut n bytes with
  | some cut => .ok cut
  | none => .error (.truncated part)

def takeWord (part : Part) (bytes : Bytes) : Except Fault (UInt32 × Bytes) := do
  let (front, rest) ← take part 4 bytes
  pure (UInt32.ofNat (Bytes.toNat front), rest)

def takeName (bytes : Bytes) : Except Fault (String × Bytes) := do
  let (front, rest) ← take .nameLength 2 bytes
  let (octets, rest) ← take .name (Bytes.toNat front) rest
  match Text.decode octets with
  | .ok name => pure (name, rest)
  | .error fault => throw (.name fault)

theorem takeLength {part : Part} {n : Nat} {bytes front rest : Bytes}
    (h : take part n bytes = .ok (front, rest)) : front.length = n := by
  unfold take at h
  rw [Bytes.cutTakes] at h
  by_cases hn : n ≤ bytes.length
  · simp only [hn, if_true, Except.ok.injEq, Prod.mk.injEq] at h
    rw [← h.1, List.length_take]
    omega
  · simp [hn] at h

def takeKey (bytes : Bytes) : Except Fault (ContentKey × Bytes) :=
  match h : take .contentKey 16 bytes with
  | .ok (front, rest) => .ok (⟨front, takeLength h⟩, rest)
  | .error fault => .error fault

def takeRecord (bytes : Bytes) : Except Fault (FileEntry × Bytes) := do
  let (name, rest) ← takeName bytes
  let (size, rest) ← takeWord .size rest
  let (localeFlags, rest) ← takeWord .localeFlags rest
  let (fileDataId, rest) ← takeWord .fileDataId rest
  let (contentKey, rest) ← takeKey rest
  pure (⟨name, size, localeFlags, fileDataId, contentKey⟩, rest)

def takeRecords (read : List FileEntry) : Nat → Bytes → Except Fault (List FileEntry × Bytes)
  | 0, bytes => .ok (read.reverse, bytes)
  | n + 1, bytes =>
    match takeRecord bytes with
    | .ok (e, rest) => takeRecords (e :: read) n rest
    | .error fault => .error fault

def parse (bytes : Bytes) : Except Fault RootFile := do
  let (front, rest) ← take .magic 4 bytes
  if front ≠ magic then throw (.badMagic front)
  let (version, rest) ← takeWord .headerVersion rest
  if maxHeaderVersion < version.toNat then throw (.unsupportedVersion version.toNat)
  let (declaredCount, rest) ← takeWord .declaredCount rest
  let (faultIndex, rest) ← takeWord .faultIndex rest
  let (count, rest) ← takeWord .recordCount rest
  let (entries, rest) ← takeRecords [] count.toNat rest
  if rest = [] then pure ⟨declaredCount, faultIndex, entries⟩
  else throw (.trailing rest.length)

end RootFile
end RootCatalog
