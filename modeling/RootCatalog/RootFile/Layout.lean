import RootCatalog.FileEntry
import RootCatalog.CatalogError
/-! The reference format of root files, as it is written. Words are little-endian:

    magic, header version, declared count, fault index, record count      4 octets each
    per record: name length (2), name, size (4), locale flags (4), file data id (4), key (16)

The fault index is the record at which a search breaks off; no record has the largest index. -/
namespace RootCatalog

namespace RootFile

def magic : Bytes := [0x4D, 0x46, 0x49, 0x58]

def maxHeaderVersion : Nat := 2

def noFault : UInt32 := 4294967295

def maxNameLength : Nat := 65535

structure Draft where
  headerVersion : UInt32 := 1
  declaredCount : Option UInt32 := none
  faultIndex : UInt32 := noFault
  entries : List FileEntry := []
  deriving DecidableEq, Repr

def word (w : UInt32) : Bytes := Bytes.ofNat 4 w.toNat

def recordTail (e : FileEntry) : Bytes :=
  word e.size ++ word e.localeFlags ++ word e.fileDataId ++ e.contentKey.bytes

def record (e : FileEntry) : Except CatalogError Bytes :=
  let name := Text.utf8 e.name
  let length := name.length
  if length ≤ maxNameLength then .ok (Bytes.ofNat 2 length ++ (name ++ recordTail e))
  else .error (.invalidEntryName s!"{length} byte name exceeds the u16 length prefix")

def Draft.build (d : Draft) : Except CatalogError Bytes := do
  let count := d.entries.length
  if UInt32.size ≤ count then throw (.format "more than u32::MAX records")
  let records ← d.entries.mapM record
  let declared := d.declaredCount.getD (UInt32.ofNat count)
  pure (magic ++ word d.headerVersion ++ word declared ++ word d.faultIndex ++
    Bytes.ofNat 4 count ++ records.flatten)

end RootFile
end RootCatalog
