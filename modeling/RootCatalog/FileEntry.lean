import RootCatalog.ContentKey
/-! One member of an archive as a root file lists it. -/
namespace RootCatalog

structure FileEntry where
  name : String
  size : UInt32
  localeFlags : UInt32
  fileDataId : UInt32
  contentKey : ContentKey
  deriving DecidableEq, Repr

def FileEntry.json (e : FileEntry) : String :=
  Json.objectText [
    ("name", Json.stringText e.name),
    ("size", toString e.size.toNat),
    ("locale_flags", toString e.localeFlags.toNat),
    ("file_data_id", toString e.fileDataId.toNat),
    ("content_key", e.contentKey.json)]

end RootCatalog
