import RootCatalog.FileEntry
import RootCatalog.Json.Record
/-! Reading a file entry from a JSON document. All five fields are wanted. -/
namespace RootCatalog.FileEntry

structure Draft where
  name : Option String
  size : Option UInt32
  localeFlags : Option UInt32
  fileDataId : Option UInt32
  contentKey : Option ContentKey
  deriving DecidableEq, Repr

def Draft.blank : Draft := ⟨none, none, none, none, none⟩

def readKey (t : Json.Token) : Except Json.Fault ContentKey := do
  match ContentKey.parse (← t.asString "a string") with
  | .ok key => .ok key
  | .error e => .error (.data e.message)

def want {α : Type} (field : String) : Option α → Except Json.Fault α
  | some a => .ok a
  | none => .error (.data s!"missing field `{field}`")

def Draft.complete (d : Draft) : Except Json.Fault FileEntry := do
  let name ← want "name" d.name
  let size ← want "size" d.size
  let localeFlags ← want "locale_flags" d.localeFlags
  let fileDataId ← want "file_data_id" d.fileDataId
  let contentKey ← want "content_key" d.contentKey
  pure ⟨name, size, localeFlags, fileDataId, contentKey⟩

def fields : List (Json.Field Draft) := [
  ⟨"name", (·.name.isSome), fun t d => do pure { d with name := some (← t.asString "a string") }⟩,
  ⟨"size", (·.size.isSome), fun t d => do pure { d with size := some (← t.asUInt32) }⟩,
  ⟨"locale_flags", (·.localeFlags.isSome),
    fun t d => do pure { d with localeFlags := some (← t.asUInt32) }⟩,
  ⟨"file_data_id", (·.fileDataId.isSome),
    fun t d => do pure { d with fileDataId := some (← t.asUInt32) }⟩,
  ⟨"content_key", (·.contentKey.isSome),
    fun t d => do pure { d with contentKey := some (← readKey t) }⟩]

def form : Json.RecordForm Draft FileEntry where
  title := "struct FileEntry"
  fields := fields
  blank := Draft.blank
  complete := Draft.complete
  short n := some (.data s!"invalid length {n}, expected struct FileEntry with 5 elements")

def ofJson (document : Bytes) : Except Json.Fault FileEntry := form.read document

end RootCatalog.FileEntry
