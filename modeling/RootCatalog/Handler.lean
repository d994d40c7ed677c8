import RootCatalog.FileEntry
import RootCatalog.Panic
/-! What a parser of root files offers: it opens a file, tells the declared count, and searches
through cursors. Every call may change the handler's world, any of them may panic, and a search need
not end. A call sees nothing but that world, so a handler that uses the call or the enumeration that
is under way is left out. -/
namespace RootCatalog

/-- A handler with state `ω` outside its roots and cursors. A cursor is left as the second component
says even when the call stops. -/
structure Handler (ω : Type) where
  Root : Type
  Cursor : Type
  openRoot : Bytes → ω → Except Stop Root × ω
  fileCount : Root → ω → Except Panic UInt32 × ω
  beginSearch : Root → String → ω → Except Stop Cursor × ω
  nextMatch : Cursor → ω → Except Stop (Option FileEntry) × Cursor × ω
  endSearch : Cursor → ω → Except Panic Unit × ω
  close : Root → ω → Except Panic Unit × ω

end RootCatalog
