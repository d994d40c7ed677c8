import RootCatalog.Handler
/-! Handlers that follow a script: what each call answers is fixed beforehand, and every call is
written down as a line of text. Masks are not applied. -/
namespace RootCatalog

structure Script where
  plain : Bool := false
  declared : UInt32 := 0
  openFault : Option Stop := none
  beginFault : Option Stop := none
  calls : List (Except Stop FileEntry) := []
  endPanic : Option Panic := none
  closePanic : Option Panic := none
  deriving Repr

namespace Script

def answer {α : Type} (fault : Option Stop) (a : α) (name detail : String) (lines : Array String) :
    Except Stop α × Array String :=
  match fault with
  | some stop => (.error stop, lines.push (name ++ " fault"))
  | none => (.ok a, lines.push (name ++ " " ++ detail))

def release (s : Script) (panic : Option Panic) (name : String) (lines : Array String) :
    Except Panic Unit × Array String :=
  if s.plain then (.ok (), lines)
  else match panic with
    | some p => (.error p, lines.push name)
    | none => (.ok (), lines.push name)

def next (calls : List (Except Stop FileEntry)) (lines : Array String) :
    Except Stop (Option FileEntry) × List (Except Stop FileEntry) × Array String :=
  match calls with
  | [] => (.ok none, [], lines.push "next none")
  | .ok e :: rest => (.ok (some e), rest, lines.push "next entry")
  | .error stop :: rest => (.error stop, rest, lines.push "next fault")

def handler (s : Script) : Handler (Array String) where
  Root := Unit
  Cursor := List (Except Stop FileEntry)
  openRoot blob lines := answer s.openFault () "open" (toString blob.length) lines
  fileCount _ lines := (.ok s.declared, lines)
  beginSearch _ mask lines := answer s.beginFault s.calls "begin" mask lines
  nextMatch calls lines := next calls lines
  endSearch _ lines := s.release s.endPanic "end" lines
  close _ lines := s.release s.closePanic "close" lines

end Script
end RootCatalog
