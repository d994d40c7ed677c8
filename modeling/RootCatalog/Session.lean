import RootCatalog.Run
/-! Sessions and searches. A session is an opened root, which is closed once; a search is a cursor of
it, which is ended once. Each part of the protocol moves the phase of the call and logs what it did.
Whether a release comes on every path is up to those who hold the session. -/
namespace RootCatalog

inductive Ending where
  | finished
  | abandoned
  | unwinding
  deriving DecidableEq, Repr

def Ending.ofStop : Stop → Ending
  | .error _ => .abandoned
  | .panic _ => .unwinding

def Ending.ofOutcome {α : Type} : Except Stop α → Ending
  | .ok _ => .finished
  | .error stop => .ofStop stop

namespace Session

variable {ω δ : Type}

def target : String := "mndx_ffi::session"

def event (level : Log.Level) (message : String) (fields : List (String × String)) : Log.Event where
  level := level
  target := target
  message := message
  fields := fields.map fun (name, value) => ⟨name, value, false⟩

def moveTo (p : Phase) : Step ω δ Unit := do
  let current ← Step.phase
  if current.allows p then
    Step.emit (event .trace "enumeration state" [("from", current.name), ("to", p.name)])
    Step.update fun s => { s with phase := p }.note (.phase p)
  else
    Step.fail (.internal s!"illegal enumeration transition {current.name} -> {p.name}")

def abort : Step ω δ Unit := do
  let current ← Step.phase
  if current.isTerminal then pure ()
  else
    Step.emit (event .trace "enumeration failed" [("from", current.name)])
    Step.update fun s => { s with phase := .failed }.note (.phase .failed)

variable (h : Handler ω)

def fileCount (root : h.Root) : Step ω δ UInt32 :=
  Step.ask .fileCount Answer.count fun w =>
    match h.fileCount root w with
    | (.ok n, w) => (.ok n, w)
    | (.error p, w) => (.error (.panic p), w)

def closeRoot (unwinding : Bool) (root : h.Root) : Step ω δ Unit :=
  Step.letGo unwinding .close (h.close root)

def endCursor (unwinding : Bool) (cursor : h.Cursor) : Step ω δ Unit :=
  Step.letGo unwinding .endSearch (h.endSearch cursor)

/-- Opens a root file. A call that may not open a session closes the root again. The record of the
opening shows the declared count, which is asked for only if that record can be seen. -/
def openRoot (blob : Bytes) : Step ω δ h.Root := do
  let root ← (Step.ask .openRoot (fun _ => .done) (h.openRoot blob)).onError fun e => do
    Step.emit (event .debug "root file rejected"
      [("len", toString blob.length), ("error", e.message)])
    abort
  (moveTo .sessionOpen).onError fun _ => closeRoot h false root
  if ← Step.enabled .debug then
    let declared ← fileCount h root
    Step.emit (event .debug "root file opened"
      [("len", toString blob.length), ("declared", toString declared)])
  pure root

def beginSearch (root : h.Root) (mask : String) : Step ω δ h.Cursor := do
  let cursor ← (Step.ask (.beginSearch mask) (fun _ => .done) (h.beginSearch root mask)).onError
    fun _ => abort
  (moveTo .searchActive).onError fun _ => endCursor h false cursor
  Step.emit (event .trace "search started" [("mask", mask)])
  pure cursor

def nextMatch (cursor : h.Cursor) (log : Log.Pipeline) (s : Run ω δ) :
    Except Stop (Option FileEntry) × h.Cursor × Run ω δ :=
  match h.nextMatch cursor s.world with
  | (r, cursor, w) =>
    match (Step.settle .nextMatch Answer.ofMatch r w).onError (fun e => do
        Step.emit (event .debug "search aborted" [("error", e.message)])
        abort) log s with
    | (r, s) => (r, cursor, s)

def endSearch (ending : Ending) (cursor : h.Cursor) : Step ω δ Unit := do
  endCursor h (ending = .unwinding) cursor
  if (← Step.phase) = .searchActive then moveTo .sessionOpen
  Step.emit (event .trace "search ended" [])

def close (ending : Ending) (root : h.Root) : Step ω δ Unit := do
  closeRoot h (ending = .unwinding) root
  if ending = .finished && (← Step.phase).allows .done then
    moveTo .done
    Step.emit (event .trace "root file closed" [])
  else
    abort
    Step.emit (event .trace "root file closed after failure" [])

end Session
end RootCatalog
