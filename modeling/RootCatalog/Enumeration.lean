import RootCatalog.Config
import RootCatalog.Destination
import RootCatalog.Mask
import RootCatalog.Session
/-! One enumeration: open, search, copy every entry, end, close. The releases come on every way out,
the cursor's before the root's. The count of copied entries is what the destination says, and is
compared with the declared one only when the search leaves nothing out. -/
namespace RootCatalog

structure Enumeration where
  config : Config
  phase : Phase := .unopened
  deriving DecidableEq, Repr

namespace Enumeration

variable {ω δ : Type} (d : Destination δ)

def target : String := "mndx_ffi::enumeration"

def countEvent (level : Log.Level) (message : String) (declared yielded : UInt32) : Log.Event where
  level := level
  target := target
  message := message
  fields := [⟨"declared", toString declared, false⟩, ⟨"yielded", toString yielded, false⟩]

def reserve (count : UInt64) : Step ω δ Unit :=
  (Step.give (.reserve count) (d.reserve count)).onError fun _ => Session.abort

def push (e : FileEntry) : Step ω δ Unit :=
  (Step.give (.push e) (d.push e)).onError fun _ => Session.abort

end Enumeration

/-- Copies what the cursor yields until it ends or a call fails; nothing is known of a search that
goes on for ever. -/
def Handler.copyAll {ω δ : Type} (h : Handler ω) (d : Destination δ) (cursor : h.Cursor)
    (log : Log.Pipeline) (s : Run ω δ) : Except Stop Unit × h.Cursor × Run ω δ :=
  match Session.nextMatch h cursor log s with
  | (.ok none, cursor, s) => (.ok (), cursor, s)
  | (.error stop, cursor, s) => (.error stop, cursor, s)
  | (.ok (some e), cursor', s') =>
    match Enumeration.push d e log s' with
    | (.error stop, s) => (.error stop, cursor', s)
    | (.ok (), s) => h |>.copyAll d cursor' log s
partial_fixpoint

namespace Enumeration

variable {ω δ : Type} (h : Handler ω) (d : Destination δ)

def search (root : h.Root) (mask : String) : Step ω δ Unit := do
  let cursor ← Session.beginSearch h root mask
  fun log s =>
    match h.copyAll d cursor log s with
    | (r, cursor, s) =>
      (do Session.endSearch h (.ofOutcome r) cursor; Step.resume r : Step ω δ Unit) log s

def copiedCount : Step ω δ UInt32 := do
  let n ← fun _ s => (.ok (d.length s.destination), s)
  if n < UInt32.size then pure (UInt32.ofNat n)
  else do
    Session.abort
    Step.fail (.allocation "more than u32::MAX entries")

def checkCount (config : Config) (declared yielded : UInt32) : Step ω δ Unit :=
  if declared = yielded ∨ config.searchMask ≠ Mask.all then pure ()
  else if config.strictEntryCount then do
    Session.abort
    Step.fail (.entryCountMismatch declared yielded)
  else Step.emit (countEvent .warn "root handler count mismatch" declared yielded)

def closing {α : Type} (root : h.Root) (body : Step ω δ α) : Step ω δ α := do
  let r ← body.outcome
  Session.close h (.ofOutcome r) root
  Step.resume r

def pass (config : Config) (blob : Bytes) : Step ω δ Unit := do
  let root ← Session.openRoot h blob
  let (declared, yielded) ← closing h root do
    let declared ← Session.fileCount h root
    reserve d (config.initialCapacity declared)
    search h d root config.searchMask
    let yielded ← copiedCount d
    checkCount config declared yielded
    pure (declared, yielded)
  Step.emit (countEvent .debug "enumeration complete" declared yielded)

def drive (e : Enumeration) (blob : Bytes) (log : Log.Pipeline) (world : ω) (destination : δ) :
    Except Stop Unit × Run ω δ :=
  pass h d e.config blob log ⟨world, destination, e.phase, #[]⟩

end Enumeration
end RootCatalog
