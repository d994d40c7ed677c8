import RootCatalog.Session
/-! Several sessions and searches on one call, each in a numbered slot. A session with a live search
cannot be let go of, and a released slot stays empty. -/
namespace RootCatalog.Session

structure Table {ω : Type} (h : Handler ω) where
  sessions : Array (Option h.Root) := #[]
  searches : Array (Option (Nat × h.Cursor)) := #[]

namespace Table

inductive Action where
  | openRoot
  | abort
  | moveTo (p : Phase)
  | fileCount (session : Nat)
  | beginSearch (session : Nat) (mask : String)
  | nextMatch (search : Nat)
  | endSearch (search : Nat)
  | close (session : Nat) (finished : Bool)
  deriving DecidableEq, Repr

inductive Reply where
  | done
  | session (slot : Nat)
  | search (slot : Nat)
  | counts (first second : UInt32)
  | entry (e : FileEntry)
  | exhausted
  | busy
  | gone
  deriving DecidableEq, Repr

variable {ω : Type} {h : Handler ω}

abbrev Outcome (h : Handler ω) := Except CatalogError Reply × Table h × Run ω Unit

def root? (t : Table h) (i : Nat) : Option h.Root := t.sessions[i]?.join

def cursor? (t : Table h) (j : Nat) : Option (Nat × h.Cursor) := t.searches[j]?.join

def isBusy (t : Table h) (i : Nat) : Bool := t.searches.any fun s => s.any (·.1 = i)

def plainly (t : Table h) (x : Step ω Unit Reply) (log : Log.Pipeline) (s : Run ω Unit) : Outcome h :=
  match x.contained log s with
  | (r, s) => (r, t, s)

def dropSearch (t : Table h) (j : Nat) (cursor : h.Cursor) (log : Log.Pipeline) (s : Run ω Unit) :
    Outcome h :=
  let t := { t with searches := t.searches.set! j none }
  t.plainly (do Session.endSearch h .finished cursor; pure .done) log s

def dropSession (t : Table h) (i : Nat) (ending : Ending) (root : h.Root) (log : Log.Pipeline)
    (s : Run ω Unit) : Outcome h :=
  let t := { t with sessions := t.sessions.set! i none }
  t.plainly (do Session.close h ending root; pure .done) log s

def apply (t : Table h) (blob : Bytes) (a : Action) (log : Log.Pipeline) (s : Run ω Unit) :
    Outcome h :=
  match a with
  | .abort => t.plainly (do Session.abort; pure .done) log s
  | .moveTo p => t.plainly (do Session.moveTo p; pure .done) log s
  | .openRoot =>
    match (Session.openRoot h blob).contained log s with
    | (.ok root, s) =>
      (.ok (.session t.sessions.size), { t with sessions := t.sessions.push (some root) }, s)
    | (.error e, s) => (.error e, t, s)
  | .fileCount i =>
    match t.root? i with
    | none => (.ok .gone, t, s)
    | some root =>
      t.plainly (do
        let first ← Session.fileCount h root
        let second ← Session.fileCount h root
        pure (.counts first second)) log s
  | .beginSearch i mask =>
    match t.root? i with
    | none => (.ok .gone, t, s)
    | some root =>
      match (Session.beginSearch h root mask).contained log s with
      | (.ok cursor, s) =>
        (.ok (.search t.searches.size),
          { t with searches := t.searches.push (some (i, cursor)) }, s)
      | (.error e, s) => (.error e, t, s)
  | .nextMatch j =>
    match t.cursor? j with
    | none => (.ok .gone, t, s)
    | some (i, cursor) =>
      match Session.nextMatch h cursor log s with
      | (r, cursor, s) =>
        let t := { t with searches := t.searches.set! j (some (i, cursor)) }
        match Step.caught log (r, s) with
        | (.ok (some e), s) => (.ok (.entry e), t, s)
        | (.ok none, s) => (.ok .exhausted, t, s)
        | (.error e, s) => (.error e, t, s)
  | .endSearch j =>
    match t.cursor? j with
    | none => (.ok .gone, t, s)
    | some (_, cursor) => t.dropSearch j cursor log s
  | .close i finished =>
    if t.isBusy i then (.ok .busy, t, s)
    else match t.root? i with
      | none => (.ok .gone, t, s)
      | some root => t.dropSession i (if finished then .finished else .abandoned) root log s

def clear (t : Table h) : Step ω Unit Unit := do
  (t.searches.toList.reverse.filterMap id).forM fun (_, cursor) =>
    Session.endSearch h .finished cursor
  (t.sessions.toList.reverse.filterMap id).forM (Session.close h .abandoned)

end Table
end RootCatalog.Session
