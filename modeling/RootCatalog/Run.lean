import RootCatalog.Handler
import RootCatalog.Log.Pipeline
import RootCatalog.Phase
/-! Runs. A run holds the handler's world, the destination of the entries, the phase of the call and
a journal of everything that happened; a step is one part of a call, which may stop with an error or
a panic. The journal only records and decides nothing. -/
namespace RootCatalog

inductive Call where
  | openRoot
  | fileCount
  | beginSearch (mask : String)
  | nextMatch
  | endSearch
  | close
  | reserve (count : UInt64)
  | push (e : FileEntry)
  deriving DecidableEq, Repr

inductive Answer where
  | done
  | count (n : UInt32)
  | entry (e : FileEntry)
  | exhausted
  | error (e : CatalogError)
  | panic (p : Panic)
  deriving DecidableEq, Repr

def Answer.ofMatch : Option FileEntry → Answer
  | some e => .entry e
  | none => .exhausted

inductive Note where
  | call (c : Call) (a : Answer)
  | phase (p : Phase)
  | log (d : Log.Delivery)
  deriving DecidableEq, Repr

structure Run (ω δ : Type) where
  world : ω
  destination : δ
  phase : Phase := .unopened
  journal : Array Note := #[]

namespace Run

variable {ω δ : Type}

def note (s : Run ω δ) (n : Note) : Run ω δ := { s with journal := s.journal.push n }

def emit (log : Log.Pipeline) (e : Log.Event) (s : Run ω δ) : Run ω δ :=
  match log.record e with
  | some d => s.note (.log d)
  | none => s

def deliveries (s : Run ω δ) : List Log.Delivery :=
  s.journal.toList.filterMap fun
    | .log d => some d
    | _ => none

def calls (s : Run ω δ) : List (Call × Answer) :=
  s.journal.toList.filterMap fun
    | .call c a => some (c, a)
    | _ => none

@[simp] theorem worldEmit (log : Log.Pipeline) (e : Log.Event) (s : Run ω δ) :
    (s.emit log e).world = s.world := by
  unfold emit; split <;> rfl

@[simp] theorem phaseEmit (log : Log.Pipeline) (e : Log.Event) (s : Run ω δ) :
    (s.emit log e).phase = s.phase := by
  unfold emit; split <;> rfl

end Run

def Step (ω δ α : Type) : Type := Log.Pipeline → Run ω δ → Except Stop α × Run ω δ

namespace Step

variable {ω δ α β : Type}

instance : Monad (Step ω δ) where
  pure a := fun _ s => (.ok a, s)
  bind x f := fun log s =>
    match x log s with
    | (.ok a, s) => f a log s
    | (.error stop, s) => (.error stop, s)

theorem bindApply (x : Step ω δ α) (f : α → Step ω δ β) (log : Log.Pipeline) (s : Run ω δ) :
    (x >>= f) log s = match x log s with
      | (.ok a, s) => f a log s
      | (.error stop, s) => (.error stop, s) := rfl

instance : LawfulMonad (Step ω δ) := by
  refine LawfulMonad.mk' _ ?_ (fun _ _ => rfl) ?_
  · intro α x
    funext log s
    change (x >>= pure) log s = x log s
    rw [bindApply]
    rcases x log s with ⟨stop | a, s⟩ <;> rfl
  · intro α β γ x f g
    funext log s
    simp only [bindApply]
    rcases x log s with ⟨stop | a, s⟩ <;> rfl

def stop (e : Stop) : Step ω δ α := fun _ s => (.error e, s)

def fail (e : CatalogError) : Step ω δ α := stop (.error e)

def phase : Step ω δ Phase := fun _ s => (.ok s.phase, s)

def enabled (l : Log.Level) : Step ω δ Bool := fun log s => (.ok (log.enabled l), s)

def update (f : Run ω δ → Run ω δ) : Step ω δ Unit := fun _ s => (.ok (), f s)

def emit (e : Log.Event) : Step ω δ Unit := fun log s => (.ok (), s.emit log e)

def raise (p : Panic) : Step ω δ α := fun log s => (.error (.panic p), s.emit log p.raisedEvent)

def outcome (x : Step ω δ α) : Step ω δ (Except Stop α) := fun log s =>
  match x log s with
  | (r, s) => (.ok r, s)

def resume : Except Stop α → Step ω δ α
  | .ok a => pure a
  | .error e => stop e

def onError (x : Step ω δ α) (clean : CatalogError → Step ω δ Unit) : Step ω δ α := do
  match ← x.outcome with
  | .error (.error e) => do clean e; fail e
  | r => resume r

def settle (c : Call) (answer : α → Answer) (r : Except Stop α) (w : ω) : Step ω δ α := fun log s =>
  let s := { s with world := w }
  match r with
  | .ok a => (.ok a, s.note (.call c (answer a)))
  | .error (.error e) => (.error (.error e), s.note (.call c (.error e)))
  | .error (.panic p) => raise p log (s.note (.call c (.panic p)))

def ask (c : Call) (answer : α → Answer) (f : ω → Except Stop α × ω) : Step ω δ α := fun log s =>
  match f s.world with
  | (r, w) => settle c answer r w log s

/-- A release of the handler's. While a panic is under way, a second one is not started and the
release counts as done. -/
def letGo (unwinding : Bool) (c : Call) (f : ω → Except Panic Unit × ω) : Step ω δ Unit :=
  fun log s =>
    match f s.world with
    | (.ok (), w) => settle c (fun _ => .done) (.ok ()) w log s
    | (.error p, w) =>
      if unwinding then (.ok (), { s with world := w }.note (.call c (.panic p)))
      else settle c (fun _ => .done) (.error (.panic p)) w log s

def give (c : Call) (f : δ → Except CatalogError Unit × δ) : Step ω δ Unit := fun _ s =>
  match f s.destination with
  | (.ok (), d) => (.ok (), { s with destination := d }.note (.call c .done))
  | (.error e, d) => (.error (.error e), { s with destination := d }.note (.call c (.error e)))

def caught (log : Log.Pipeline) : Except Stop α × Run ω δ → Except CatalogError α × Run ω δ
  | (.ok a, s) => (.ok a, s)
  | (.error (.error e), s) => (.error e, s)
  | (.error (.panic p), s) => (.error (.internal p.caughtText), s.emit log p.caughtEvent)

def contained (x : Step ω δ α) (log : Log.Pipeline) (s : Run ω δ) :
    Except CatalogError α × Run ω δ := caught log (x log s)

end Step
end RootCatalog
