import RootCatalog.Log.Event
/-! The way of a log event to the host. A subscriber with a level filter stands before the sink,
which has a level of its own and hands records to the listener registered last. -/
namespace RootCatalog.Log

structure Delivery where
  listener : Nat
  level : Level
  target : String
  text : String
  deriving DecidableEq, Repr

structure Sink where
  listener : Option Nat := none
  threshold : Level := .warn
  deriving DecidableEq, Repr, Inhabited

namespace Sink

def enabled (s : Sink) (l : Level) : Bool := l.reaches s.threshold && s.listener.isSome

def emit (s : Sink) (level : Level) (target text : String) : Option Delivery :=
  match s.listener with
  | none => none
  | some listener =>
    if level.reaches s.threshold && !target.toList.contains '\x00' then
      some ⟨listener, level, target, text⟩
    else none

def record (s : Sink) (e : Event) : Option Delivery :=
  if s.enabled e.level then s.emit e.level e.target e.text else none

end Sink

structure Pipeline where
  sink : Sink := {}
  filter : Option Level := none
  deriving DecidableEq, Repr, Inhabited

namespace Pipeline

def bare : Pipeline := {}

def installed : Pipeline := { filter := some .warn }

/-- Registers a listener or removes it. The first call installs the subscriber, whose filter starts
at the level of the sink; later calls leave the filter alone. -/
def initLogging (p : Pipeline) (listener : Option Nat) : Pipeline where
  sink := { p.sink with listener }
  filter := some (p.filter.getD p.sink.threshold)

def reload (p : Pipeline) (level : Level) : Except String Pipeline :=
  match p.filter with
  | none => .error "reload handle not installed"
  | some _ => .ok { p with filter := some level }

def setLevel (p : Pipeline) (b : UInt8) : Pipeline :=
  let level := Level.ofByte b
  let p := { p with sink := { p.sink with threshold := level } }
  match p.reload level with
  | .ok p => p
  | .error _ => p

def enabled (p : Pipeline) (l : Level) : Bool :=
  match p.filter with
  | none => false
  | some threshold => l.reaches threshold && p.sink.enabled l

def record (p : Pipeline) (e : Event) : Option Delivery :=
  if p.enabled e.level then p.sink.record e else none

end Pipeline
end RootCatalog.Log
