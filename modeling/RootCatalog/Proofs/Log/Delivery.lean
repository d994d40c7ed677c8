import RootCatalog.Log.Pipeline
/-! What becomes of an event in a pipeline that the host sets up while events come: listeners are
registered or removed, the level is set, and events are raised, in any order. The operations before
an event decide alone whether it is delivered, and to whom. No other subscriber is there. -/
namespace RootCatalog.Log

inductive Operation where
  | initLogging (listener : Option Nat)
  | setLevel (octet : UInt8)
  | raise (e : Event)
  deriving DecidableEq, Repr

def Operation.registered? : Operation → Option (Option Nat)
  | initLogging listener => some listener
  | _ => none

def Operation.level? : Operation → Option Level
  | setLevel octet => some (.ofByte octet)
  | _ => none

def lastRegistered (before : List Operation) : Option (Option Nat) :=
  (before.filterMap Operation.registered?).getLast?

def lastLevel (before : List Operation) : Level :=
  (before.filterMap Operation.level?).getLastD .warn

namespace Pipeline

def perform (p : Pipeline) : Operation → Pipeline × Option Delivery
  | .initLogging listener => (p.initLogging listener, none)
  | .setLevel octet => (p.setLevel octet, none)
  | .raise e => (p, p.record e)

def performAll (p : Pipeline) : List Operation → Pipeline × List (Option Delivery)
  | [] => (p, [])
  | op :: later =>
    let rest := (p.perform op).1.performAll later
    (rest.1, (p.perform op).2 :: rest.2)

theorem performLength (p : Pipeline) (ops : List Operation) :
    (p.performAll ops).2.length = ops.length := by
  induction ops generalizing p with
  | nil => rfl
  | cons op later ih => simp only [performAll, List.length_cons, ih]

def hearing (listener : Nat) (level : Level) : Pipeline := ⟨⟨some listener, level⟩, some level⟩

theorem recordHearing (listener : Nat) (level : Level) (e : Event) :
    (hearing listener level).record e =
      if e.level.reaches level && !e.target.toList.contains '\x00' then
        some ⟨listener, e.level, e.target, e.text⟩
      else none := by
  cases reached : e.level.reaches level <;>
    simp [hearing, record, enabled, Sink.enabled, Sink.record, Sink.emit, reached]

theorem recordDeaf {p : Pipeline} (deaf : p.sink.listener = none) (e : Event) :
    p.record e = none := by
  have shut : p.enabled e.level = false := by
    cases filter : p.filter <;> simp [enabled, Sink.enabled, filter, deaf]
  rw [record, shut, if_neg Bool.false_ne_true]

structure Stands (before : List Operation) (p : Pipeline) : Prop where
  listener : p.sink.listener = (lastRegistered before).join
  threshold : p.sink.threshold = lastLevel before
  filter : p.filter = (lastRegistered before).map fun _ => p.sink.threshold

variable {before : List Operation} {p : Pipeline}

theorem Stands.heard (stands : Stands before p) {listener : Nat}
    (registered : lastRegistered before = some (some listener)) :
    p = hearing listener (lastLevel before) := by
  have here : p.sink.listener = some listener := by rw [stands.listener, registered]; rfl
  have installed : p.filter = some (lastLevel before) := by
    rw [stands.filter, registered, stands.threshold]
    rfl
  have level := stands.threshold
  obtain ⟨⟨l, threshold⟩, filter⟩ := p
  simp only at here installed level
  rw [here, installed, level, hearing]

theorem Stands.recorded (stands : Stands before p) (e : Event) (d : Delivery) :
    p.record e = some d ↔ ∃ listener, lastRegistered before = some (some listener) ∧
      e.level ≠ .off ∧ (lastLevel before).code ≤ e.level.code ∧ '\x00' ∉ e.target.toList ∧
      d = ⟨listener, e.level, e.target, e.text⟩ := by
  rcases registered : lastRegistered before with _ | _ | listener
  · have deaf : p.sink.listener = none := by rw [stands.listener, registered]; rfl
    simp [recordDeaf deaf]
  · have deaf : p.sink.listener = none := by rw [stands.listener, registered]; rfl
    simp [recordDeaf deaf]
  · rw [stands.heard registered, recordHearing, Option.ite_none_right_eq_some]
    constructor
    · intro ⟨passes, same⟩
      simp only [Bool.and_eq_true, Level.reachesIff, Bool.not_eq_true', List.contains_eq_mem,
        decide_eq_false_iff_not] at passes
      exact ⟨listener, rfl, passes.1.1, passes.1.2, passes.2, (Option.some.inj same).symm⟩
    · intro ⟨_, same, record, reached, clean, sent⟩
      cases same
      exact ⟨by simp [Level.reachesIff, record, reached, clean], congrArg some sent.symm⟩

example : (bare.performAll [.setLevel 1, .initLogging none, .raise ⟨.error, "t", "a", []⟩,
    .initLogging (some 7), .raise ⟨.debug, "t", "b", []⟩, .raise ⟨.trace, "t", "c", []⟩]).2 =
    [none, none, none, none, some ⟨7, .debug, "t", "b"⟩, none] := by decide

end Pipeline
end RootCatalog.Log
