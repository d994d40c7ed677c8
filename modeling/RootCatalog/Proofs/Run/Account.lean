import RootCatalog.Session
import Mathlib.Tactic.Simps.Basic
/-! Accounts of runs. An account is what the parties to a run can tell of it: the world, the
destination, the phase, the calls and the moves of phase, each in their order. Log records are left
out, so a step that only logs leaves the account alone. How calls and moves lie between each other
is not kept. -/
namespace RootCatalog

structure Account (ω δ : Type) where
  world : ω
  destination : δ
  phase : Phase
  calls : List (Call × Answer) := []
  phases : List Phase := []

def Run.phases {ω δ : Type} (s : Run ω δ) : List Phase :=
  s.journal.toList.filterMap fun
    | .phase p => some p
    | _ => none

def Run.account {ω δ : Type} (s : Run ω δ) : Account ω δ :=
  ⟨s.world, s.destination, s.phase, s.calls, s.phases⟩

def Answer.ofResult {α : Type} (answer : α → Answer) : Except Stop α → Answer
  | .ok a => answer a
  | .error (.error e) => .error e
  | .error (.panic p) => .panic p

def Answer.ofRelease : Except Panic Unit → Answer
  | .ok () => .done
  | .error p => .panic p

def Answer.ofGiven : Except CatalogError Unit → Answer
  | .ok () => .done
  | .error e => .error e

def Ending.felt : Ending → Except Panic Unit → Except Panic Unit
  | .unwinding, _ => .ok ()
  | _, q => q

namespace Account

variable {ω δ α : Type}

@[simps] def called (a : Account ω δ) (w : ω) (c : Call) (r : Answer) : Account ω δ :=
  { a with world := w, calls := a.calls ++ [(c, r)] }

@[simps] def gave (a : Account ω δ) (d : δ) (c : Call) (r : Answer) : Account ω δ :=
  { a with destination := d, calls := a.calls ++ [(c, r)] }

@[simps] def entered (a : Account ω δ) (p : Phase) : Account ω δ :=
  { a with phase := p, phases := a.phases ++ [p] }

def aborted (a : Account ω δ) : Account ω δ :=
  if a.phase.isTerminal then a else a.entered .failed

def judged (a : Account ω δ) : Except Stop α → Account ω δ
  | .error (.error _) => a.aborted
  | _ => a

def searchLeft (a : Account ω δ) : Account ω δ :=
  if a.phase = .searchActive then a.entered .sessionOpen else a

def sessionLeft (ending : Ending) (a : Account ω δ) : Account ω δ :=
  if ending = .finished ∧ a.phase.allows .done = true then a.entered .done else a.aborted

@[simp] theorem destinationAborted (a : Account ω δ) : a.aborted.destination = a.destination := by
  unfold aborted; split <;> rfl

@[simp] theorem callsAborted (a : Account ω δ) : a.aborted.calls = a.calls := by
  unfold aborted; split <;> rfl

@[simp] theorem destinationSearchLeft (a : Account ω δ) :
    a.searchLeft.destination = a.destination := by
  unfold searchLeft; split <;> rfl

@[simp] theorem callsSearchLeft (a : Account ω δ) : a.searchLeft.calls = a.calls := by
  unfold searchLeft; split <;> rfl

@[simp] theorem destinationSessionLeft (ending : Ending) (a : Account ω δ) :
    (a.sessionLeft ending).destination = a.destination := by
  unfold sessionLeft; split <;> simp

@[simp] theorem callsSessionLeft (ending : Ending) (a : Account ω δ) :
    (a.sessionLeft ending).calls = a.calls := by
  unfold sessionLeft; split <;> simp

end Account

namespace Run

variable {ω δ : Type}

@[simp] theorem accountEmit (log : Log.Pipeline) (e : Log.Event) (s : Run ω δ) :
    (s.emit log e).account = s.account := by
  unfold emit
  split
  · simp [account, calls, phases, note]
  · rfl

theorem accountCalled (s : Run ω δ) (w : ω) (c : Call) (r : Answer) :
    ({ s with world := w }.note (.call c r)).account = s.account.called w c r := by
  simp [account, calls, phases, note, Account.called]

theorem accountGave (s : Run ω δ) (d : δ) (c : Call) (r : Answer) :
    ({ s with destination := d }.note (.call c r)).account = s.account.gave d c r := by
  simp [account, calls, phases, note, Account.gave]

theorem accountEntered (s : Run ω δ) (p : Phase) :
    ({ s with phase := p }.note (.phase p)).account = s.account.entered p := by
  simp [account, calls, phases, note, Account.entered]

end Run

namespace Step

variable {ω δ α β : Type} {log : Log.Pipeline} {a b c : Account ω δ}

/-- From every run with account `a` the step comes to outcome `r`, and the account is then `b`. -/
def Takes (x : Step ω δ α) (log : Log.Pipeline) (a : Account ω δ) (r : Except Stop α)
    (b : Account ω δ) : Prop :=
  ∀ s : Run ω δ, s.account = a → ∃ s', x log s = (r, s') ∧ s'.account = b

theorem takesPure (v : α) : (pure v : Step ω δ α).Takes log a (.ok v) a :=
  fun s same => ⟨s, rfl, same⟩

theorem takesStop (e : Stop) : (stop e : Step ω δ α).Takes log a (.error e) a :=
  fun s same => ⟨s, rfl, same⟩

theorem takesResume (r : Except Stop α) : (resume r : Step ω δ α).Takes log a r a := by
  cases r with
  | error e => exact takesStop e
  | ok v => exact takesPure v

theorem takesEmit (e : Log.Event) : (emit e : Step ω δ Unit).Takes log a (.ok ()) a :=
  fun s same => ⟨_, rfl, by rw [Run.accountEmit, same]⟩

theorem takesPhase : (phase : Step ω δ Phase).Takes log a (.ok a.phase) a :=
  fun s same => ⟨s, by rw [← same]; rfl, same⟩

theorem takesEnabled (l : Log.Level) :
    (enabled l : Step ω δ Bool).Takes log a (.ok (log.enabled l)) a :=
  fun s same => ⟨s, rfl, same⟩

theorem Takes.bind {x : Step ω δ α} {f : α → Step ω δ β} {v : α} {r : Except Stop β}
    (first : x.Takes log a (.ok v) b) (second : (f v).Takes log b r c) :
    (x >>= f).Takes log a r c := by
  intro s same
  obtain ⟨s₁, step, same₁⟩ := first s same
  obtain ⟨s₂, step₂, same₂⟩ := second s₁ same₁
  exact ⟨s₂, by rw [bindApply, step]; exact step₂, same₂⟩

theorem Takes.stopped {x : Step ω δ α} {f : α → Step ω δ β} {e : Stop}
    (first : x.Takes log a (.error e) b) : (x >>= f).Takes log a (.error e) b := by
  intro s same
  obtain ⟨s₁, step, same₁⟩ := first s same
  exact ⟨s₁, by rw [bindApply, step], same₁⟩

theorem Takes.outcome {x : Step ω δ α} {r : Except Stop α} (first : x.Takes log a r b) :
    x.outcome.Takes log a (.ok r) b := by
  intro s same
  obtain ⟨s₁, step, same₁⟩ := first s same
  exact ⟨s₁, by rw [Step.outcome, step], same₁⟩

theorem Takes.onErrorOk {x : Step ω δ α} {clean : CatalogError → Step ω δ Unit} {v : α}
    (first : x.Takes log a (.ok v) b) : (x.onError clean).Takes log a (.ok v) b :=
  first.outcome.bind (takesPure v)

theorem Takes.onErrorPanic {x : Step ω δ α} {clean : CatalogError → Step ω δ Unit} {p : Panic}
    (first : x.Takes log a (.error (.panic p)) b) :
    (x.onError clean).Takes log a (.error (.panic p)) b :=
  first.outcome.bind (takesStop (.panic p))

theorem Takes.onErrorError {x : Step ω δ α} {clean : CatalogError → Step ω δ Unit}
    {e : CatalogError} (first : x.Takes log a (.error (.error e)) b)
    (second : (clean e).Takes log b (.ok ()) c) :
    (x.onError clean).Takes log a (.error (.error e)) c :=
  first.outcome.bind (second.bind (takesStop (.error e)))

theorem Takes.onErrorStopped {x : Step ω δ α} {clean : CatalogError → Step ω δ Unit}
    {e : CatalogError} {halt : Stop} (first : x.Takes log a (.error (.error e)) b)
    (second : (clean e).Takes log b (.error halt) c) :
    (x.onError clean).Takes log a (.error halt) c :=
  first.outcome.bind second.stopped

theorem takesSettle (log : Log.Pipeline) (a : Account ω δ) (call : Call) (answer : α → Answer)
    (r : Except Stop α) (w : ω) :
    (settle call answer r w : Step ω δ α).Takes log a r
      (a.called w call (Answer.ofResult answer r)) := by
  intro s same
  subst same
  rcases r with (e | p) | v
  · exact ⟨_, rfl, Run.accountCalled s w call (.error e)⟩
  · refine ⟨_, rfl, ?_⟩
    rw [Run.accountEmit]
    exact Run.accountCalled s w call (.panic p)
  · exact ⟨_, rfl, Run.accountCalled s w call (answer v)⟩

theorem takesAsk {call : Call} {answer : α → Answer} {f : ω → Except Stop α × ω}
    {r : Except Stop α} {w : ω} (answered : f a.world = (r, w)) :
    (ask call answer f : Step ω δ α).Takes log a r
      (a.called w call (Answer.ofResult answer r)) := by
  intro s same
  have world : f s.world = (r, w) := by rw [← answered, ← same]; rfl
  obtain ⟨s', step, same'⟩ := takesSettle log a call answer r w s same
  exact ⟨s', by unfold ask; rw [world]; exact step, same'⟩

theorem takesGive {call : Call} {f : δ → Except CatalogError Unit × δ}
    {q : Except CatalogError Unit} {d : δ} (answered : f a.destination = (q, d)) :
    (give call f : Step ω δ Unit).Takes log a (q.mapError .error)
      (a.gave d call (Answer.ofGiven q)) := by
  intro s same
  subst same
  have kept : f s.destination = (q, d) := answered
  unfold give
  rw [kept]
  cases q with
  | error e => exact ⟨_, rfl, Run.accountGave s d call (.error e)⟩
  | ok u => exact ⟨_, rfl, Run.accountGave s d call .done⟩

theorem takesLetGo {call : Call} {f : ω → Except Panic Unit × ω} {q : Except Panic Unit} {w : ω}
    (ending : Ending) (answered : f a.world = (q, w)) :
    (letGo (ending = .unwinding) call f : Step ω δ Unit).Takes log a
      ((ending.felt q).mapError .panic) (a.called w call (Answer.ofRelease q)) := by
  intro s same
  subst same
  have kept : f s.world = (q, w) := answered
  unfold letGo
  rw [kept]
  cases q with
  | ok u => cases ending <;> exact ⟨_, rfl, Run.accountCalled s w call .done⟩
  | error p =>
    have panicked := Run.accountCalled s w call (.panic p)
    cases ending with
    | unwinding => exact ⟨_, rfl, panicked⟩
    | finished => exact ⟨_, rfl, by rw [Run.accountEmit]; exact panicked⟩
    | abandoned => exact ⟨_, rfl, by rw [Run.accountEmit]; exact panicked⟩

end Step
end RootCatalog
