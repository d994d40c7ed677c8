import RootCatalog.Proofs.Handler.Conduct
import RootCatalog.Proofs.Run.Account
/-! What each part of the session protocol does to the account of a run. The parts that can end in
several ways have a relation with one rule for each way; a handler's answer is a premise of the rule.
A record of the opening that can be seen makes one call more, before anyone holds the root. -/
namespace RootCatalog

def Stop.refused (e : CatalogError) : Except Panic Unit → Stop
  | .ok () => .error e
  | .error p => .panic p

def Phase.refusal (p q : Phase) : CatalogError :=
  .internal s!"illegal enumeration transition {p.name} -> {q.name}"

namespace Session

variable {ω δ : Type} {log : Log.Pipeline} {a : Account ω δ}

theorem takesMove {p : Phase} (allowed : a.phase.allows p = true) :
    (moveTo p : Step ω δ Unit).Takes log a (.ok ()) (a.entered p) := by
  refine Step.takesPhase.bind ?_
  rw [if_pos allowed]
  refine (Step.takesEmit _).bind ?_
  intro s same
  subst same
  exact ⟨_, rfl, Run.accountEntered s p⟩

theorem takesRefusedMove {p : Phase} (refused : a.phase.allows p = false) :
    (moveTo p : Step ω δ Unit).Takes log a (.error (.error (a.phase.refusal p))) a := by
  refine Step.takesPhase.bind ?_
  rw [if_neg (by simp [refused])]
  exact Step.takesStop _

theorem takesAbort : (abort : Step ω δ Unit).Takes log a (.ok ()) a.aborted := by
  refine Step.takesPhase.bind ?_
  unfold Account.aborted
  by_cases terminal : a.phase.isTerminal = true
  · rw [if_pos terminal, if_pos terminal]
    exact Step.takesPure ()
  · rw [if_neg terminal, if_neg terminal]
    refine (Step.takesEmit _).bind ?_
    intro s same
    subst same
    exact ⟨_, rfl, Run.accountEntered s .failed⟩

variable {h : Handler ω}

theorem takesCount {root : h.Root} {n : UInt32} {w : ω}
    (answer : h.fileCount root a.world = (.ok n, w)) :
    (fileCount h root : Step ω δ UInt32).Takes log a (.ok n) (a.called w .fileCount (.count n)) :=
  Step.takesAsk (by rw [answer])

theorem takesCountPanic {root : h.Root} {p : Panic} {w : ω}
    (answer : h.fileCount root a.world = (.error p, w)) :
    (fileCount h root : Step ω δ UInt32).Takes log a (.error (.panic p))
      (a.called w .fileCount (.panic p)) :=
  Step.takesAsk (by rw [answer])

theorem takesCloseRoot {root : h.Root} {q : Except Panic Unit} {w : ω} (log : Log.Pipeline)
    (ending : Ending) (answer : h.close root a.world = (q, w)) :
    (closeRoot h (ending = .unwinding) root : Step ω δ Unit).Takes log a
      ((ending.felt q).mapError .panic) (a.called w .close (.ofRelease q)) :=
  Step.takesLetGo ending answer

theorem takesEndCursor {cursor : h.Cursor} {q : Except Panic Unit} {w : ω} (log : Log.Pipeline)
    (ending : Ending) (answer : h.endSearch cursor a.world = (q, w)) :
    (endCursor h (ending = .unwinding) cursor : Step ω δ Unit).Takes log a
      ((ending.felt q).mapError .panic) (a.called w .endSearch (.ofRelease q)) :=
  Step.takesLetGo ending answer

theorem feltNothing (ending : Ending) : ending.felt (.ok ()) = .ok () := by
  cases ending <;> rfl

inductive Opens (h : Handler ω) (shown : Bool) (blob : Bytes) (a : Account ω δ) :
    Except Stop h.Root → Account ω δ → Prop
  | rejected {e w} (answer : h.openRoot blob a.world = (.error (.error e), w)) :
      Opens h shown blob a (.error (.error e)) (a.called w .openRoot (.error e)).aborted
  | panicked {p w} (answer : h.openRoot blob a.world = (.error (.panic p), w)) :
      Opens h shown blob a (.error (.panic p)) (a.called w .openRoot (.panic p))
  | late {root w q w'} (answer : h.openRoot blob a.world = (.ok root, w))
      (spent : a.phase.allows .sessionOpen = false) (release : h.close root w = (q, w')) :
      Opens h shown blob a (.error (.refused (a.phase.refusal .sessionOpen) q))
        ((a.called w .openRoot .done).called w' .close (.ofRelease q))
  | unseen {root w} (answer : h.openRoot blob a.world = (.ok root, w))
      (fresh : a.phase.allows .sessionOpen = true) (quiet : shown = false) :
      Opens h shown blob a (.ok root) ((a.called w .openRoot .done).entered .sessionOpen)
  | seen {root w n w'} (answer : h.openRoot blob a.world = (.ok root, w))
      (fresh : a.phase.allows .sessionOpen = true) (loud : shown = true)
      (count : h.fileCount root w = (.ok n, w')) :
      Opens h shown blob a (.ok root)
        (((a.called w .openRoot .done).entered .sessionOpen).called w' .fileCount (.count n))
  | leaked {root w p w'} (answer : h.openRoot blob a.world = (.ok root, w))
      (fresh : a.phase.allows .sessionOpen = true) (loud : shown = true)
      (count : h.fileCount root w = (.error p, w')) :
      Opens h shown blob a (.error (.panic p))
        (((a.called w .openRoot .done).entered .sessionOpen).called w' .fileCount (.panic p))

def Leaks (h : Handler ω) (shown : Bool) (blob : Bytes) (world : ω) : Prop :=
  shown = true ∧ ∃ root w p w', h.openRoot blob world = (.ok root, w) ∧
    h.fileCount root w = (.error p, w')

theorem opensSomehow (h : Handler ω) (shown : Bool) (blob : Bytes) (a : Account ω δ) :
    ∃ r b, Opens h shown blob a r b := by
  rcases answer : h.openRoot blob a.world with ⟨(e | p) | root, w⟩
  · exact ⟨_, _, .rejected answer⟩
  · exact ⟨_, _, .panicked answer⟩
  cases fresh : a.phase.allows .sessionOpen with
  | false =>
    rcases release : h.close root w with ⟨q, w'⟩
    exact ⟨_, _, .late answer fresh release⟩
  | true =>
    cases loud : shown with
    | false => exact ⟨_, _, .unseen answer fresh rfl⟩
    | true =>
      rcases count : h.fileCount root w with ⟨p | n, w'⟩
      · exact ⟨_, _, .leaked answer fresh rfl count⟩
      · exact ⟨_, _, .seen answer fresh rfl count⟩

theorem Opens.takes {blob : Bytes} {r : Except Stop h.Root} {b : Account ω δ}
    (opens : Opens h (log.enabled .debug) blob a r b) :
    (openRoot h blob : Step ω δ h.Root).Takes log a r b := by
  have moved {w : ω} (fresh : a.phase.allows .sessionOpen = true) :
      (moveTo .sessionOpen : Step ω δ Unit).Takes log (a.called w .openRoot .done)
        (.ok ()) ((a.called w .openRoot .done).entered .sessionOpen) := takesMove fresh
  cases opens with
  | rejected answer =>
    refine ((Step.takesAsk answer).onErrorError ?_).stopped
    exact (Step.takesEmit _).bind takesAbort
  | panicked answer => exact (Step.takesAsk answer).onErrorPanic.stopped
  | @late root w q w' answer spent release =>
    refine (Step.takesAsk answer).onErrorOk.bind ?_
    have refused : (moveTo .sessionOpen : Step ω δ Unit).Takes log (a.called w .openRoot .done)
        (.error (.error (a.phase.refusal .sessionOpen))) _ := takesRefusedMove spent
    have closed := takesCloseRoot (a := a.called w .openRoot .done) log .abandoned release
    refine Step.Takes.stopped ?_
    cases q with
    | ok u => exact refused.onErrorError closed
    | error p => exact refused.onErrorStopped closed
  | @unseen root w answer fresh quiet =>
    refine (Step.takesAsk answer).onErrorOk.bind ?_
    refine (moved fresh).onErrorOk.bind ((Step.takesEnabled .debug).bind ?_)
    rw [if_neg (by simp [quiet])]
    exact Step.takesPure root
  | @seen root w n w' answer fresh loud count =>
    refine (Step.takesAsk answer).onErrorOk.bind ?_
    refine (moved fresh).onErrorOk.bind ((Step.takesEnabled .debug).bind ?_)
    rw [if_pos loud]
    exact (takesCount count).bind ((Step.takesEmit _).bind (Step.takesPure root))
  | leaked answer fresh loud count =>
    refine (Step.takesAsk answer).onErrorOk.bind ?_
    refine (moved fresh).onErrorOk.bind ((Step.takesEnabled .debug).bind ?_)
    rw [if_pos loud]
    exact (takesCountPanic count).stopped

theorem takesOpen (h : Handler ω) (blob : Bytes) (log : Log.Pipeline) (a : Account ω δ) :
    ∃ r b, Opens h (log.enabled .debug) blob a r b ∧
      (openRoot h blob : Step ω δ h.Root).Takes log a r b := by
  obtain ⟨r, b, opens⟩ := opensSomehow h (log.enabled .debug) blob a
  exact ⟨r, b, opens, opens.takes⟩

inductive Begins (h : Handler ω) (root : h.Root) (mask : String) (a : Account ω δ) :
    Except Stop h.Cursor → Account ω δ → Prop
  | refused {e w} (answer : h.beginSearch root mask a.world = (.error (.error e), w)) :
      Begins h root mask a (.error (.error e)) (a.called w (.beginSearch mask) (.error e)).aborted
  | panicked {p w} (answer : h.beginSearch root mask a.world = (.error (.panic p), w)) :
      Begins h root mask a (.error (.panic p)) (a.called w (.beginSearch mask) (.panic p))
  | late {cursor w q w'} (answer : h.beginSearch root mask a.world = (.ok cursor, w))
      (busy : a.phase.allows .searchActive = false) (release : h.endSearch cursor w = (q, w')) :
      Begins h root mask a (.error (.refused (a.phase.refusal .searchActive) q))
        ((a.called w (.beginSearch mask) .done).called w' .endSearch (.ofRelease q))
  | begun {cursor w} (answer : h.beginSearch root mask a.world = (.ok cursor, w))
      (free : a.phase.allows .searchActive = true) :
      Begins h root mask a (.ok cursor)
        ((a.called w (.beginSearch mask) .done).entered .searchActive)

theorem beginsSomehow (h : Handler ω) (root : h.Root) (mask : String) (a : Account ω δ) :
    ∃ r b, Begins h root mask a r b := by
  rcases answer : h.beginSearch root mask a.world with ⟨(e | p) | cursor, w⟩
  · exact ⟨_, _, .refused answer⟩
  · exact ⟨_, _, .panicked answer⟩
  cases free : a.phase.allows .searchActive with
  | false =>
    rcases release : h.endSearch cursor w with ⟨q, w'⟩
    exact ⟨_, _, .late answer free release⟩
  | true => exact ⟨_, _, .begun answer free⟩

theorem Begins.takes {root : h.Root} {mask : String} {r : Except Stop h.Cursor} {b : Account ω δ}
    (begins : Begins h root mask a r b) :
    (beginSearch h root mask : Step ω δ h.Cursor).Takes log a r b := by
  cases begins with
  | refused answer => exact ((Step.takesAsk answer).onErrorError takesAbort).stopped
  | panicked answer => exact (Step.takesAsk answer).onErrorPanic.stopped
  | @late cursor w q w' answer busy release =>
    refine (Step.takesAsk answer).onErrorOk.bind ?_
    have refused : (moveTo .searchActive : Step ω δ Unit).Takes log
        (a.called w (.beginSearch mask) .done)
        (.error (.error (a.phase.refusal .searchActive))) _ := takesRefusedMove busy
    have ended := takesEndCursor (a := a.called w (.beginSearch mask) .done) log .abandoned release
    refine Step.Takes.stopped ?_
    cases q with
    | ok u => exact refused.onErrorError ended
    | error p => exact refused.onErrorStopped ended
  | @begun cursor w answer free =>
    have moved : (moveTo .searchActive : Step ω δ Unit).Takes log
        (a.called w (.beginSearch mask) .done) (.ok ())
        ((a.called w (.beginSearch mask) .done).entered .searchActive) := takesMove free
    refine (Step.takesAsk answer).onErrorOk.bind ?_
    exact moved.onErrorOk.bind ((Step.takesEmit _).bind (Step.takesPure cursor))

theorem takesBegin (h : Handler ω) (root : h.Root) (mask : String) (log : Log.Pipeline)
    (a : Account ω δ) : ∃ r b, Begins h root mask a r b ∧
      (beginSearch h root mask : Step ω δ h.Cursor).Takes log a r b := by
  obtain ⟨r, b, begins⟩ := beginsSomehow h root mask a
  exact ⟨r, b, begins, begins.takes⟩

theorem takesNext {cursor cursor' : h.Cursor} {r : Except Stop (Option FileEntry)} {w : ω}
    (answer : h.nextMatch cursor a.world = (r, cursor', w)) (s : Run ω δ) (same : s.account = a) :
    ∃ s', nextMatch h cursor log s = (r, cursor', s') ∧
      s'.account = (a.called w .nextMatch (Answer.ofResult Answer.ofMatch r)).judged r := by
  have world : h.nextMatch cursor s.world = (r, cursor', w) := by rw [← answer, ← same]; rfl
  have noted : ((Step.settle .nextMatch Answer.ofMatch r w).onError fun e => do
      Step.emit (event .debug "search aborted" [("error", e.message)])
      abort : Step ω δ (Option FileEntry)).Takes log a r
        ((a.called w .nextMatch (Answer.ofResult Answer.ofMatch r)).judged r) := by
    have settled := Step.takesSettle log a .nextMatch Answer.ofMatch r w
    rcases r with (e | p) | entry
    · refine settled.onErrorError ?_
      exact (Step.takesEmit _).bind takesAbort
    · exact settled.onErrorPanic
    · exact settled.onErrorOk
  obtain ⟨s', step, same'⟩ := noted s same
  refine ⟨s', ?_, same'⟩
  unfold nextMatch
  rw [world]
  simp only [step]

theorem takesEndSearch {cursor : h.Cursor} {q : Except Panic Unit} {w : ω} {ending : Ending}
    (answer : h.endSearch cursor a.world = (q, w)) (still : ending.felt q = .ok ()) :
    (endSearch h ending cursor : Step ω δ Unit).Takes log a (.ok ())
      (a.called w .endSearch (.ofRelease q)).searchLeft := by
  have ended := takesEndCursor log ending answer
  rw [still] at ended
  refine ended.bind (Step.takesPhase.bind ?_)
  unfold Account.searchLeft
  by_cases active : (a.called w .endSearch (.ofRelease q)).phase = .searchActive
  · rw [if_pos active, if_pos active]
    exact (takesMove (by rw [active]; rfl)).bind (Step.takesEmit _)
  · rw [if_neg active, if_neg active]
    exact Step.takesEmit _

theorem takesEndSearchPanic {cursor : h.Cursor} {q : Except Panic Unit} {w : ω} {ending : Ending}
    {p : Panic} (answer : h.endSearch cursor a.world = (q, w))
    (broken : ending.felt q = .error p) :
    (endSearch h ending cursor : Step ω δ Unit).Takes log a (.error (.panic p))
      (a.called w .endSearch (.ofRelease q)) := by
  have ended := takesEndCursor log ending answer
  rw [broken] at ended
  exact ended.stopped

theorem takesClose {root : h.Root} {q : Except Panic Unit} {w : ω} {ending : Ending}
    (answer : h.close root a.world = (q, w)) (still : ending.felt q = .ok ()) :
    (close h ending root : Step ω δ Unit).Takes log a (.ok ())
      ((a.called w .close (.ofRelease q)).sessionLeft ending) := by
  have closed := takesCloseRoot log ending answer
  rw [still] at closed
  refine closed.bind (Step.takesPhase.bind ?_)
  unfold Account.sessionLeft
  by_cases allowed : ending = .finished ∧
      (a.called w .close (.ofRelease q)).phase.allows .done = true
  · rw [if_pos allowed, if_pos (by simpa using allowed)]
    exact (takesMove allowed.2).bind (Step.takesEmit _)
  · rw [if_neg allowed, if_neg (by simpa using allowed)]
    exact takesAbort.bind (Step.takesEmit _)

theorem takesClosePanic {root : h.Root} {q : Except Panic Unit} {w : ω} {ending : Ending}
    {p : Panic} (answer : h.close root a.world = (q, w)) (broken : ending.felt q = .error p) :
    (close h ending root : Step ω δ Unit).Takes log a (.error (.panic p))
      (a.called w .close (.ofRelease q)) := by
  have closed := takesCloseRoot log ending answer
  rw [broken] at closed
  exact closed.stopped

end Session
end RootCatalog
