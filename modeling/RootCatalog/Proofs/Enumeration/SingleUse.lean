import RootCatalog.Proofs.Enumeration.StrictCount
/-! One enumeration used again and again. The first use ends in a phase that allows no other session,
and each later use is turned away before any search, whatever handler and file it brings and wherever
its entries should have gone. The handlers must not panic; what the first use does on its way is not
told here. -/
namespace RootCatalog

structure Request where
  World : Type
  Place : Type
  handler : Handler World
  destination : Destination Place
  blob : Bytes
  log : Log.Pipeline
  world : World
  start : Place

namespace Request

variable {ω : Type} (h : Handler ω) (blob : Bytes) (log : Log.Pipeline) (world : ω)

def run : Request := ⟨ω, ResultSet, h, ResultSet.destination, blob, log, world, .empty⟩

def collect : Request := ⟨ω, Array FileEntry, h, Destination.entries, blob, log, world, #[]⟩

end Request

namespace Enumeration

def perform (e : Enumeration) (q : Request) : Except Stop Unit × Run q.World q.Place :=
  e.drive q.handler q.destination q.blob q.log q.world q.start

theorem performRun {ω : Type} (e : Enumeration) (h : Handler ω) (blob : Bytes)
    (log : Log.Pipeline) (world : ω) :
    e.perform (.run h blob log world) = e.run h blob log world := rfl

theorem performCollect {ω : Type} (e : Enumeration) (h : Handler ω) (blob : Bytes)
    (log : Log.Pipeline) (world : ω) :
    e.perform (.collect h blob log world) = e.collect h blob log world := rfl

def after (e : Enumeration) (q : Request) : Enumeration :=
  { e with phase := (e.perform q).2.phase }

inductive TurnedAway {ω : Type} (h : Handler ω) (blob : Bytes) (w : ω) (p : Phase) :
    Except Stop Unit → List (Call × Answer) → Prop
  | rejected {e w'} (answer : h.openRoot blob w = (.error (.error e), w')) :
      TurnedAway h blob w p (.error (.error e)) [(.openRoot, .error e)]
  | closed {root w'} (answer : h.openRoot blob w = (.ok root, w')) :
      TurnedAway h blob w p
        (.error (.error (p.refusal .sessionOpen))) [(.openRoot, .done), (.close, .done)]

theorem ended {p : Phase} (terminal : p.isTerminal = true) : p.allows .sessionOpen = false := by
  cases p <;> first | rfl | cases terminal

variable {ω δ : Type} {h : Handler ω} {d : Destination δ} {config : Config} {shown : Bool}
  {blob : Bytes} {a b : Account ω δ}

theorem opensTurned (calm : h.NeverPanics) {r : Except Stop h.Root}
    (opens : Session.Opens h shown blob a r b) (terminal : a.phase.isTerminal = true)
    (silent : a.calls = []) : ∃ t, r = .error t ∧
      TurnedAway h blob a.world a.phase (.error t) b.calls ∧ b.phase = a.phase ∧
      b.destination = a.destination := by
  have spent := ended terminal
  cases opens with
  | @rejected e w answer =>
    have stays : (a.called w .openRoot (.error e)).aborted = a.called w .openRoot (.error e) :=
      if_pos terminal
    rw [stays, Account.called_calls, silent]
    exact ⟨_, rfl, .rejected answer, rfl, rfl⟩
  | panicked answer => exact absurd answer (calm.openRoot _ _ _ _)
  | @late root w q w' answer refused release =>
    cases stillClosed calm release
    rw [Account.called_calls, Account.called_calls, silent]
    exact ⟨_, rfl, .closed answer, rfl, rfl⟩
  | unseen answer fresh => cases fresh.symm.trans spent
  | seen answer fresh => cases fresh.symm.trans spent
  | leaked answer fresh => cases fresh.symm.trans spent

-- The search of a later use need not end: it never begins.
theorem performTurned {e : Enumeration} (terminal : e.phase.isTerminal = true) (q : Request)
    (calm : q.handler.NeverPanics) :
    TurnedAway q.handler q.blob q.world e.phase (e.perform q).1 (e.perform q).2.calls ∧
      (e.perform q).2.phase = e.phase ∧ (e.perform q).2.destination = q.start ∧
      Hands.retrace q.destination q.blob
        (⟨q.world, q.start, [], []⟩ : Hands q.handler q.Place) (e.perform q).2.calls =
        some ⟨(e.perform q).2.world, (e.perform q).2.destination, [], []⟩ := by
  obtain ⟨r, b, opens⟩ := Session.opensSomehow q.handler (q.log.enabled .debug) q.blob
    (⟨q.world, q.start, e.phase, [], []⟩ : Account q.World q.Place)
  obtain ⟨stop, rfl, turned, phase, kept⟩ := opensTurned calm opens terminal rfl
  have passes : Passes q.handler q.destination e.config (q.log.enabled .debug) q.blob
    ⟨q.world, q.start, e.phase, [], []⟩ (.error stop) b := .unopened opens
  obtain ⟨s, run, rfl⟩ := driveTakes passes
  rw [perform, run]
  exact ⟨turned, phase, kept,
    (Hands.Leads.start q.world q.start e.phase).passesCalm calm passes⟩

theorem afterTurned {e : Enumeration} (terminal : e.phase.isTerminal = true) (q : Request)
    (calm : q.handler.NeverPanics) : e.after q = e := by
  rw [after, (performTurned terminal q calm).2.1]

theorem afterAllTurned {e : Enumeration} (terminal : e.phase.isTerminal = true)
    (qs : List Request) (calm : ∀ q ∈ qs, q.handler.NeverPanics) : qs.foldl after e = e := by
  induction qs with
  | nil => rfl
  | cons q qs ih =>
    have same := afterTurned terminal q (calm q List.mem_cons_self)
    rw [List.foldl_cons, same]
    exact ih fun q' later => calm q' (List.mem_cons_of_mem q later)

theorem performFirst {e : Enumeration} (fresh : e.phase = .unopened) (q : Request)
    (calm : q.handler.NeverPanics) (finite : q.handler.Finite) :
    ((e.after q).phase = .done ∧ (e.perform q).1 = .ok ()) ∨
      ((e.after q).phase = .failed ∧ ∃ error, (e.perform q).1 = .error (.error error)) := by
  obtain ⟨r, s, run, passes⟩ :=
    drivePasses finite q.destination e q.blob q.log q.world q.start
  obtain ⟨calls, phases, t, -, rfl, added⟩ := passesDriven calm passes fresh
  rw [after, perform, run]
  have phase : s.phase = leftOff .done t := added.phase
  cases t with
  | ok u => exact .inl ⟨phase, rfl⟩
  | error error => exact .inr ⟨phase, error, rfl⟩

theorem TurnedAway.notOk {w : ω} {p : Phase} {r : Except Stop Unit} {calls : List (Call × Answer)}
    (turned : TurnedAway h blob w p r calls) : r ≠ .ok () := by
  cases turned <;> nofun

theorem TurnedAway.opened {w w' : ω} {p : Phase} {r : Except Stop Unit}
    {calls : List (Call × Answer)} {root : h.Root} (turned : TurnedAway h blob w p r calls)
    (answer : h.openRoot blob w = (.ok root, w')) :
    r = .error (.error (p.refusal .sessionOpen)) ∧
      calls = [(.openRoot, .done), (.close, .done)] := by
  cases turned with
  | rejected other => cases other.symm.trans answer
  | closed => exact ⟨rfl, rfl⟩

theorem TurnedAway.world {w w' w'' v : ω} {p : Phase} {r : Except Stop Unit}
    {calls : List (Call × Answer)} {root : h.Root} {start t : δ}
    (turned : TurnedAway h blob w p r calls) (answer : h.openRoot blob w = (.ok root, w'))
    (release : h.close root w' = (.ok (), w''))
    (retraced : Hands.retrace d blob (⟨w, start, [], []⟩ : Hands h δ) calls =
      some ⟨v, t, [], []⟩) : v = w'' := by
  have opened := (Hands.Leads.start (d := d) w start p).openRoot answer
  have led := opened.close release
  rw [(turned.opened answer).2] at retraced
  exact congrArg Hands.world (Option.some.inj (retraced.symm.trans led))

theorem singleUse (e : Enumeration) (fresh : e.phase = .unopened) (first : Request)
    (between : List Request) (q : Request) (calmFirst : first.handler.NeverPanics)
    (finiteFirst : first.handler.Finite)
    (calmBetween : ∀ q ∈ between, q.handler.NeverPanics) (calm : q.handler.NeverPanics) :
    let once := e.after first
    let outcome := (between.foldl after once).perform q
    ((once.phase = .done ∧ (e.perform first).1 = .ok ()) ∨
      (once.phase = .failed ∧ ∃ error, (e.perform first).1 = .error (.error error))) ∧
    outcome.1 ≠ .ok () ∧
    TurnedAway q.handler q.blob q.world once.phase outcome.1 outcome.2.calls ∧
    outcome.2.phase = once.phase ∧ outcome.2.destination = q.start ∧
    Hands.retrace q.destination q.blob (⟨q.world, q.start, [], []⟩ : Hands q.handler q.Place)
      outcome.2.calls = some ⟨outcome.2.world, outcome.2.destination, [], []⟩ := by
  have ends := performFirst fresh first calmFirst finiteFirst
  have terminal : (e.after first).phase.isTerminal = true := by
    rcases ends with ⟨done, -⟩ | ⟨failed, -⟩
    · rw [done]
      rfl
    · rw [failed]
      rfl
  intro once outcome
  have still : between.foldl after once = once := afterAllTurned terminal between calmBetween
  have same : outcome = once.perform q := congrArg (perform · q) still
  obtain ⟨turned, kept⟩ := performTurned terminal q calm
  rw [same]
  exact ⟨ends, turned.notOk, turned, kept⟩

def prefilledUse : Request :=
  ⟨_, _, RootFile.handler, Destination.entries, onlyFile, .bare, {}, #[onlyEntry]⟩

theorem usedAgain :
    let once := strictly.after (.collect RootFile.handler onlyFile .bare {})
    let outcome := ([prefilledUse].foldl after once).run RootFile.handler onlyFile .bare {}
    (strictly.collect RootFile.handler onlyFile .bare {}).1 = .ok () ∧ once.phase = .done ∧
      outcome.1 = .error (.error
        (.internal "illegal enumeration transition Done -> SessionOpen")) ∧
      outcome.2.calls = [(.openRoot, .done), (.close, .done)] ∧
      outcome.2.world = { opened := 1, closed := 1 } ∧ outcome.2.destination = .empty := by
  intro once
  rw [← performRun, ← performCollect]
  have fine : (strictly.perform (.collect RootFile.handler onlyFile .bare {})).1 = .ok () :=
    (onlyFileCompared Destination.entriesCounting #[] rfl rfl).agreed.mpr rfl
  obtain ⟨ends, -, turned, -, kept, retraced⟩ := singleUse strictly rfl
    (.collect RootFile.handler onlyFile .bare {}) [prefilledUse]
    (.run RootFile.handler onlyFile .bare {}) RootFile.neverPanics RootFile.finite
    (List.forall_mem_singleton.mpr RootFile.neverPanics) RootFile.neverPanics
  have done : once.phase = .done := by
    rcases ends with ⟨done, -⟩ | ⟨-, error, failed⟩
    · exact done
    · cases fine.symm.trans failed
  have read : RootFile.handler.openRoot onlyFile {} = _ := RootFile.openedParsed onlyFileParsed {}
  rw [show (strictly.after _).phase = .done from done] at turned
  dsimp only [Request.run] at turned retraced kept
  obtain ⟨refused, called⟩ := turned.opened read
  have left := turned.world read rfl retraced
  exact ⟨fine, done, refused, called, left, kept⟩

end Enumeration
end RootCatalog
