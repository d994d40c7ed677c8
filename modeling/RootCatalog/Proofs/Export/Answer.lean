import RootCatalog.Export
import RootCatalog.Proofs.Enumeration.Course
/-! The ways to the answer of a call by a host: the arguments, then the configuration, then one pass,
then the array. The rules hold for every handler; a panic in the pass ends as an internal error. Only
a call whose search goes on for ever has no answer. -/
namespace RootCatalog.Export

variable {ω : Type} {h : Handler ω}

inductive Answers (h : Handler ω) (shown : Bool) (a : Arguments) (start : Account ω ResultSet) :
    Except Stop HostArray → Account ω ResultSet → Prop
  | refused {e} (blob : a.blob = .error e) : Answers h shown a start (.error (.error e)) start
  | unsettled {bytes e} (blob : a.blob = .ok bytes) (settings : a.settings = .error e) :
      Answers h shown a start (.error (.error e)) start
  | stopped {bytes config stop b} (blob : a.blob = .ok bytes) (settings : a.settings = .ok config)
      (passes : Enumeration.Passes h ResultSet.destination config shown bytes start
        (.error stop) b) : Answers h shown a start (.error stop) b
  | passed {bytes config b} (blob : a.blob = .ok bytes) (settings : a.settings = .ok config)
      (passes : Enumeration.Passes h ResultSet.destination config shown bytes start (.ok ()) b) :
      Answers h shown a start (b.destination.toHost.mapError .error) b

theorem answersSomehow (finite : h.Finite) (shown : Bool) (a : Arguments)
    (start : Account ω ResultSet) : ∃ r b, Answers h shown a start r b := by
  cases blob : a.blob with
  | error e => exact ⟨_, _, .refused blob⟩
  | ok bytes =>
    cases settings : a.settings with
    | error e => exact ⟨_, _, .unsettled blob settings⟩
    | ok config =>
      obtain ⟨stop | u, b, passes⟩ :=
        Enumeration.passesSomehow finite ResultSet.destination config shown bytes start
      · exact ⟨_, _, .stopped blob settings passes⟩
      · exact ⟨_, _, .passed blob settings passes⟩

theorem Answers.takes {a : Arguments} {log : Log.Pipeline} {start b : Account ω ResultSet}
    {r : Except Stop HostArray} (answers : Answers h (log.enabled .debug) a start r b) :
    (body h a).Takes log start r b := by
  have given {α : Type} {q q' : Except CatalogError α} (same : q = q') :
      (Step.resume (q.mapError .error) : Step ω ResultSet α).Takes log start (q'.mapError .error)
        start := same ▸ Step.takesResume _
  cases answers with
  | refused blob => exact (given blob).stopped
  | unsettled blob settings => exact (given blob).bind (given settings).stopped
  | stopped blob settings passes =>
    exact (given blob).bind ((given settings).bind passes.takes.stopped)
  | passed blob settings passes =>
    have handed : Step.Takes (fun log s => Step.resume (s.destination.toHost.mapError .error)
        log s) log b (b.destination.toHost.mapError .error) b := by
      intro s same
      rw [← same]
      exact Step.takesResume _ s rfl
    exact (given blob).bind ((given settings).bind (passes.takes.bind handed))

def replyTo : Except Stop HostArray → Reply
  | .ok array => ⟨statusOk, some array⟩
  | .error (.error e) => ⟨e.status, none⟩
  | .error (.panic p) => ⟨(CatalogError.internal p.caughtText).status, none⟩

theorem callTakes {a : Arguments} {log : Log.Pipeline} {world : ω} {r : Except Stop HostArray}
    {b : Account ω ResultSet}
    (answers : Answers h (log.enabled .debug) a ⟨world, .empty, .unopened, [], []⟩ r b) :
    (call h a log world).1 = replyTo r ∧ (call h a log world).2.account = b := by
  obtain ⟨s, run, same⟩ := answers.takes ⟨world, .empty, .unopened, #[]⟩ rfl
  rcases r with (e | p) | array <;> simp [call, Step.contained, Step.caught, run, replyTo, same]

theorem callAnswer (finite : h.Finite) (a : Arguments) (log : Log.Pipeline) (world : ω) :
    ∃ r b, Answers h (log.enabled .debug) a ⟨world, .empty, .unopened, [], []⟩ r b ∧
      (call h a log world).1 = replyTo r ∧ (call h a log world).2.account = b := by
  obtain ⟨r, b, answers⟩ :=
    answersSomehow finite (log.enabled .debug) a ⟨world, .empty, .unopened, [], []⟩
  exact ⟨r, b, answers, callTakes answers⟩

end RootCatalog.Export
