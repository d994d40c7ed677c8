import RootCatalog.Proofs.Enumeration.Course
import RootCatalog.Proofs.Run.Unswayed
/-! The events of one enumeration. With a handler that never panics, whose cursors all come to an end,
and whose declared count can be asked for without a trace, no part of a pass is swayed by logging: the part that asks for the count
only to show it leaves nothing behind. The only event above the level of debugging is the report of
a count that differs. The order of the other events is not stated here. -/
namespace RootCatalog

variable {ω δ : Type}

def Step.withCursor {α γ : Type} (part : Log.Pipeline → Run ω δ → Except Stop α × γ × Run ω δ) :
    Step ω δ (Except Stop α × γ) := fun log s =>
  match part log s with
  | (r, cursor, s) => (.ok (r, cursor), s)

open Step (quiet surely tellsPhase tellsPure tellsEmit unswayedEmit unswayedPhase unswayedPure
  unswayedStop unswayedResume withCursor)

namespace Session

variable {a b : Situation ω δ} {told : List Log.Event}

theorem tellsMove {p : Phase} (allowed : a.phase.allows p = true) :
    (moveTo p : Step ω δ Unit).Tells a (.ok ()) { a with phase := p }
      [event .trace "enumeration state" [("from", a.phase.name), ("to", p.name)]] := by
  refine tellsPhase.bind ?_
  rw [if_pos allowed]
  exact (tellsEmit _).bind (Step.tellsEnter p)

theorem unswayedMove (p : Phase) : (moveTo p : Step ω δ Unit).Unswayed quiet := by
  refine unswayedPhase.surelyThen fun current => ?_
  split
  · exact ((unswayedEmit rfl).surelyThen fun _ => Step.unswayedEnter p).quietly
  · exact unswayedStop rfl

theorem unswayedAbort : (abort : Step ω δ Unit).Unswayed surely := by
  refine unswayedPhase.surelyThen fun current => ?_
  split
  · exact unswayedPure ⟨rfl, (), rfl⟩
  · exact (unswayedEmit rfl).surelyThen fun _ => Step.unswayedEnter .failed

variable {h : Handler ω}

theorem tellsCount {root : h.Root} {n : UInt32} {w : ω}
    (count : h.fileCount root a.world = (.ok n, w)) :
    (fileCount h root : Step ω δ UInt32).Tells a (.ok n) { a with world := w } [] :=
  Step.tellsAsk (by rw [count]) nofun

theorem nextTold {cursor c' : h.Cursor} {x : FileEntry}
    (tells : (withCursor (nextMatch h cursor)).Tells a (.ok (.ok (some x), c')) b told) :
    h.nextMatch cursor a.world = (.ok (some x), c', b.world) := by
  obtain ⟨s, run, rfl, -⟩ := tells .bare ⟨a.world, a.destination, a.phase, #[]⟩ rfl
  rcases next : h.nextMatch cursor a.world with ⟨r, c, w⟩
  obtain ⟨s', step, same⟩ : ∃ s', nextMatch h cursor .bare ⟨a.world, a.destination, a.phase, #[]⟩ =
      (r, c, s') ∧ s'.account = _ := takesNext next _ rfl
  rw [withCursor, step] at run
  cases run
  exact congrArg (_, _, ·) (congrArg Account.world same).symm

section Calm

variable (calm : h.NeverPanics)

include calm

theorem unswayedCount (root : h.Root) : (fileCount h root : Step ω δ UInt32).Unswayed quiet := by
  intro a
  rcases count : h.fileCount root a.world with ⟨p | n, w⟩
  · exact absurd count (calm.fileCount root _ p w)
  · exact ⟨_, _, _, tellsCount count, rfl⟩

theorem unswayedCloseRoot (unwinding : Bool) (root : h.Root) :
    (closeRoot h unwinding root : Step ω δ Unit).Unswayed surely :=
  Step.unswayedLetGo unwinding fun w p panicked =>
    calm.close root w p _ (Prod.ext panicked rfl)

theorem unswayedEndCursor (unwinding : Bool) (cursor : h.Cursor) :
    (endCursor h unwinding cursor : Step ω δ Unit).Unswayed surely :=
  Step.unswayedLetGo unwinding fun w p panicked =>
    calm.endSearch cursor w p _ (Prod.ext panicked rfl)

-- A set-up that does not ask for the count could not deliver the event that would show it.
theorem unswayedShown (still : h.CountsStill) (root : h.Root) {shown : UInt32 → Log.Event}
    (minor : ∀ n, (shown n).level = .debug) : (do
      if ← Step.enabled .debug then
        let declared ← fileCount h root
        Step.emit (shown declared)
      pure root : Step ω δ h.Root).Unswayed surely := by
  intro a
  rcases count : h.fileCount root a.world with ⟨p | n, w⟩
  · exact absurd count (calm.fileCount root _ p w)
  have same : w = a.world := by rw [← still root a.world, count]
  subst same
  have seen : (do let declared ← fileCount h root; Step.emit (shown declared); pure root :
      Step ω δ h.Root).Tells a (.ok root) a [shown n] :=
    (tellsCount count).bind ((tellsEmit (shown n)).bind (tellsPure root))
  refine ⟨.ok root, a, [shown n], fun log s same => ?_, ?_, root, rfl⟩
  · cases loud : log.enabled .debug with
    | true =>
      obtain ⟨s', run, after⟩ := seen log s same
      refine ⟨s', ?_, after⟩
      rw [← run, Step.bindApply]
      simp only [Step.enabled, loud, if_true]
    | false =>
      have unseen : log.record (shown n) = none := by simp [Log.Pipeline.record, minor, loud]
      refine ⟨s, ?_, same, by simp [unseen]⟩
      rw [Step.bindApply]
      simp only [Step.enabled, loud, Bool.false_eq_true, if_false]
      rfl
  · simp [Log.Event.isMajor, minor, Log.Level.code]

theorem unswayedOpen (still : h.CountsStill) (blob : Bytes) :
    (openRoot h blob : Step ω δ h.Root).Unswayed quiet := by
  have asked : (Step.ask .openRoot (fun _ => .done) (h.openRoot blob) : Step ω δ h.Root).Unswayed
      quiet := Step.unswayedAsk fun w p panicked => calm.openRoot blob w p _ (Prod.ext panicked rfl)
  refine (asked.onError fun e => ?_).quietThen (fun root => ?_) fun _ => rfl
  · exact ((unswayedEmit rfl).surelyThen fun _ => unswayedAbort).quietly
  refine ((unswayedMove _).onError fun e => ?_).quietThen (fun _ => ?_) fun _ => rfl
  · exact (unswayedCloseRoot calm false root).quietly
  · exact (unswayedShown calm still root fun _ => rfl).quietly

theorem unswayedBegin (root : h.Root) (mask : String) :
    (beginSearch h root mask : Step ω δ h.Cursor).Unswayed quiet := by
  have asked : (Step.ask (.beginSearch mask) (fun _ => .done) (h.beginSearch root mask) :
      Step ω δ h.Cursor).Unswayed quiet :=
    Step.unswayedAsk fun w p panicked => calm.beginSearch root mask w p _ (Prod.ext panicked rfl)
  refine (asked.onError fun e => unswayedAbort.quietly).quietThen (fun cursor => ?_) fun _ => rfl
  refine ((unswayedMove _).onError fun e => ?_).quietThen (fun _ => ?_) fun _ => rfl
  · exact (unswayedEndCursor calm false cursor).quietly
  · exact (unswayedEmit rfl).surelyThen fun _ => unswayedPure rfl

theorem unswayedNext (cursor : h.Cursor) :
    (withCursor (nextMatch h cursor) : Step ω δ _).Unswayed surely := by
  intro a
  rcases answer : h.nextMatch cursor a.world with ⟨r, c', w⟩
  have settled : (Step.settle .nextMatch Answer.ofMatch r w : Step ω δ _).Unswayed quiet :=
    Step.unswayedSettle _ _ w fun p panicked =>
      calm.nextMatch cursor a.world p c' w (by rw [answer, panicked])
  have judged := settled.onError fun e =>
    ((unswayedEmit (e := event .debug "search aborted" [("error", e.message)]) rfl).surelyThen
      fun _ => unswayedAbort).quietly
  obtain ⟨q, b, told, tells, minor⟩ := judged a
  refine ⟨.ok (q, c'), b, told, fun log s same => ?_, minor, _, rfl⟩
  obtain ⟨s', run, after⟩ := tells log s same
  have answer : h.nextMatch cursor s.world = (r, c', w) := by rw [← answer, ← same]; rfl
  refine ⟨s', ?_, after⟩
  rw [withCursor, nextMatch, answer]
  simp only [run]

theorem unswayedEndSearch (ending : Ending) (cursor : h.Cursor) :
    (endSearch h ending cursor : Step ω δ Unit).Unswayed quiet := by
  refine (unswayedEndCursor calm _ cursor).surelyThen fun _ => unswayedPhase.surelyThen fun p => ?_
  split
  · exact (unswayedMove _).quietThen (fun _ => (unswayedEmit rfl).quietly) fun _ => rfl
  · exact (unswayedEmit rfl).quietly

theorem unswayedClose (ending : Ending) (root : h.Root) :
    (close h ending root : Step ω δ Unit).Unswayed surely := by
  refine (unswayedCloseRoot calm _ root).surelyThen fun _ => Step.unswayedReading fun a => ?_
  by_cases allowed : ending = .finished ∧ a.phase.allows .done = true
  · rw [if_pos (by simpa using allowed)]
    exact ⟨_, _, _, (tellsMove allowed.2).bind (tellsEmit _), rfl, (), rfl⟩
  · rw [if_neg (by simpa using allowed)]
    exact (unswayedAbort.surelyThen fun _ => unswayedEmit rfl) a

end Calm
end Session

namespace Enumeration

variable {a b : Situation ω δ} {told : List Log.Event}

section Destination

variable (d : Destination δ)

theorem unswayedReserve (count : UInt64) : (reserve d count : Step ω δ Unit).Unswayed quiet :=
  (Step.unswayedGive _ _).onError fun _ => Session.unswayedAbort.quietly

theorem unswayedPush (x : FileEntry) : (push d x : Step ω δ Unit).Unswayed quiet :=
  (Step.unswayedGive _ _).onError fun _ => Session.unswayedAbort.quietly

theorem worldPushed {x : FileEntry} {u : Unit} (tells : (push d x).Tells a (.ok u) b told) :
    b.world = a.world := by
  obtain ⟨s, run, rfl, -⟩ := tells .bare ⟨a.world, a.destination, a.phase, #[]⟩ rfl
  rcases pushed : d.push x a.destination with ⟨e | v, d'⟩
  · obtain ⟨s', step, -⟩ := takesGiven .bare ⟨a.world, a.destination, a.phase, [], []⟩ (.push x)
      pushed ⟨a.world, a.destination, a.phase, #[]⟩ rfl
    cases run.symm.trans step
  · obtain ⟨s', step, same⟩ := takesGiven .bare ⟨a.world, a.destination, a.phase, [], []⟩ (.push x)
      pushed ⟨a.world, a.destination, a.phase, #[]⟩ rfl
    cases run.symm.trans step
    exact congrArg Account.world same

theorem unswayedLength : Step.Unswayed (fun _ (s : Run ω δ) => (.ok (d.length s.destination), s))
    surely := by
  refine fun a => ⟨.ok (d.length a.destination), a, [], ?_, rfl, _, rfl⟩
  exact Step.tellsSilent fun _ s same => ⟨s, by rw [← same]; rfl, same, rfl⟩

theorem unswayedCopied : (copiedCount d : Step ω δ UInt32).Unswayed quiet := by
  refine (unswayedLength d).surelyThen fun n => ?_
  split
  · exact unswayedPure rfl
  · exact Session.unswayedAbort.surelyThen fun _ => unswayedStop rfl

end Destination

def reported (config : Config) : Option (UInt32 × UInt32) → List Log.Event
  | some (declared, yielded) =>
    if declared = yielded ∨ config.searchMask ≠ Mask.all then []
    else [countEvent .warn "root handler count mismatch" declared yielded]
  | none => []

def reports (config : Config) (r : Except Stop (UInt32 × UInt32)) (major : List Log.Event) : Prop :=
  major = reported config r.toOption

theorem unswayedCheck (config : Config) (declared yielded : UInt32) : (do
      checkCount config declared yielded
      pure (declared, yielded) : Step ω δ _).Unswayed (reports config) := by
  unfold checkCount
  by_cases counted : declared = yielded ∨ config.searchMask ≠ Mask.all
  · rw [if_pos counted]
    exact unswayedPure (if_pos counted).symm
  · rw [if_neg counted]
    split
    · have stops : (do Session.abort; Step.fail (.entryCountMismatch declared yielded) :
          Step ω δ Unit).Unswayed fun r major => major = [] ∧ ∃ e, r = .error e :=
        Session.unswayedAbort.surelyThen fun _ => unswayedStop ⟨rfl, _, rfl⟩
      exact stops.bind (fun _ _ holds => nomatch holds.2) fun _ _ holds => holds.1
    · exact fun a => ⟨_, a, _, (tellsEmit _).bind (tellsPure _), (if_neg counted).symm⟩

def counted (h : Handler ω) (d : Destination δ) (config : Config) (blob : Bytes) :
    Step ω δ (UInt32 × UInt32) := do
  let root ← Session.openRoot h blob
  closing h root do
    let declared ← Session.fileCount h root
    reserve d (config.initialCapacity declared)
    search h d root config.searchMask
    let yielded ← copiedCount d
    checkCount config declared yielded
    pure (declared, yielded)

variable {h : Handler ω} {d : Destination δ}

theorem passCounted (config : Config) (blob : Bytes) :
    (pass h d config blob : Step ω δ Unit) = (do
      let (declared, yielded) ← counted h d config blob
      Step.emit (countEvent .debug "enumeration complete" declared yielded)) := by
  rw [counted, bind_assoc]
  rfl

theorem copyingUnrolled (cursor : h.Cursor) :
    withCursor (h.copyAll d cursor) = (do
      match ← withCursor (Session.nextMatch h cursor) with
      | (.ok none, cursor) => pure (.ok (), cursor)
      | (.error stop, cursor) => pure (.error stop, cursor)
      | (.ok (some x), cursor) =>
        match ← (push d x).outcome with
        | .error stop => pure (.error stop, cursor)
        | .ok () => withCursor (h.copyAll d cursor)) := by
  funext log s
  rw [Step.bindApply]
  rcases next : Session.nextMatch h cursor log s with ⟨stop | none | x, c', s'⟩
  · simp only [withCursor, copyAllStops next, next]
    rfl
  · simp only [withCursor, copyAllEnds next, next]
    rfl
  · rcases pushed : push d x log s' with ⟨stop | u, s''⟩
    · simp only [withCursor, copyAllRefused next pushed, next, Step.bindApply, Step.outcome, pushed]
      rfl
    · simp only [withCursor, copyAllGoesOn next pushed, next, Step.bindApply, Step.outcome, pushed]

variable (calm : h.NeverPanics) (halts : ∀ c w, h.Halts c w)

section Halting

include calm halts

theorem unswayedCopying (cursor : h.Cursor) :
    (withCursor (h.copyAll d cursor)).Unswayed surely := by
  intro a
  refine (halts cursor a.world).onward (motive := fun cursor w => ∀ a : Situation ω δ, a.world = w →
    ∃ r b told, (withCursor (h.copyAll d cursor)).Tells a r b told ∧
      surely r (told.filter (·.isMajor))) ?_ a rfl
  rintro cursor _ ih a rfl
  rw [copyingUnrolled]
  obtain ⟨r, b, told, tells, minor, ⟨q, c'⟩, rfl⟩ := Session.unswayedNext calm cursor a
  rcases q with stop | none | x
  · exact ⟨_, b, _, tells.bind (tellsPure _), by simp [minor], _, rfl⟩
  · exact ⟨_, b, _, tells.bind (tellsPure _), by simp [minor], _, rfl⟩
  obtain ⟨stop | u, b', more, pushed, minor'⟩ := unswayedPush d x b
  · refine ⟨_, b', _, tells.bind (pushed.outcome.bind (tellsPure _)), ?_, _, rfl⟩
    simp [minor, show more.filter (·.isMajor) = [] from minor']
  · have next : h.nextMatch cursor a.world = (.ok (some x), c', b'.world) := by
      rw [worldPushed d pushed]
      exact Session.nextTold tells
    obtain ⟨r, b'', rest, tells', minor'', v⟩ := ih x c' b'.world next b' rfl
    refine ⟨r, b'', _, tells.bind (pushed.outcome.bind tells'), ?_, v⟩
    simp [minor, show more.filter (·.isMajor) = [] from minor', minor'']

theorem unswayedSearch (root : h.Root) (mask : String) :
    (search h d root mask : Step ω δ Unit).Unswayed quiet := by
  have ends (cursor : h.Cursor) : (do
      let (r, cursor) ← withCursor (h.copyAll d cursor)
      Session.endSearch h (.ofOutcome r) cursor
      Step.resume r : Step ω δ Unit).Unswayed quiet :=
    (unswayedCopying calm halts cursor).surelyThen fun (r, c') =>
      (Session.unswayedEndSearch calm _ c').quietThen (fun _ => unswayedResume rfl) fun _ => rfl
  exact (Session.unswayedBegin calm root mask).quietThen (fun cursor => ends cursor) fun _ => rfl

end Halting

include calm

theorem unswayedClosing {α : Type} {root : h.Root} {body : Step ω δ α}
    {post : Except Stop α → List Log.Event → Prop} (told : body.Unswayed post) :
    (closing h root body).Unswayed post := by
  refine told.outcome.bind (fun r major holds => ?_) fun e major holds => ?_
  · obtain ⟨q, same, holds⟩ := holds
    cases same
    refine (Session.unswayedClose calm _ root).surelyThen fun _ => unswayedResume ?_
    rwa [List.append_nil]
  · obtain ⟨q, same, -⟩ := holds
    cases same

include halts

theorem unswayedCounted (still : h.CountsStill) (config : Config) (blob : Bytes) :
    (counted h d config blob : Step ω δ _).Unswayed (reports config) := by
  refine (Session.unswayedOpen calm still blob).quietThen (fun root => ?_) fun _ => rfl
  refine unswayedClosing calm ?_
  refine (Session.unswayedCount calm root).quietThen (fun declared => ?_) fun _ => rfl
  refine (unswayedReserve d _).quietThen (fun _ => ?_) fun _ => rfl
  refine (unswayedSearch calm halts root _).quietThen (fun _ => ?_) fun _ => rfl
  refine (unswayedCopied d).quietThen (fun yielded => ?_) fun _ => rfl
  exact unswayedCheck config declared yielded

theorem tellsPass (still : h.CountsStill) (config : Config) (blob : Bytes) (a : Situation ω δ) :
    ∃ r b told, (pass h d config blob).Tells a r b told ∧ told.filter (·.isMajor) =
      reported config (counted h d config blob .bare
        ⟨a.world, a.destination, a.phase, #[]⟩).1.toOption := by
  obtain ⟨q, b, told, tells, major⟩ := unswayedCounted calm halts still config blob a
  obtain ⟨s, run, -⟩ := tells .bare ⟨a.world, a.destination, a.phase, #[]⟩ rfl
  rw [passCounted, run]
  cases q with
  | error stop => exact ⟨_, b, told, tells.stopped, major⟩
  | ok counts =>
    refine ⟨_, b, _, tells.bind (tellsEmit _), ?_⟩
    rw [List.filter_append]
    exact (List.append_nil _).trans major

end Enumeration
end RootCatalog
