import Mathlib.Data.List.Chain
import RootCatalog.Proofs.Enumeration.Retrace
import RootCatalog.Proofs.RootFile.Search
/-! The order of calls in one enumeration, and the phases it goes through, as a grammar: the rules
say what may follow what, and ask nothing of a handler. Queries of the declared count are left out of
the grammar; they may come at any time while a root is open. That the calls were made, and with these
answers, is told by making them over again. The handler must not panic, since a panic in a release
ends the grammar anywhere, and its searches must end. -/
namespace RootCatalog.Enumeration

inductive Copying : List (Call × Answer) → Except CatalogError Unit → Prop
  | exhausted : Copying [(.nextMatch, .exhausted)] (.ok ())
  | aborted (e) : Copying [(.nextMatch, .error e)] (.error e)
  | refused (x e) : Copying [(.nextMatch, .entry x), (.push x, .error e)] (.error e)
  | copied (x) {calls t} (rest : Copying calls t) :
      Copying ((.nextMatch, .entry x) :: (.push x, .done) :: calls) t

inductive Searching (mask : String) :
    List (Call × Answer) → List Phase → Except CatalogError Unit → Prop
  | refused (e) : Searching mask [(.beginSearch mask, .error e)] [.failed] (.error e)
  | broken {calls e} (copying : Copying calls (.error e)) :
      Searching mask ((.beginSearch mask, .done) :: calls ++ [(.endSearch, .done)])
        [.searchActive, .failed] (.error e)
  | ended {calls} (copying : Copying calls (.ok ())) :
      Searching mask ((.beginSearch mask, .done) :: calls ++ [(.endSearch, .done)])
        [.searchActive, .sessionOpen] (.ok ())

inductive Filling (mask : String) :
    List (Call × Answer) → List Phase → Except CatalogError Unit → Prop
  | noRoom (n e) : Filling mask [(.reserve n, .error e)] [.failed] (.error e)
  | unfinished (n) {calls phases e} (searching : Searching mask calls phases (.error e)) :
      Filling mask ((.reserve n, .done) :: calls) phases (.error e)
  -- No call failed here; what was copied is not as many as it should be, or too many.
  | miscounted (n e) {calls phases} (searching : Searching mask calls phases (.ok ())) :
      Filling mask ((.reserve n, .done) :: calls) (phases ++ [.failed]) (.error e)
  | filled (n) {calls phases} (searching : Searching mask calls phases (.ok ())) :
      Filling mask ((.reserve n, .done) :: calls) phases (.ok ())

inductive Driven (mask : String) :
    List (Call × Answer) → List Phase → Except CatalogError Unit → Prop
  | rejected (e) : Driven mask [(.openRoot, .error e)] [.failed] (.error e)
  | failed {calls phases e} (filling : Filling mask calls phases (.error e)) :
      Driven mask ((.openRoot, .done) :: calls ++ [(.close, .done)]) (.sessionOpen :: phases)
        (.error e)
  | finished {calls phases} (filling : Filling mask calls phases (.ok ())) :
      Driven mask ((.openRoot, .done) :: calls ++ [(.close, .done)])
        (.sessionOpen :: phases ++ [.done]) (.ok ())

def yielded (calls : List (Call × Answer)) : List FileEntry :=
  calls.filterMap fun
    | (.nextMatch, .entry x) => some x
    | _ => none

def pushed (calls : List (Call × Answer)) : List FileEntry :=
  calls.filterMap fun
    | (.push x, .done) => some x
    | _ => none

theorem withoutCounts (f : Call × Answer → Option FileEntry) (none : ∀ r, f (.fileCount, r) = none)
    (calls : List (Call × Answer)) :
    (calls.filter (·.1 ≠ .fileCount)).filterMap f = calls.filterMap f := by
  induction calls with
  | nil => rfl
  | cons first rest ih =>
    obtain ⟨call, r⟩ := first
    by_cases counts : call = .fileCount
    · rw [counts, List.filter_cons_of_neg (by simp), ih, List.filterMap_cons_none (none r)]
    · rw [List.filter_cons_of_pos (by simp [counts]), List.filterMap_cons, List.filterMap_cons, ih]

theorem pushedYielded {mask : String} {calls : List (Call × Answer)} {phases : List Phase}
    (driven : Driven mask calls phases (.ok ())) : pushed calls = yielded calls := by
  have copied {calls : List (Call × Answer)} {t : Except CatalogError Unit}
      (copying : Copying calls t) (fine : t = .ok ()) : pushed calls = yielded calls := by
    induction copying with
    | exhausted => rfl
    | aborted e => cases fine
    | refused x e => cases fine
    | copied x rest ih => simpa [pushed, yielded] using ih fine
  cases driven with
  | finished filling =>
    cases filling with
    | filled n searching =>
      cases searching with
      | ended copying => simpa [pushed, yielded] using copied copying rfl

def leftOff (p : Phase) : Except CatalogError Unit → Phase
  | .ok () => p
  | .error _ => .failed

def failure : Except CatalogError Unit → List Phase
  | .ok () => []
  | .error _ => [.failed]

def Path (p : Phase) (phases : List Phase) (q : Phase) : Prop :=
  List.IsChain (fun p q => p.allows q = true) (p :: phases) ∧ (p :: phases).getLast? = some q

theorem pathOnward {p q q' : Phase} {phases : List Phase} (path : Path p phases q)
    (allowed : q.allows q' = true) : Path p (phases ++ [q']) q' := by
  obtain ⟨chain, last⟩ := path
  constructor
  · rw [← List.cons_append, List.isChain_append]
    refine ⟨chain, .singleton q', fun x atEnd y first => ?_⟩
    rw [last] at atEnd
    cases atEnd
    cases first
    exact allowed
  · rw [← List.cons_append, List.getLast?_concat]

theorem searchingPath {mask : String} {calls : List (Call × Answer)} {phases : List Phase}
    {t : Except CatalogError Unit} (searching : Searching mask calls phases t) :
    Path .sessionOpen phases (leftOff .sessionOpen t) := by
  cases searching <;> simp [Path, Phase.allows, leftOff]

theorem fillingPath {mask : String} {calls : List (Call × Answer)} {phases : List Phase}
    {t : Except CatalogError Unit} (filling : Filling mask calls phases t) :
    Path .sessionOpen phases (leftOff .sessionOpen t) := by
  cases filling with
  | noRoom n e => simp [Path, Phase.allows, leftOff]
  | unfinished n searching => exact searchingPath searching
  | miscounted n e searching => exact pathOnward (searchingPath searching) rfl
  | filled n searching => exact searchingPath searching

theorem drivenPath {mask : String} {calls : List (Call × Answer)} {phases : List Phase}
    {t : Except CatalogError Unit} (driven : Driven mask calls phases t) :
    Path .unopened phases (leftOff .done t) := by
  cases driven with
  | rejected e => simp [Path, Phase.allows, leftOff]
  | failed filling =>
    obtain ⟨chain, last⟩ := fillingPath filling
    exact ⟨.cons_cons rfl chain, by rw [List.getLast?_cons_cons, last]; rfl⟩
  | @finished calls phases filling =>
    obtain ⟨chain, last⟩ := fillingPath filling
    have opened : Path .unopened (.sessionOpen :: phases) .sessionOpen :=
      ⟨.cons_cons rfl chain, by rw [List.getLast?_cons_cons, last]; rfl⟩
    exact pathOnward opened rfl

variable {ω δ : Type}

structure Adds (a b : Account ω δ) (calls : List (Call × Answer)) (phases : List Phase)
    (p : Phase) : Prop where
  calls : b.calls.filter (·.1 ≠ .fileCount) = a.calls.filter (·.1 ≠ .fileCount) ++ calls
  phases : b.phases = a.phases ++ phases
  phase : b.phase = p

theorem addsNothing {a : Account ω δ} {p : Phase} (same : a.phase = p) : Adds a a [] [] p where
  calls := by rw [List.append_nil]
  phases := by rw [List.append_nil]
  phase := same

namespace Adds

variable {a b c : Account ω δ} {calls more : List (Call × Answer)} {phases onward : List Phase}
  {p q : Phase}

theorem trans (first : Adds a b calls phases p) (second : Adds b c more onward q) :
    Adds a c (calls ++ more) (phases ++ onward) q where
  calls := by rw [second.calls, first.calls, List.append_assoc]
  phases := by rw [second.phases, first.phases, List.append_assoc]
  phase := second.phase

theorem oneMore (added : Adds a b calls phases p) {call : Call} {r : Answer}
    (listed : call ≠ .fileCount) (more : c.calls = b.calls ++ [(call, r)])
    (same : c.phases = b.phases ∧ c.phase = b.phase) :
    Adds a c (calls ++ [(call, r)]) phases p where
  calls := by
    rw [more, List.filter_append, added.calls, List.append_assoc]
    simp [listed]
  phases := same.1.trans added.phases
  phase := same.2.trans added.phase

theorem call (added : Adds a b calls phases p) (c : Call) (w : ω) (r : Answer)
    (listed : c ≠ .fileCount) : Adds a (b.called w c r) (calls ++ [(c, r)]) phases p :=
  added.oneMore listed (Account.called_calls b w c r) ⟨rfl, rfl⟩

theorem gift (added : Adds a b calls phases p) (c : Call) (d : δ) (r : Answer)
    (listed : c ≠ .fileCount) : Adds a (b.gave d c r) (calls ++ [(c, r)]) phases p :=
  added.oneMore listed (Account.gave_calls b d c r) ⟨rfl, rfl⟩

theorem count (added : Adds a b calls phases p) (w : ω) (r : Answer) :
    Adds a (b.called w .fileCount r) calls phases p where
  calls := by rw [Account.called_calls, List.filter_append, added.calls]; simp
  phases := added.phases
  phase := added.phase

theorem move (added : Adds a b calls phases p) (q : Phase) :
    Adds a (b.entered q) calls (phases ++ [q]) q where
  calls := added.calls
  phases := by rw [Account.entered_phases, added.phases, List.append_assoc]
  phase := rfl

theorem abort (added : Adds a b calls phases p) (running : p.isTerminal = false) :
    Adds a b.aborted calls (phases ++ [.failed]) .failed := by
  rw [Account.aborted, if_neg (by simp [added.phase, running])]
  exact added.move .failed

theorem abortLate (added : Adds a b calls phases p) (ended : p.isTerminal = true) :
    Adds a b.aborted calls phases p := by
  rwa [Account.aborted, if_pos (by rw [added.phase]; exact ended)]

theorem searchLeft (added : Adds a b calls phases .searchActive) :
    Adds a b.searchLeft calls (phases ++ [.sessionOpen]) .sessionOpen := by
  rw [Account.searchLeft, if_pos added.phase]
  exact added.move .sessionOpen

theorem searchLeftLate (added : Adds a b calls phases p) (ended : p ≠ .searchActive) :
    Adds a b.searchLeft calls phases p := by
  rwa [Account.searchLeft, if_neg (by rw [added.phase]; exact ended)]

theorem sessionLeft (added : Adds a b calls phases .sessionOpen) :
    Adds a (b.sessionLeft .finished) calls (phases ++ [.done]) .done := by
  rw [Account.sessionLeft, if_pos ⟨rfl, by rw [added.phase]; rfl⟩]
  exact added.move .done

theorem sessionLeftLate (added : Adds a b calls phases .failed) :
    Adds a (b.sessionLeft .abandoned) calls phases .failed := by
  rw [Account.sessionLeft, if_neg nofun]
  exact added.abortLate rfl

end Adds

variable {h : Handler ω} {d : Destination δ}

theorem copiesCopying (calm : h.NeverPanics) {c c' : h.Cursor} {a b : Account ω δ}
    {r : Except Stop Unit} (copies : Copies h d c a r c' b) (active : a.phase = .searchActive) :
    ∃ calls t, Copying calls t ∧ r = t.mapError .error ∧
      Adds a b calls (failure t) (leftOff .searchActive t) := by
  induction copies with
  | exhausted next =>
    exact ⟨_, _, .exhausted, rfl, (addsNothing active).call .nextMatch _ _ nofun⟩
  | aborted next =>
    exact ⟨_, _, .aborted _, rfl, ((addsNothing active).call .nextMatch _ _ nofun).abort rfl⟩
  | panicked next => exact absurd next (calm.nextMatch _ _ _ _ _)
  | @refused c a c' w x e d' next push =>
    have asked := (addsNothing active).call .nextMatch w (.entry x) nofun
    exact ⟨_, _, .refused x e, rfl, (asked.gift (.push x) d' (.error e) nofun).abort rfl⟩
  | @copied c a c' w x d' r c'' b next push rest ih =>
    obtain ⟨calls, t, copying, same, added⟩ := ih active
    have asked := (addsNothing active).call .nextMatch w (.entry x) nofun
    exact ⟨_, t, .copied x copying, same, (asked.gift (.push x) d' .done nofun).trans added⟩

theorem stillEnded (calm : h.NeverPanics) {c : h.Cursor} {w w' : ω} {q : Except Panic Unit}
    (release : h.endSearch c w = (q, w')) : q = .ok () := by
  cases q with
  | error p => exact absurd release (calm.endSearch _ _ _ _)
  | ok u => rfl

theorem stillClosed (calm : h.NeverPanics) {root : h.Root} {w w' : ω} {q : Except Panic Unit}
    (release : h.close root w = (q, w')) : q = .ok () := by
  cases q with
  | error p => exact absurd release (calm.close _ _ _ _)
  | ok u => rfl

theorem searchesSearching (calm : h.NeverPanics) {root : h.Root} {mask : String}
    {a b : Account ω δ} {r : Except Stop Unit} (searches : Searches h d root mask a r b)
    (idle : a.phase = .sessionOpen) :
    ∃ calls phases t, Searching mask calls phases t ∧ r = t.mapError .error ∧
      Adds a b calls phases (leftOff .sessionOpen t) := by
  cases searches with
  | unbegun begins =>
    cases begins with
    | @refused e w answer =>
      have asked := (addsNothing idle).call (.beginSearch mask) w (.error e) nofun
      exact ⟨_, _, _, .refused _, rfl, asked.abort rfl⟩
    | panicked answer => exact absurd answer (calm.beginSearch _ _ _ _ _)
    | late answer busy release => simp [idle, Phase.allows] at busy
  | broken begins copies release broken =>
    rw [stillEnded calm release, Session.feltNothing] at broken
    cases broken
  | @ended c b r c' b' q w begins copies release still =>
    cases stillEnded calm release
    cases begins with
    | @begun cursor w' answer free =>
      obtain ⟨calls, t, copying, same, added⟩ := copiesCopying calm copies rfl
      have begun := ((addsNothing idle).call (.beginSearch mask) w' .done nofun).move
        .searchActive
      have ended := (begun.trans added).call .endSearch w .done nofun
      cases t with
      | error e => exact ⟨_, _, _, .broken copying, same, ended.searchLeftLate nofun⟩
      | ok u => exact ⟨_, _, _, .ended copying, same, ended.searchLeft⟩

theorem fillsFilling (calm : h.NeverPanics) {config : Config} {root : h.Root}
    {a b : Account ω δ} {r : Except Stop (UInt32 × UInt32)} (fills : Fills h d config root a r b)
    (idle : a.phase = .sessionOpen) :
    ∃ calls phases t, Filling config.searchMask calls phases t ∧
      r.map (fun _ => ()) = t.mapError .error ∧ Adds a b calls phases (leftOff .sessionOpen t) := by
  have reserved (w : ω) (n m) (d' : δ) (r : Answer) : Adds a
      ((a.called w .fileCount (.count n)).gave d' (.reserve m) r) [(.reserve m, r)] []
      .sessionOpen := ((addsNothing idle).count w (.count n)).gift (.reserve m) d' r nofun
  cases fills with
  | uncounted count => exact absurd count (calm.fileCount _ _ _ _)
  | noRoom count room => exact ⟨_, _, _, .noRoom _ _, rfl, (reserved _ _ _ _ _).abort rfl⟩
  | unfinished count room search =>
    obtain ⟨calls, phases, t, searching, same, added⟩ := searchesSearching calm search idle
    cases t with
    | ok u => cases same
    | error e =>
      cases same
      exact ⟨_, _, _, .unfinished _ searching, rfl, (reserved _ _ _ _ _).trans added⟩
  | tooMany count room search many =>
    obtain ⟨calls, phases, t, searching, same, added⟩ := searchesSearching calm search idle
    cases t with
    | error e => cases same
    | ok u =>
      exact ⟨_, _, _, .miscounted _ _ searching, rfl,
        ((reserved _ _ _ _ _).trans added).abort rfl⟩
  | miscounted count room search few mismatch =>
    obtain ⟨calls, phases, t, searching, same, added⟩ := searchesSearching calm search idle
    cases t with
    | error e => cases same
    | ok u =>
      exact ⟨_, _, _, .miscounted _ _ searching, rfl,
        ((reserved _ _ _ _ _).trans added).abort rfl⟩
  | filled count room search few agreed =>
    obtain ⟨calls, phases, t, searching, same, added⟩ := searchesSearching calm search idle
    cases t with
    | error e => cases same
    | ok u => exact ⟨_, _, _, .filled _ searching, rfl, (reserved _ _ _ _ _).trans added⟩

theorem passesDriven (calm : h.NeverPanics) {config : Config} {shown : Bool} {blob : Bytes}
    {a b : Account ω δ} {r : Except Stop Unit} (passes : Passes h d config shown blob a r b)
    (fresh : a.phase = .unopened) :
    ∃ calls phases t, Driven config.searchMask calls phases t ∧ r = t.mapError .error ∧
      Adds a b calls phases (leftOff .done t) := by
  cases passes with
  | unopened opens =>
    cases opens with
    | @rejected e w answer =>
      have asked := (addsNothing fresh).call .openRoot w (.error e) nofun
      exact ⟨_, _, _, .rejected _, rfl, asked.abort rfl⟩
    | panicked answer => exact absurd answer (calm.openRoot _ _ _ _)
    | late answer spent release => simp [fresh, Phase.allows] at spent
    | leaked answer fresh loud count => exact absurd count (calm.fileCount _ _ _ _)
  | broken opens fills release broken =>
    rw [stillClosed calm release, Session.feltNothing] at broken
    cases broken
  | @closed root b r c q w opens fills release still =>
    have opened : Adds a b [(.openRoot, .done)] [.sessionOpen] .sessionOpen := by
      have asked (w : ω) := (addsNothing fresh).call .openRoot w .done nofun
      cases opens with
      | unseen answer fresh quiet => exact (asked _).move .sessionOpen
      | seen answer fresh loud count => exact ((asked _).move .sessionOpen).count _ _
    obtain ⟨calls, phases, t, filling, same, added⟩ := fillsFilling calm fills opened.phase
    have closing := (opened.trans added).call .close w .done nofun
    -- The release of the session reads the phase: it finishes the call only from an open session.
    cases stillClosed calm release
    rcases r with stop | counts <;> cases t <;> cases same
    · exact ⟨_, _, _, .failed filling, rfl, closing.sessionLeftLate⟩
    · exact ⟨_, _, _, .finished filling, rfl, closing.sessionLeft⟩

structure CallOrder (h : Handler ω) (d : Destination δ) (e : Enumeration) (blob : Bytes) (world : ω)
    (destination : δ) (t : Except CatalogError Unit) (s : Run ω δ) : Prop where
  order : Driven e.config.searchMask (s.calls.filter (·.1 ≠ .fileCount)) s.phases t
  copied : t = .ok () → pushed s.calls = yielded s.calls
  retraced : Hands.retrace d blob (⟨world, destination, [], []⟩ : Hands h δ) s.calls =
    some ⟨s.world, s.destination, [], []⟩
  path : List.IsChain (fun p q => p.allows q = true) (.unopened :: s.phases)
  last : (Phase.unopened :: s.phases).getLast? = some s.phase
  done : s.phase = .done ↔ t = .ok ()
  failed : s.phase = .failed ↔ ∃ e, t = .error e

theorem driveCallOrder (h : Handler ω) (d : Destination δ) (e : Enumeration) (blob : Bytes)
    (log : Log.Pipeline) (world : ω) (destination : δ) (calm : h.NeverPanics) (finite : h.Finite)
    (fresh : e.phase = .unopened) :
    ∃ t s, e.drive h d blob log world destination = (t.mapError .error, s) ∧
      CallOrder h d e blob world destination t s := by
  obtain ⟨r, s, run, passes⟩ := drivePasses finite d e blob log world destination
  obtain ⟨calls, phases, t, driven, rfl, added⟩ := passesDriven calm passes fresh
  have callsAdded : s.calls.filter (·.1 ≠ .fileCount) = calls := added.calls
  have phasesAdded : s.phases = phases := added.phases
  have phase : s.phase = leftOff .done t := added.phase
  rw [← callsAdded, ← phasesAdded] at driven
  obtain ⟨chain, last⟩ := drivenPath driven
  refine ⟨t, s, run, driven, ?_, ?_, chain, by rw [last, phase], ?_, ?_⟩
  · intro same
    subst same
    have pushes := pushedYielded driven
    unfold pushed yielded at pushes
    rwa [withoutCounts _ (fun _ => rfl), withoutCounts _ (fun _ => rfl)] at pushes
  · exact (Hands.Leads.start world destination e.phase).passesCalm calm passes
  · cases t <;> simp [phase, leftOff]
  · cases t <;> simp [phase, leftOff]

def aText : FileEntry := ⟨"a.txt", 1, 0, 1, .zero⟩

def binary : FileEntry := ⟨"b.bin", 2, 0, 2, .zero⟩

def cText : FileEntry := ⟨"c.txt", 3, 0, 3, .zero⟩

def threeRecords : Bytes :=
  (RootFile.Draft.build ⟨1, none, RootFile.noFault, [aText, binary, cText]⟩).toOption.getD []

theorem threeRecordsParsed : RootFile.parse threeRecords =
    .ok ⟨3, RootFile.noFault, [aText, binary, cText]⟩ := by
  decide +kernel

def justOne : Destination Bounded := Bounds.destination { limit := some 1 }

def unfiltered : Enumeration := ⟨.default, .unopened⟩

def onlyTexts : Enumeration := ⟨Config.default.withSearchMask "*.txt", .unopened⟩

theorem threeRecordCallOrder :
    RootFile.handler.NeverPanics ∧ RootFile.handler.Finite ∧
    (∃ s, unfiltered.drive RootFile.handler justOne threeRecords .bare {} {} =
        (.error (.error (.allocation "name buffer")), s) ∧
      CallOrder RootFile.handler justOne unfiltered threeRecords {} {}
        (.error (.allocation "name buffer")) s ∧
      s.calls = [(.openRoot, .done), (.fileCount, .count 3), (.reserve 3, .done),
        (.beginSearch "*", .done), (.nextMatch, .entry aText), (.push aText, .done),
        (.nextMatch, .entry binary), (.push binary, .error (.allocation "name buffer")),
        (.endSearch, .done), (.close, .done)] ∧
      s.phases = [.sessionOpen, .searchActive, .failed]) ∧
    (∃ s, onlyTexts.drive RootFile.handler Destination.entries threeRecords .bare {} #[] =
        (.ok (), s) ∧
      CallOrder RootFile.handler Destination.entries onlyTexts threeRecords {} #[] (.ok ()) s ∧
      s.destination = #[aText, cText] ∧
      s.phases = [.sessionOpen, .searchActive, .sessionOpen, .done]) := by
  refine ⟨RootFile.neverPanics, RootFile.finite, ?_, ?_⟩
  · have passes : Passes RootFile.handler justOne unfiltered.config (Log.Pipeline.bare.enabled .debug)
        threeRecords ⟨{}, {}, .unopened, [], []⟩ (.error (.error (.allocation "name buffer"))) _ :=
      .closed (w := ⟨1, 1, 1, 1⟩) (RootFile.opensParsed threeRecordsParsed rfl) (.unfinished rfl rfl
        (.ended (w := ⟨1, 0, 1, 1⟩) (.begun (w := ⟨1, 0, 1, 0⟩) rfl rfl)
          (.copied (RootFile.nextSought (r := .ok (some aText)) rfl _) rfl
            (.refused (RootFile.nextSought (r := .ok (some binary)) rfl _) rfl)) rfl rfl)) rfl rfl
    obtain ⟨s, run, same⟩ := driveTakes passes
    obtain ⟨t, s', run', order⟩ := driveCallOrder RootFile.handler justOne unfiltered threeRecords
      .bare {} {} RootFile.neverPanics RootFile.finite rfl
    cases t <;> cases run.symm.trans run'
    exact ⟨s, run, order, congrArg Account.calls same, congrArg Account.phases same⟩
  · have filtered {n m : UInt32} : ¬ Mismatch onlyTexts.config n m := fun mismatch =>
      absurd mismatch.2.1 (by decide)
    have passes : Passes RootFile.handler Destination.entries onlyTexts.config
        (Log.Pipeline.bare.enabled .debug) threeRecords ⟨{}, #[], .unopened, [], []⟩ (.ok ()) _ :=
      .closed (w := ⟨1, 1, 1, 1⟩) (RootFile.opensParsed threeRecordsParsed rfl) (.filled rfl rfl
        (.ended (w := ⟨1, 0, 1, 1⟩) (.begun (w := ⟨1, 0, 1, 0⟩) rfl rfl)
          (.copied (RootFile.nextSought (r := .ok (some aText)) rfl _) rfl
            (.copied (RootFile.nextSought (r := .ok (some cText)) rfl _) rfl
              (.exhausted (RootFile.nextSought (r := .ok none) rfl _)))) rfl rfl)
        (by decide) filtered) rfl rfl
    obtain ⟨s, run, same⟩ := driveTakes passes
    obtain ⟨t, s', run', order⟩ := driveCallOrder RootFile.handler Destination.entries onlyTexts
      threeRecords .bare {} #[] RootFile.neverPanics RootFile.finite rfl
    cases t <;> cases run.symm.trans run'
    exact ⟨s, run, order, congrArg Account.destination same, congrArg Account.phases same⟩

end RootCatalog.Enumeration
