import RootCatalog.Enumeration
import RootCatalog.Proofs.Session.Guards
/-! The courses that an enumeration can take, as relations between the accounts before and after.
Each rule is one way to the end, with the answers of the handler and of the destination as premises;
a rule says what the result is and what was called on the way. A pass takes every course that there
is for it, panics included, and there is one unless its search goes on for ever. -/
namespace RootCatalog.Enumeration

variable {ω δ : Type}

theorem takesGiven {f : δ → Except CatalogError Unit × δ} {q : Except CatalogError Unit} {d' : δ}
    (log : Log.Pipeline) (a : Account ω δ) (call : Call)
    (answer : f a.destination = (q, d')) :
    ((Step.give call f).onError fun _ => Session.abort : Step ω δ Unit).Takes log a
      (q.mapError .error) ((a.gave d' call (.ofGiven q)).judged (q.mapError Stop.error)) := by
  cases q with
  | error e => exact (Step.takesGive answer).onErrorError Session.takesAbort
  | ok u => exact (Step.takesGive answer).onErrorOk

inductive Copies (h : Handler ω) (d : Destination δ) : h.Cursor → Account ω δ →
    Except Stop Unit → h.Cursor → Account ω δ → Prop
  | exhausted {c a c' w} (next : h.nextMatch c a.world = (.ok none, c', w)) :
      Copies h d c a (.ok ()) c' (a.called w .nextMatch .exhausted)
  | aborted {c a c' w e} (next : h.nextMatch c a.world = (.error (.error e), c', w)) :
      Copies h d c a (.error (.error e)) c' (a.called w .nextMatch (.error e)).aborted
  | panicked {c a c' w p} (next : h.nextMatch c a.world = (.error (.panic p), c', w)) :
      Copies h d c a (.error (.panic p)) c' (a.called w .nextMatch (.panic p))
  | refused {c a c' w x e d'} (next : h.nextMatch c a.world = (.ok (some x), c', w))
      (push : d.push x a.destination = (.error e, d')) :
      Copies h d c a (.error (.error e)) c'
        ((a.called w .nextMatch (.entry x)).gave d' (.push x) (.error e)).aborted
  | copied {c a c' w x d' r c'' b} (next : h.nextMatch c a.world = (.ok (some x), c', w))
      (push : d.push x a.destination = (.ok (), d'))
      (rest : Copies h d c' ((a.called w .nextMatch (.entry x)).gave d' (.push x) .done) r c'' b) :
      Copies h d c a r c'' b

theorem copyAllEnds {h : Handler ω} {d : Destination δ} {log : Log.Pipeline} {c c' : h.Cursor}
    {s s' : Run ω δ} (next : Session.nextMatch h c log s = (.ok none, c', s')) :
    h.copyAll d c log s = (.ok (), c', s') := by
  rw [Handler.copyAll]
  split <;> simp_all

theorem copyAllStops {h : Handler ω} {d : Destination δ} {log : Log.Pipeline} {c c' : h.Cursor}
    {s s' : Run ω δ} {stop : Stop}
    (next : Session.nextMatch h c log s = (.error stop, c', s')) :
    h.copyAll d c log s = (.error stop, c', s') := by
  rw [Handler.copyAll]
  split <;> simp_all

theorem copyAllRefused {h : Handler ω} {d : Destination δ} {log : Log.Pipeline} {c c' : h.Cursor}
    {s s' s'' : Run ω δ} {x : FileEntry} {stop : Stop}
    (next : Session.nextMatch h c log s = (.ok (some x), c', s'))
    (pushed : push d x log s' = (.error stop, s'')) :
    h.copyAll d c log s = (.error stop, c', s'') := by
  rw [Handler.copyAll]
  split <;> simp_all

theorem copyAllGoesOn {h : Handler ω} {d : Destination δ} {log : Log.Pipeline} {c c' : h.Cursor}
    {s s' s'' : Run ω δ} {x : FileEntry}
    (next : Session.nextMatch h c log s = (.ok (some x), c', s'))
    (pushed : push d x log s' = (.ok (), s'')) :
    h.copyAll d c log s = h.copyAll d c' log s'' := by
  rw [Handler.copyAll]
  split <;> simp_all

theorem copiesSomehow (d : Destination δ) {h : Handler ω} {c : h.Cursor} {a : Account ω δ}
    (halts : h.Halts c a.world) : ∃ r c' b, Copies h d c a r c' b := by
  generalize same : a.world = w at halts
  refine halts.onward (motive := fun c w => ∀ a : Account ω δ, a.world = w →
    ∃ r c' b, Copies h d c a r c' b) ?_ a same
  rintro c _ ih a rfl
  rcases next : h.nextMatch c a.world with ⟨(e | p) | none | x, c', w⟩
  · exact ⟨_, _, _, .aborted next⟩
  · exact ⟨_, _, _, .panicked next⟩
  · exact ⟨_, _, _, .exhausted next⟩
  rcases pushed : d.push x a.destination with ⟨e | u, d'⟩
  · exact ⟨_, _, _, .refused next pushed⟩
  · obtain ⟨r, c'', b, rest⟩ :=
      ih x c' w next ((a.called w .nextMatch (.entry x)).gave d' (.push x) .done) rfl
    exact ⟨r, c'', b, .copied next pushed rest⟩

theorem Copies.takes {h : Handler ω} {d : Destination δ} {c c' : h.Cursor} {a b : Account ω δ}
    {r : Except Stop Unit} (copies : Copies h d c a r c' b) (log : Log.Pipeline) (s : Run ω δ)
    (same : s.account = a) : ∃ s', h.copyAll d c log s = (r, c', s') ∧ s'.account = b := by
  induction copies generalizing s with
  | exhausted next =>
    obtain ⟨s', step, same'⟩ := Session.takesNext next s same
    exact ⟨s', copyAllEnds step, same'⟩
  | aborted next =>
    obtain ⟨s', step, same'⟩ := Session.takesNext next s same
    exact ⟨s', copyAllStops step, same'⟩
  | panicked next =>
    obtain ⟨s', step, same'⟩ := Session.takesNext next s same
    exact ⟨s', copyAllStops step, same'⟩
  | @refused c a c' w x e d' next pushed =>
    obtain ⟨s', step, same'⟩ := Session.takesNext next s same
    obtain ⟨s'', step', same''⟩ := takesGiven log
      (a.called w .nextMatch (.entry x)) (.push x) pushed s' same'
    exact ⟨s'', copyAllRefused step step', same''⟩
  | @copied c a c' w x d' r c'' b next pushed rest ih =>
    obtain ⟨s', step, same'⟩ := Session.takesNext next s same
    obtain ⟨s'', step', same''⟩ := takesGiven log
      (a.called w .nextMatch (.entry x)) (.push x) pushed s' same'
    rw [copyAllGoesOn step step']
    exact ih s'' same''

inductive Searches (h : Handler ω) (d : Destination δ) (root : h.Root) (mask : String)
    (a : Account ω δ) : Except Stop Unit → Account ω δ → Prop
  | unbegun {stop b} (begins : Session.Begins h root mask a (.error stop) b) :
      Searches h d root mask a (.error stop) b
  | ended {c b r c' b' q w} (begins : Session.Begins h root mask a (.ok c) b)
      (copies : Copies h d c b r c' b') (release : h.endSearch c' b'.world = (q, w))
      (still : (Ending.ofOutcome r).felt q = .ok ()) :
      Searches h d root mask a r (b'.called w .endSearch (.ofRelease q)).searchLeft
  | broken {c b r c' b' q w p} (begins : Session.Begins h root mask a (.ok c) b)
      (copies : Copies h d c b r c' b') (release : h.endSearch c' b'.world = (q, w))
      (broken : (Ending.ofOutcome r).felt q = .error p) :
      Searches h d root mask a (.error (.panic p)) (b'.called w .endSearch (.ofRelease q))

theorem searchesSomehow {h : Handler ω} (finite : h.Finite) (d : Destination δ) (root : h.Root)
    (mask : String) (a : Account ω δ) : ∃ r b, Searches h d root mask a r b := by
  obtain ⟨stop | c, b, begins⟩ := Session.beginsSomehow h root mask a
  · exact ⟨_, _, .unbegun begins⟩
  obtain ⟨r, c', b', copies⟩ : ∃ r c' b', Copies h d c b r c' b' := by
    cases begins with
    | begun answer free => exact copiesSomehow d (finite _ _ _ _ _ answer)
  rcases release : h.endSearch c' b'.world with ⟨q, w⟩
  cases felt : (Ending.ofOutcome r).felt q with
  | ok u => exact ⟨_, _, .ended begins copies release felt⟩
  | error p => exact ⟨_, _, .broken begins copies release felt⟩

theorem Searches.takes {h : Handler ω} {d : Destination δ} {root : h.Root} {mask : String}
    {a b : Account ω δ} {r : Except Stop Unit} (searches : Searches h d root mask a r b)
    (log : Log.Pipeline) : (search h d root mask : Step ω δ Unit).Takes log a r b := by
  have copied {c c' : h.Cursor} {b b' e : Account ω δ} {r t : Except Stop Unit}
      (begins : Session.Begins h root mask a (.ok c) b) (copies : Copies h d c b r c' b')
      (ends : (do Session.endSearch h (.ofOutcome r) c'; Step.resume r : Step ω δ Unit).Takes
        log b' t e) : (search h d root mask : Step ω δ Unit).Takes log a t e := by
    refine begins.takes.bind fun s same => ?_
    obtain ⟨s', step, same'⟩ := copies.takes log s same
    simp only [step]
    exact ends s' same'
  cases searches with
  | unbegun begins => exact begins.takes.stopped
  | ended begins copies release still =>
    refine copied begins copies ?_
    exact (Session.takesEndSearch release still).bind (Step.takesResume r)
  | broken begins copies release broken =>
    refine copied begins copies ?_
    exact (Session.takesEndSearchPanic release broken).stopped

def Mismatch (config : Config) (declared yielded : UInt32) : Prop :=
  declared ≠ yielded ∧ config.searchMask = Mask.all ∧ config.strictEntryCount = true

theorem takesCheck {config : Config} {declared yielded : UInt32} {log : Log.Pipeline}
    {a : Account ω δ} (agreed : ¬ Mismatch config declared yielded) :
    (checkCount config declared yielded : Step ω δ Unit).Takes log a (.ok ()) a := by
  unfold checkCount
  by_cases counted : declared = yielded ∨ config.searchMask ≠ Mask.all
  · rw [if_pos counted]
    exact Step.takesPure ()
  · rw [if_neg counted]
    have lenient : ¬ config.strictEntryCount = true := fun strict =>
      agreed ⟨fun same => counted (.inl same), Decidable.not_not.mp fun other =>
        counted (.inr other), strict⟩
    rw [if_neg lenient]
    exact Step.takesEmit _

theorem takesMismatch {config : Config} {declared yielded : UInt32} {log : Log.Pipeline}
    {a : Account ω δ} (mismatch : Mismatch config declared yielded) :
    (checkCount config declared yielded : Step ω δ Unit).Takes log a
      (.error (.error (.entryCountMismatch declared yielded))) a.aborted := by
  obtain ⟨differs, whole, strict⟩ := mismatch
  unfold checkCount
  rw [if_neg (by simp [differs, whole]), if_pos strict]
  exact Session.takesAbort.bind (Step.takesStop _)

theorem takesLength (d : Destination δ) (log : Log.Pipeline) (a : Account ω δ) :
    Step.Takes (fun _ s => (.ok (d.length s.destination), s)) log a
      (.ok (d.length a.destination)) a := by
  intro s same
  subst same
  exact ⟨s, rfl, rfl⟩

theorem takesCopied {d : Destination δ} {log : Log.Pipeline} {a : Account ω δ}
    (few : d.length a.destination < UInt32.size) :
    (copiedCount d : Step ω δ UInt32).Takes log a
      (.ok (UInt32.ofNat (d.length a.destination))) a := by
  refine (takesLength d log a).bind ?_
  rw [if_pos few]
  exact Step.takesPure _

theorem takesTooMany {d : Destination δ} {log : Log.Pipeline} {a : Account ω δ}
    (many : UInt32.size ≤ d.length a.destination) :
    (copiedCount d : Step ω δ UInt32).Takes log a
      (.error (.error (.allocation "more than u32::MAX entries"))) a.aborted := by
  refine (takesLength d log a).bind ?_
  rw [if_neg (Nat.not_lt.mpr many)]
  exact Session.takesAbort.bind (Step.takesStop _)

theorem roomAsked (config : Config) (n : UInt32) : (config.initialCapacity n).toNat < UInt32.size := by
  have least : (config.initialCapacity n).toNat ≤ n.toNat := by
    change (if n.toUInt64 ≤ config.maxPreallocatedEntries then n.toUInt64
      else config.maxPreallocatedEntries).toNat ≤ n.toNat
    split
    · exact Nat.le_of_eq (UInt32.toNat_toUInt64 n)
    · rename_i greater
      have less := UInt64.lt_iff_toNat_lt.mp (UInt64.not_le.mp greater)
      rw [UInt32.toNat_toUInt64] at less
      exact Nat.le_of_lt less
  exact Nat.lt_of_le_of_lt least n.toNat_lt

inductive Fills (h : Handler ω) (d : Destination δ) (config : Config) (root : h.Root)
    (a : Account ω δ) : Except Stop (UInt32 × UInt32) → Account ω δ → Prop
  | uncounted {p w} (count : h.fileCount root a.world = (.error p, w)) :
      Fills h d config root a (.error (.panic p)) (a.called w .fileCount (.panic p))
  | noRoom {n w e d'} (count : h.fileCount root a.world = (.ok n, w))
      (room : d.reserve (config.initialCapacity n) a.destination = (.error e, d')) :
      Fills h d config root a (.error (.error e))
        ((a.called w .fileCount (.count n)).gave d' (.reserve (config.initialCapacity n))
          (.error e)).aborted
  | unfinished {n w d' stop b} (count : h.fileCount root a.world = (.ok n, w))
      (room : d.reserve (config.initialCapacity n) a.destination = (.ok (), d'))
      (search : Searches h d root config.searchMask ((a.called w .fileCount (.count n)).gave d'
        (.reserve (config.initialCapacity n)) .done) (.error stop) b) :
      Fills h d config root a (.error stop) b
  | tooMany {n w d' b} (count : h.fileCount root a.world = (.ok n, w))
      (room : d.reserve (config.initialCapacity n) a.destination = (.ok (), d'))
      (search : Searches h d root config.searchMask ((a.called w .fileCount (.count n)).gave d'
        (.reserve (config.initialCapacity n)) .done) (.ok ()) b)
      (many : UInt32.size ≤ d.length b.destination) :
      Fills h d config root a (.error (.error (.allocation "more than u32::MAX entries")))
        b.aborted
  | miscounted {n w d' b} (count : h.fileCount root a.world = (.ok n, w))
      (room : d.reserve (config.initialCapacity n) a.destination = (.ok (), d'))
      (search : Searches h d root config.searchMask ((a.called w .fileCount (.count n)).gave d'
        (.reserve (config.initialCapacity n)) .done) (.ok ()) b)
      (few : d.length b.destination < UInt32.size)
      (mismatch : Mismatch config n (UInt32.ofNat (d.length b.destination))) :
      Fills h d config root a
        (.error (.error (.entryCountMismatch n (UInt32.ofNat (d.length b.destination)))))
        b.aborted
  | filled {n w d' b} (count : h.fileCount root a.world = (.ok n, w))
      (room : d.reserve (config.initialCapacity n) a.destination = (.ok (), d'))
      (search : Searches h d root config.searchMask ((a.called w .fileCount (.count n)).gave d'
        (.reserve (config.initialCapacity n)) .done) (.ok ()) b)
      (few : d.length b.destination < UInt32.size)
      (agreed : ¬ Mismatch config n (UInt32.ofNat (d.length b.destination))) :
      Fills h d config root a (.ok (n, UInt32.ofNat (d.length b.destination))) b

theorem fillsSomehow {h : Handler ω} (finite : h.Finite) (d : Destination δ) (config : Config)
    (root : h.Root) (a : Account ω δ) : ∃ r b, Fills h d config root a r b := by
  rcases count : h.fileCount root a.world with ⟨p | n, w⟩
  · exact ⟨_, _, .uncounted count⟩
  rcases room : d.reserve (config.initialCapacity n) a.destination with ⟨e | u, d'⟩
  · exact ⟨_, _, .noRoom count room⟩
  obtain ⟨stop | v, b, searches⟩ := searchesSomehow finite d root config.searchMask
    ((a.called w .fileCount (.count n)).gave d' (.reserve (config.initialCapacity n)) .done)
  · exact ⟨_, _, .unfinished count room searches⟩
  by_cases few : d.length b.destination < UInt32.size
  · by_cases mismatch : Mismatch config n (UInt32.ofNat (d.length b.destination))
    · exact ⟨_, _, .miscounted count room searches few mismatch⟩
    · exact ⟨_, _, .filled count room searches few mismatch⟩
  · exact ⟨_, _, .tooMany count room searches (Nat.not_lt.mp few)⟩

theorem Fills.takes {h : Handler ω} {d : Destination δ} {config : Config} {root : h.Root}
    {a b : Account ω δ} {r : Except Stop (UInt32 × UInt32)} (fills : Fills h d config root a r b)
    (log : Log.Pipeline) :
    (do
      let declared ← Session.fileCount h root
      reserve d (config.initialCapacity declared)
      search h d root config.searchMask
      let yielded ← copiedCount d
      checkCount config declared yielded
      pure (declared, yielded) : Step ω δ (UInt32 × UInt32)).Takes log a r b := by
  have given {n : UInt32} {w : ω} {q : Except CatalogError Unit} {d' : δ}
      (room : d.reserve (config.initialCapacity n) a.destination = (q, d')) :=
    takesGiven log (a.called w .fileCount (.count n)) (.reserve (config.initialCapacity n)) room
  cases fills with
  | uncounted count => exact (Session.takesCountPanic count).stopped
  | noRoom count room => exact (Session.takesCount count).bind (given room).stopped
  | unfinished count room searches =>
    exact (Session.takesCount count).bind ((given room).bind (searches.takes log).stopped)
  | tooMany count room searches many =>
    refine (Session.takesCount count).bind ((given room).bind ((searches.takes log).bind ?_))
    exact (takesTooMany many).stopped
  | miscounted count room searches few mismatch =>
    refine (Session.takesCount count).bind ((given room).bind ((searches.takes log).bind ?_))
    exact (takesCopied few).bind (takesMismatch mismatch).stopped
  | filled count room searches few agreed =>
    refine (Session.takesCount count).bind ((given room).bind ((searches.takes log).bind ?_))
    exact (takesCopied few).bind ((takesCheck agreed).bind (Step.takesPure _))

inductive Passes (h : Handler ω) (d : Destination δ) (config : Config) (shown : Bool)
    (blob : Bytes) (a : Account ω δ) : Except Stop Unit → Account ω δ → Prop
  | unopened {stop b} (opens : Session.Opens h shown blob a (.error stop) b) :
      Passes h d config shown blob a (.error stop) b
  | closed {root b r c q w} (opens : Session.Opens h shown blob a (.ok root) b)
      (fills : Fills h d config root b r c) (release : h.close root c.world = (q, w))
      (still : (Ending.ofOutcome r).felt q = .ok ()) :
      Passes h d config shown blob a (r.map fun _ => ())
        ((c.called w .close (.ofRelease q)).sessionLeft (.ofOutcome r))
  | broken {root b r c q w p} (opens : Session.Opens h shown blob a (.ok root) b)
      (fills : Fills h d config root b r c) (release : h.close root c.world = (q, w))
      (broken : (Ending.ofOutcome r).felt q = .error p) :
      Passes h d config shown blob a (.error (.panic p)) (c.called w .close (.ofRelease q))

theorem takesClosing {h : Handler ω} {root : h.Root} {α : Type} {body : Step ω δ α}
    {log : Log.Pipeline} {a b : Account ω δ} {r : Except Stop α} {q : Except Panic Unit} {w : ω}
    (run : body.Takes log a r b) (release : h.close root b.world = (q, w))
    (still : (Ending.ofOutcome r).felt q = .ok ()) :
    (closing h root body).Takes log a r
      ((b.called w .close (.ofRelease q)).sessionLeft (.ofOutcome r)) := by
  refine run.outcome.bind ?_
  exact (Session.takesClose release still).bind (Step.takesResume r)

theorem takesClosingPanic {h : Handler ω} {root : h.Root} {α : Type} {body : Step ω δ α}
    {log : Log.Pipeline} {a b : Account ω δ} {r : Except Stop α} {q : Except Panic Unit} {w : ω}
    {p : Panic} (run : body.Takes log a r b) (release : h.close root b.world = (q, w))
    (broken : (Ending.ofOutcome r).felt q = .error p) :
    (closing h root body).Takes log a (.error (.panic p))
      (b.called w .close (.ofRelease q)) := by
  refine run.outcome.bind ?_
  exact (Session.takesClosePanic release broken).stopped

theorem passesSomehow {h : Handler ω} (finite : h.Finite) (d : Destination δ) (config : Config)
    (shown : Bool) (blob : Bytes) (a : Account ω δ) :
    ∃ r b, Passes h d config shown blob a r b := by
  obtain ⟨stop | root, b, opens⟩ := Session.opensSomehow h shown blob a
  · exact ⟨_, _, .unopened opens⟩
  obtain ⟨r, c, fills⟩ := fillsSomehow finite d config root b
  rcases release : h.close root c.world with ⟨q, w⟩
  cases felt : (Ending.ofOutcome r).felt q with
  | error p => exact ⟨_, _, .broken opens fills release felt⟩
  | ok u => exact ⟨_, _, .closed opens fills release felt⟩

theorem Passes.takes {h : Handler ω} {d : Destination δ} {config : Config} {blob : Bytes}
    {log : Log.Pipeline} {a b : Account ω δ} {r : Except Stop Unit}
    (passes : Passes h d config (log.enabled .debug) blob a r b) :
    (pass h d config blob : Step ω δ Unit).Takes log a r b := by
  cases passes with
  | unopened opens => exact opens.takes.stopped
  | @closed root b r c q w opens fills release still =>
    have closed := takesClosing (fills.takes log) release still
    refine opens.takes.bind ?_
    cases r with
    | error stop => exact closed.stopped
    | ok counts => exact closed.bind (Step.takesEmit _)
  | broken opens fills release broken =>
    exact opens.takes.bind (takesClosingPanic (fills.takes log) release broken).stopped

theorem driveTakes {h : Handler ω} {d : Destination δ} {e : Enumeration} {blob : Bytes}
    {log : Log.Pipeline} {world : ω} {destination : δ} {r : Except Stop Unit} {b : Account ω δ}
    (passes : Passes h d e.config (log.enabled .debug) blob ⟨world, destination, e.phase, [], []⟩
      r b) : ∃ s, e.drive h d blob log world destination = (r, s) ∧ s.account = b :=
  passes.takes ⟨world, destination, e.phase, #[]⟩ rfl

theorem drivePasses {h : Handler ω} (finite : h.Finite) (d : Destination δ) (e : Enumeration)
    (blob : Bytes) (log : Log.Pipeline) (world : ω) (destination : δ) :
    ∃ r s, e.drive h d blob log world destination = (r, s) ∧
      Passes h d e.config (log.enabled .debug) blob ⟨world, destination, e.phase, [], []⟩ r
        s.account := by
  obtain ⟨r, b, passes⟩ := passesSomehow finite d e.config (log.enabled .debug) blob
    ⟨world, destination, e.phase, [], []⟩
  obtain ⟨s, run, rfl⟩ := driveTakes passes
  exact ⟨r, s, run, passes⟩

end RootCatalog.Enumeration
