import RootCatalog.Proofs.RootFile.Format
import RootCatalog.Proofs.RootFile.Search
import RootCatalog.Proofs.Session.Retrace
import RootCatalog.Proofs.Session.Table
/-! Any use of one session, from its opening to its release. While it is open at most one search is
live, every cursor is ended once and in time, and the phase of the call is told by the live search and
by whether a call of the handler failed. The calls noted lead to the world as it is, and to the root
and the cursor that are still held. The handler must not panic. Nothing is said about calls with
several sessions, nor about moves of the phase that no session makes. -/
namespace RootCatalog.Session.Table

variable {ω : Type} {h : Handler ω} {t t' : Table h} {a b : Account ω Unit}

theorem liveBegun (t : Table h) (slot : Nat × h.Cursor) :
    live { t with searches := t.searches.push (some slot) } = t.live + 1 := by
  simp [live]

theorem liveSet {j : Nat} {slot : Nat × h.Cursor} (held : t.cursor? j = some slot)
    (slot' : Option (Nat × h.Cursor)) :
    live { t with searches := t.searches.set! j slot' } + 1 =
      t.live + if slot'.isSome then 1 else 0 := by
  obtain ⟨bound, found⟩ := Array.getElem?_eq_some_iff.mp (Option.join_eq_some_iff.mp held)
  have some : 0 < t.live := Array.countP_pos_iff.mpr
    ⟨_, Array.getElem_mem bound, by rw [found]; rfl⟩
  unfold live at some ⊢
  simp only [Array.set!_eq_setIfInBounds, Array.setIfInBounds, bound, dif_pos, Array.countP_set, found,
    Option.isSome_some, if_true]
  omega

def standing (broken : Bool) (live : Nat) : Phase :=
  if broken then .failed else if live = 0 then .sessionOpen else .searchActive

structure Guarded (t : Table h) (a : Account ω Unit) : Prop where
  session : ∃ root, t.sessions = #[some root]
  single : t.live ≤ 1
  unclosed : Handle.closed ∉ handles a.calls
  paired : (handles a.calls).count .begun = (handles a.calls).count .ended + t.live
  phase : a.phase = standing (failed a.calls) t.live

theorem Guarded.onward (guarded : Guarded t a) (marks : List Handle)
    (sessions : t'.sessions = t.sessions)
    (traced : handles b.calls = handles a.calls ++ marks) (unclosed : Handle.closed ∉ marks)
    (paired : marks.count .begun + t.live = marks.count .ended + t'.live) (single : t'.live ≤ 1)
    (phase : b.phase = standing (failed b.calls) t'.live) : Guarded t' b where
  session := by rw [sessions]; exact guarded.session
  single := single
  unclosed := by
    rw [traced, List.mem_append]
    exact fun closed => closed.elim guarded.unclosed unclosed
  paired := by
    have before := guarded.paired
    rw [traced, List.count_append, List.count_append]
    omega
  phase := phase

theorem handlesCalled (a : Account ω Unit) (w : ω) (c : Call) (r : Answer) :
    handles (a.called w c r).calls = handles a.calls ++ handles [(c, r)] :=
  handlesMore a.calls [(c, r)]

theorem failedCalled (a : Account ω Unit) (w : ω) (c : Call) (r : Answer) :
    failed (a.called w c r).calls = (failed a.calls || r.isError) := by
  simp [failed]

theorem phaseAborted {broken : Bool} {n : Nat} (stands : a.phase = standing broken n) :
    a.aborted.phase = .failed := by
  unfold Account.aborted
  split
  · rename_i terminal
    rw [stands] at terminal ⊢
    unfold standing at terminal ⊢
    split
    · rfl
    · rw [if_neg (by assumption)] at terminal
      split at terminal <;> cases terminal
  · rfl

theorem standingFree {broken : Bool} {n : Nat}
    (free : (standing broken n).allows .searchActive = true) : broken = false ∧ n = 0 := by
  unfold standing at free
  cases broken with
  | true => cases free
  | false =>
    rw [if_neg Bool.false_ne_true] at free
    split at free
    · exact ⟨rfl, by assumption⟩
    · cases free

theorem guardedFailing (guarded : Guarded t a) (sessions : t'.sessions = t.sessions)
    (live : t'.live = t.live) {c : Call} {e : CatalogError} (unmarked : handles [(c, .error e)] = [])
    (w : ω) : Guarded t' (a.called w c (.error e)).aborted := by
  have stands : (a.called w c (.error e)).phase = standing (failed a.calls) t.live := guarded.phase
  refine guarded.onward [] sessions ?_ nofun (by rw [live]; rfl) (live ▸ guarded.single) ?_
  · rw [Account.callsAborted, handlesCalled, unmarked]
  · rw [phaseAborted stands, Account.callsAborted, failedCalled]
    simp [standing, Answer.isError]

theorem guardedFine (guarded : Guarded t a) (sessions : t'.sessions = t.sessions)
    (live : t'.live = t.live) {c : Call} {r : Answer} (unmarked : handles [(c, r)] = [])
    (fine : r.isError = false) (w : ω) : Guarded t' (a.called w c r) := by
  refine guarded.onward [] sessions ?_ nofun (by rw [live]; rfl) (live ▸ guarded.single) ?_
  · rw [handlesCalled, unmarked]
  · rw [failedCalled, fine, Bool.or_false, live]
    exact guarded.phase

theorem guardedRefused (calm : h.NeverPanics) (guarded : Guarded t a) {root : h.Root}
    {mask : String} {stop : Stop} (begins : Begins h root mask a (.error stop) b) :
    Guarded t b := by
  cases begins with
  | refused answer => exact guardedFailing guarded rfl rfl rfl _
  | panicked answer => exact absurd answer (calm.beginSearch _ _ _ _ _)
  | @late c w q w' answer busy release =>
    rcases q with p | u
    · exact absurd release (calm.endSearch _ _ _ _)
    -- The cursor that comes too late is ended at once, so the two marks cancel out.
    refine guarded.onward [.begun, .ended] rfl ?_ nofun rfl guarded.single ?_
    · rw [handlesCalled, handlesCalled, List.append_assoc]
      rfl
    · rw [failedCalled, failedCalled]
      simpa [Answer.isError, Answer.ofRelease] using guarded.phase

theorem guardedBegun (guarded : Guarded t a) {root : h.Root} {mask : String} {c : h.Cursor}
    (begins : Begins h root mask a (.ok c) b) (i : Nat) :
    Guarded { t with searches := t.searches.push (some (i, c)) } b := by
  cases begins with
  | @begun c w answer free =>
    rw [guarded.phase] at free
    obtain ⟨sound, idle⟩ := standingFree free
    have one := liveBegun t (i, c)
    rw [idle] at one
    refine guarded.onward [.begun] rfl ?_ nofun ?_ (Nat.le_of_eq one) ?_
    · exact handlesCalled a w (.beginSearch mask) .done
    · rw [one, idle]
      rfl
    · rw [one, Account.entered_calls, failedCalled, sound]
      rfl

theorem guardedAsked (calm : h.NeverPanics) (guarded : Guarded t a) {j i : Nat} {c c' : h.Cursor}
    {r : Except Stop (Option FileEntry)} {w : ω} (held : t.cursor? j = some (i, c))
    (next : h.nextMatch c a.world = (r, c', w)) :
    Guarded { t with searches := t.searches.set! j (some (i, c')) }
      ((a.called w .nextMatch (Answer.ofResult Answer.ofMatch r)).judged r) := by
  have live := Nat.succ.inj (liveSet held (some (i, c')))
  generalize asked : ({ t with searches := t.searches.set! j (some (i, c')) } : Table h) = t' at live ⊢
  have sessions : t'.sessions = t.sessions := by rw [← asked]
  rcases r with (e | p) | none | x
  · exact guardedFailing guarded sessions live rfl w
  · exact absurd next (calm.nextMatch _ _ _ _ _)
  · exact guardedFine guarded sessions live rfl rfl w
  · exact guardedFine guarded sessions live rfl rfl w

theorem guardedEnded (guarded : Guarded t a) {j : Nat} {slot : Nat × h.Cursor}
    (held : t.cursor? j = some slot) (w : ω) :
    Guarded { t with searches := t.searches.set! j none }
      (a.called w .endSearch .done).searchLeft := by
  have fewer : live { t with searches := t.searches.set! j none } + 1 = t.live := liveSet held none
  have single := guarded.single
  have active : t.live = 1 := by omega
  have idle : live { t with searches := t.searches.set! j none } = 0 := by omega
  refine guarded.onward [.ended] rfl ?_ nofun ?_ (by rw [idle]; decide) ?_
  · rw [Account.callsSearchLeft]
    exact handlesCalled a w .endSearch .done
  · rw [idle, active]
    rfl
  · rw [Account.callsSearchLeft, failedCalled, idle]
    have stands : (a.called w .endSearch .done).phase = standing (failed a.calls) 1 :=
      active ▸ guarded.phase
    unfold Account.searchLeft
    rw [stands]
    cases broken : failed a.calls with
    | true => rw [if_neg nofun]; exact stands.trans (by rw [broken]; rfl)
    | false => rfl

theorem guardedUse (calm : h.NeverPanics) (guarded : Guarded t a) {action : Action}
    (uses : Uses h t a action t' b) : Guarded t' b := by
  cases uses with
  | countGone gone => exact guarded
  | counted held first second =>
    exact guardedFine (guardedFine guarded rfl rfl rfl rfl _) rfl rfl rfl rfl _
  | beginGone gone => exact guarded
  | refused held begins => exact guardedRefused calm guarded begins
  | begun held begins => exact guardedBegun guarded begins _
  | nextGone gone => exact guarded
  | asked held next => exact guardedAsked calm guarded held next
  | endGone gone => exact guarded
  | ended held release => exact guardedEnded guarded held _

def applyAll (t : Table h) (blob : Bytes) (log : Log.Pipeline) (s : Run ω Unit) :
    List Action → Table h × Run ω Unit
  | [] => (t, s)
  | action :: rest =>
    match t.apply blob action log s with
    | (_, t, s) => applyAll t blob log s rest

def roots (t : Table h) : List h.Root := t.sessions.toList.filterMap id

def cursors (t : Table h) : List h.Cursor := t.searches.toList.filterMap (·.map (·.2))

theorem lengthCursors (t : Table h) : t.cursors.length = t.live := by
  rw [cursors, List.length_filterMap_eq_countP, live, ← Array.countP_toList]
  simp only [Option.isSome_map]

theorem cursorsIdle (idle : t.live = 0) : t.cursors = [] :=
  List.eq_nil_of_length_eq_zero (t.lengthCursors.trans idle)

theorem cursorsHeld (single : t.live ≤ 1) {j i : Nat} {c : h.Cursor}
    (held : t.cursor? j = some (i, c)) : t.cursors = [c] := by
  have listed : c ∈ t.cursors := by
    have slot : some (i, c) ∈ t.searches.toList :=
      Array.mem_toList_iff.mpr (Array.mem_of_getElem? (Option.join_eq_some_iff.mp held))
    exact List.mem_filterMap.mpr ⟨_, slot, rfl⟩
  rw [← t.lengthCursors] at single
  rcases same : t.cursors with _ | ⟨c', _ | ⟨c'', more⟩⟩
  · rw [same] at listed
    cases listed
  · rw [same] at listed
    rw [List.mem_singleton.mp listed]
  · rw [same] at single
    simp at single

theorem cursorsSet (single : t.live ≤ 1) {j i : Nat} {c : h.Cursor}
    (held : t.cursor? j = some (i, c)) (c' : h.Cursor) :
    cursors { t with searches := t.searches.set! j (some (i, c')) } = [c'] := by
  have live := Nat.succ.inj (liveSet held (some (i, c')))
  obtain ⟨bound, -⟩ := Array.getElem?_eq_some_iff.mp (Option.join_eq_some_iff.mp held)
  refine cursorsHeld (live ▸ single) (i := i) (j := j) ?_
  rw [cursor?, Array.set!_eq_setIfInBounds, Array.getElem?_setIfInBounds_self_of_lt bound]
  rfl

theorem Guarded.rootsHeld (guarded : Guarded t a) {i : Nat} {root : h.Root}
    (held : t.root? i = some root) : t.roots = [root] := by
  obtain ⟨root', sessions⟩ := guarded.session
  have same : root = root' := by
    have listed := Array.mem_of_getElem? (Option.join_eq_some_iff.mp held)
    rw [sessions] at listed
    simpa using listed
  rw [roots, sessions, same]
  rfl

theorem cursorsBegun (idle : t.live = 0) (i : Nat) (c : h.Cursor) :
    cursors { t with searches := t.searches.push (some (i, c)) } = [c] := by
  have none := cursorsIdle idle
  unfold cursors at none ⊢
  rw [Array.toList_push, List.filterMap_append, none]
  rfl

def Holds (d : Destination Unit) (blob : Bytes) (x : Hands h Unit) (t : Table h)
    (a : Account ω Unit) : Prop :=
  Hands.Leads d blob x a t.roots t.cursors

variable {d : Destination Unit} {blob : Bytes} {x : Hands h Unit}

theorem holdsLeads {rs : List h.Root} {cs : List h.Cursor} (roots : t.roots = rs)
    (cursors : t.cursors = cs) : Holds d blob x t a ↔ Hands.Leads d blob x a rs cs := by
  rw [Holds, roots, cursors]

theorem holdsUse (guarded : Guarded t a) (holds : Holds d blob x t a) {action : Action}
    (uses : Uses h t a action t' b) : Holds d blob x t' b := by
  cases uses with
  | countGone gone | beginGone gone | nextGone gone | endGone gone => exact holds
  | counted held first second =>
    have roots := guarded.rootsHeld held
    have led := (holdsLeads roots rfl).mp holds
    exact (holdsLeads roots rfl).mpr ((led.fileCount first).fileCount second)
  | refused held begins =>
    have roots := guarded.rootsHeld held
    exact (holdsLeads roots rfl).mpr (((holdsLeads roots rfl).mp holds).begins begins)
  | begun held begins =>
    have roots := guarded.rootsHeld held
    have idle : t.live = 0 := by
      cases begins with
      | begun answer free => exact (standingFree (guarded.phase ▸ free)).2
    have led := (holdsLeads roots (cursorsIdle idle)).mp holds
    refine (holdsLeads ?_ (cursorsBegun idle _ _)).mpr (led.begins begins)
    exact roots
  | @asked j i c r c' w held next =>
    have led := (holdsLeads rfl (cursorsHeld guarded.single held)).mp holds
    have asked := (holdsLeads rfl (cursorsSet guarded.single held c')).mpr (led.nextMatch next)
    rcases r with (e | p) | found
    · exact asked.aborted
    · exact asked
    · exact asked
  | @ended j i c w held release =>
    have led := (holdsLeads rfl (cursorsHeld guarded.single held)).mp holds
    have fewer : live { t with searches := t.searches.set! j none } + 1 = t.live :=
      liveSet held none
    have single := guarded.single
    refine (holdsLeads rfl (cursorsIdle ?_)).mpr (led.endSearch release).searchLeft
    omega

theorem usesKeep (calm : h.NeverPanics) (d : Destination Unit) (blob : Bytes) (x : Hands h Unit)
    (log : Log.Pipeline) {s : Run ω Unit} {uses : List Action}
    (allowed : ∀ action ∈ uses, action.isUse = true) (guarded : Guarded t s.account)
    (holds : Holds d blob x t s.account) :
    Guarded (t.applyAll blob log s uses).1 (t.applyAll blob log s uses).2.account ∧
      Holds d blob x (t.applyAll blob log s uses).1 (t.applyAll blob log s uses).2.account := by
  induction uses generalizing t s with
  | nil => exact ⟨guarded, holds⟩
  | cons action rest ih =>
    obtain ⟨use, allowed⟩ := List.forall_mem_cons.mp allowed
    obtain ⟨r, t', s', applied, uses⟩ := applyUses calm t blob use log s
    rw [applyAll, applied]
    exact ih allowed (guardedUse calm guarded uses) (holdsUse guarded holds uses)

theorem opensTable {log : Log.Pipeline} {s s' : Run ω Unit}
    (opened : ({} : Table h).apply blob .openRoot log s = (.ok (.session 0), t, s')) :
    ∃ root, Opens h (log.enabled .debug) blob s.account (.ok root) s'.account ∧
      t = { sessions := #[some root] } := by
  obtain ⟨r, b, opens, takes⟩ := takesOpen h blob log s.account
  obtain ⟨s'', step, rfl⟩ := takes.contained s rfl
  simp only [apply, step] at opened
  rcases r with stop | root <;> cases opened
  exact ⟨root, opens, rfl⟩

theorem guardedOpened {shown : Bool} {root : h.Root} (opens : Opens h shown blob a (.ok root) b)
    (silent : a.calls = []) : Guarded { sessions := #[some root] } b := by
  have opened : handles b.calls = [.opened] ∧ failed b.calls = false ∧ b.phase = .sessionOpen := by
    cases opens <;> simp [silent, handles, failed, Answer.isError]
  obtain ⟨traced, sound, phase⟩ := opened
  refine ⟨⟨root, rfl⟩, Nat.zero_le 1, ?_, ?_, ?_⟩
  · rw [traced]
    decide
  · rw [traced]
    rfl
  · rw [phase, sound]
    rfl

theorem holdsOpened {shown : Bool} {root : h.Root} (opens : Opens h shown blob a (.ok root) b)
    (leads : Hands.Leads d blob x a [] []) : Holds d blob x { sessions := #[some root] } b :=
  (holdsLeads rfl rfl).mpr (leads.opened opens)

theorem freeIdle (idle : t.live = 0) (i : Nat) : t.isBusy i = false := by
  rw [live, Array.countP_eq_zero] at idle
  rw [isBusy, Array.any_eq_false']
  intro slot listed
  cases slot with
  | none => nofun
  | some slot => exact absurd rfl (idle _ listed)

theorem closesIdle (calm : h.NeverPanics) (blob : Bytes) (log : Log.Pipeline) {s : Run ω Unit}
    (guarded : Guarded t s.account) (idle : t.live = 0) (finished : Bool) :
    ∃ root w t' s', t.roots = [root] ∧ h.close root s.account.world = (.ok (), w) ∧
      t.apply blob (.close 0 finished) log s = (.ok .done, t', s') ∧
      s'.account = (s.account.called w .close .done).sessionLeft
        (if finished then .finished else .abandoned) := by
  obtain ⟨root, sessions⟩ := guarded.session
  have held : t.root? 0 = some root := by rw [root?, sessions]; rfl
  rcases release : h.close root s.account.world with ⟨p | u, w⟩
  · exact absurd release (calm.close _ _ _ _)
  have closes (ending : Ending) : (do Session.close h ending root; pure .done :
      Step ω Unit Reply).Takes log s.account (.ok .done) _ :=
    (takesClose release (feltNothing ending)).bind (Step.takesPure _)
  obtain ⟨s', step, same⟩ := plainlyTakes { t with sessions := t.sessions.set! 0 none }
    (closes (if finished then .finished else .abandoned)) s rfl
  refine ⟨root, w, { t with sessions := t.sessions.set! 0 none }, s', guarded.rootsHeld held,
    release, ?_, same⟩
  simp only [apply, freeIdle idle, held, dropSession, Bool.false_eq_true, if_false]
  exact step

theorem Guarded.told (guarded : Guarded t a) :
    (a.phase = .searchActive ↔ t.live = 1 ∧ failed a.calls = false) ∧
      (a.phase = .sessionOpen ↔ t.live = 0 ∧ failed a.calls = false) ∧
      (a.phase = .failed ↔ failed a.calls = true) := by
  have single := guarded.single
  rw [guarded.phase, standing]
  cases failed a.calls with
  | true => simp
  | false =>
    rcases Nat.le_one_iff_eq_zero_or_eq_one.mp single with idle | active
    · simp [idle]
    · simp [active]

theorem doneLeft {broken : Bool} (stands : a.phase = standing broken 0) (finished : Bool) :
    (a.sessionLeft (if finished then .finished else .abandoned)).phase = .done ↔
      finished = true ∧ broken = false := by
  have dropped : a.aborted.phase ≠ .done := by rw [phaseAborted stands]; nofun
  unfold Account.sessionLeft
  cases finished with
  | false => simpa using dropped
  | true =>
    cases broken with
    | true => simpa [stands, standing, Phase.allows] using dropped
    | false => simp [stands, standing, Phase.allows]

theorem sessionUse (calm : h.NeverPanics) (d : Destination Unit) {blob : Bytes}
    {log : Log.Pipeline} {w : ω} {s s' : Run ω Unit}
    (opened : ({} : Table h).apply blob .openRoot log ⟨w, (), .unopened, #[]⟩ =
      (.ok (.session 0), t, s))
    {uses : List Action} (allowed : ∀ action ∈ uses, action.isUse = true)
    (used : t.applyAll blob log s uses = (t', s')) :
    t'.live ≤ 1 ∧
      (handles s'.calls).count .begun = (handles s'.calls).count .ended + t'.live ∧
      (s'.phase = .searchActive ↔ t'.live = 1 ∧ failed s'.calls = false) ∧
      (s'.phase = .sessionOpen ↔ t'.live = 0 ∧ failed s'.calls = false) ∧
      (s'.phase = .failed ↔ failed s'.calls = true) ∧
      Hands.retrace d blob (⟨w, (), [], []⟩ : Hands h Unit) s'.calls =
        some ⟨s'.world, (), t'.roots, t'.cursors⟩ ∧
      (t'.live = 0 → ∀ finished, ∃ t'' s'',
        t'.apply blob (.close 0 finished) log s' = (.ok .done, t'', s'') ∧
        s''.calls = s'.calls ++ [(.close, .done)] ∧ .closed ∉ handles s'.calls ∧
        (handles s'.calls).count .begun = (handles s'.calls).count .ended ∧
        (s''.phase = .done ↔ finished = true ∧ failed s'.calls = false) ∧
        Hands.retrace d blob (⟨w, (), [], []⟩ : Hands h Unit) s''.calls =
          some ⟨s''.world, (), [], []⟩) := by
  obtain ⟨root, opens, rfl⟩ := opensTable opened
  obtain ⟨guarded, holds⟩ := usesKeep calm d blob ⟨w, (), [], []⟩ log allowed
    (guardedOpened opens rfl) (holdsOpened opens (Hands.Leads.start w () .unopened))
  rw [used] at guarded holds
  obtain ⟨active, idle, broken⟩ := guarded.told
  refine ⟨guarded.single, guarded.paired, active, idle, broken, holds, fun free finished => ?_⟩
  obtain ⟨root', w', t'', s'', left, release, closed, same⟩ :=
    closesIdle calm blob log guarded free finished
  refine ⟨t'', s'', closed, ?_, guarded.unclosed, ?_, ?_, ?_⟩
  · exact (congrArg Account.calls same).trans (Account.callsSessionLeft _ _)
  · have paired := guarded.paired
    rw [free] at paired
    exact paired
  · have stands : (s'.account.called w' .close .done).phase = standing (failed s'.calls) 0 :=
      free ▸ guarded.phase
    have phase : s''.phase = _ := congrArg Account.phase same
    rw [phase]
    exact doneLeft stands finished
  · have led := ((holdsLeads left (cursorsIdle free)).mp holds).close release
    have empty : Hands.Leads d blob (⟨w, (), [], []⟩ : Hands h Unit) s''.account [] [] := by
      rw [same]
      exact led.sessionLeft _
    exact empty

def brokenFile : Bytes := (RootFile.Draft.build ⟨1, none, 0, [⟨"a", 0, 0, 0, .zero⟩]⟩).toOption.getD []

def nowhere : Destination Unit := ⟨fun _ _ => (.ok (), ()), fun _ _ => (.ok (), ()), fun _ => 0⟩

theorem brokenFileUse :
    let opened := ({} : Table RootFile.handler).apply brokenFile .openRoot .bare
      ⟨{}, (), .unopened, #[]⟩
    let used := opened.2.1.applyAll brokenFile .bare opened.2.2
      [.beginSearch 0 "*", .beginSearch 0 "*.txt", .nextMatch 0, .nextMatch 0, .endSearch 0]
    let start : Hands RootFile.handler Unit := ⟨{}, (), [], []⟩
    opened.1 = .ok (.session 0) ∧ handles used.2.calls = [.opened, .begun, .begun, .ended, .ended] ∧
      used.2.phase = .failed ∧ used.2.world = ⟨1, 0, 2, 2⟩ ∧
      start.retrace nowhere brokenFile used.2.calls =
        some ⟨⟨1, 0, 2, 2⟩, (), used.1.roots, []⟩ ∧
      ∃ t s, used.1.apply brokenFile (.close 0 true) .bare used.2 = (.ok .done, t, s) ∧
        s.phase ≠ .done ∧
        start.retrace nowhere brokenFile s.calls = some ⟨s.world, (), [], []⟩ := by
  intro opened used start
  have first : opened = (.ok (.session 0), opened.2.1, opened.2.2) := rfl
  have onward : used = (used.1, used.2) := (Prod.eta _).symm
  obtain ⟨-, -, -, -, broken, held, left⟩ :=
    sessionUse RootFile.neverPanics nowhere first (by decide) onward
  have fault : failed used.2.calls = true := by decide +kernel
  have traced : handles used.2.calls = [.opened, .begun, .begun, .ended, .ended] := by
    decide +kernel
  have world : used.2.world = ⟨1, 0, 2, 2⟩ := by decide +kernel
  have idle : used.1.live = 0 := by decide +kernel
  obtain ⟨t, s, closed, -, -, -, done, gone⟩ := left idle true
  rw [world, cursorsIdle idle] at held
  refine ⟨rfl, traced, broken.mpr fault, world, held, t, s, closed, fun phase => ?_, gone⟩
  rw [(done.mp phase).2] at fault
  cases fault

end RootCatalog.Session.Table
