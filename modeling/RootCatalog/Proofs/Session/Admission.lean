import RootCatalog.Proofs.Session.Table
import RootCatalog.RootFile.Handler
/-! How often one call admits a session. Sessions of several handlers are opened, searched and let go
of in any order, with panics anywhere. The first phase never comes back, and a session is admitted in
it or while a search is live, because an opening makes the same move of the phase as the end of a
search; in every other phase an accepted root is closed at once. -/
namespace RootCatalog

/-- Several handlers as one. The second part of the world is the handler that opens next. -/
def Handler.family {ι ω : Type} (hs : ι → Handler ω) : Handler (ω × ι) where
  Root := Σ i, (hs i).Root
  Cursor := Σ i, (hs i).Cursor
  openRoot blob w := match (hs w.2).openRoot blob w.1 with
    | (r, w') => (r.map fun root => ⟨w.2, root⟩, w', w.2)
  fileCount root w := match (hs root.1).fileCount root.2 w.1 with
    | (r, w') => (r, w', w.2)
  beginSearch root mask w := match (hs root.1).beginSearch root.2 mask w.1 with
    | (r, w') => (r.map fun cursor => ⟨root.1, cursor⟩, w', w.2)
  nextMatch cursor w := match (hs cursor.1).nextMatch cursor.2 w.1 with
    | (r, cursor', w') => (r, ⟨cursor.1, cursor'⟩, w', w.2)
  endSearch cursor w := match (hs cursor.1).endSearch cursor.2 w.1 with
    | (r, w') => (r, w', w.2)
  close root w := match (hs root.1).close root.2 w.1 with
    | (r, w') => (r, w', w.2)

theorem Phase.admits {p : Phase} :
    p.allows .sessionOpen = true ↔ p = .unopened ∨ p = .searchActive := by
  cases p <;> decide

namespace Step

variable {ω δ α β : Type}

def Onward (x : Step ω δ α) : Prop :=
  ∀ log (s : Run ω δ), s.phase ≠ .unopened → (x log s).2.phase ≠ .unopened

theorem onwardPure (v : α) : (pure v : Step ω δ α).Onward := fun _ _ begun => begun

theorem onwardStop (e : Stop) : (stop e : Step ω δ α).Onward := fun _ _ begun => begun

theorem onwardPhase : (phase : Step ω δ Phase).Onward := fun _ _ begun => begun

theorem onwardEmit (e : Log.Event) : (emit e : Step ω δ Unit).Onward := by
  intro log s begun
  change (s.emit log e).phase ≠ _
  rwa [Run.phaseEmit]

theorem onwardEnter {p : Phase} (begun : p ≠ .unopened) :
    (update fun s => { s with phase := p }.note (.phase p) : Step ω δ Unit).Onward :=
  fun _ _ _ => begun

theorem Onward.bind {x : Step ω δ α} {f : α → Step ω δ β} (first : x.Onward)
    (second : ∀ v, (f v).Onward) : (x >>= f).Onward := by
  intro log s begun
  have kept := first log s begun
  rw [bindApply]
  generalize x log s = ran at kept ⊢
  rcases ran with ⟨stop | v, s'⟩
  · exact kept
  · exact second v log s' kept

theorem Onward.outcome {x : Step ω δ α} (first : x.Onward) : x.outcome.Onward := first

theorem Onward.onError {x : Step ω δ α} {clean : CatalogError → Step ω δ Unit} (first : x.Onward)
    (cleaned : ∀ e, (clean e).Onward) : (x.onError clean).Onward := by
  refine first.outcome.bind fun r => ?_
  rcases r with (e | p) | v
  · exact (cleaned e).bind fun _ => onwardStop _
  · exact onwardStop _
  · exact onwardPure v

theorem onwardSettle (call : Call) (answer : α → Answer) (r : Except Stop α) (w : ω) :
    (settle call answer r w : Step ω δ α).Onward := by
  intro log s begun
  rcases r with (e | p) | v
  · exact begun
  · change (({ s with world := w }.note (.call call (.panic p))).emit log p.raisedEvent).phase ≠ _
    rwa [Run.phaseEmit]
  · exact begun

theorem onwardAsk (call : Call) (answer : α → Answer) (f : ω → Except Stop α × ω) :
    (ask call answer f : Step ω δ α).Onward := by
  intro log s begun
  exact onwardSettle call answer (f s.world).1 (f s.world).2 log s begun

theorem onwardLetGo (unwinding : Bool) (call : Call) (f : ω → Except Panic Unit × ω) :
    (letGo unwinding call f : Step ω δ Unit).Onward := by
  intro log s begun
  unfold letGo
  rcases f s.world with ⟨p | u, w⟩
  · cases unwinding with
    | true => exact begun
    | false => exact onwardSettle call (fun _ => .done) (.error (.panic p)) w log s begun
  · exact onwardSettle call _ _ w log s begun

theorem Onward.contained {x : Step ω δ α} (onward : x.Onward) (log : Log.Pipeline) {s : Run ω δ}
    (begun : s.phase ≠ .unopened) : (x.contained log s).2.phase ≠ .unopened := by
  have kept := onward log s begun
  unfold Step.contained
  generalize x log s = ran at kept ⊢
  rcases ran with ⟨(e | p) | v, s'⟩
  · exact kept
  · change (s'.emit log p.caughtEvent).phase ≠ _
    rwa [Run.phaseEmit]
  · exact kept

end Step

namespace Session

variable {ω δ : Type}

open Step (onwardPure onwardStop onwardPhase onwardEmit onwardEnter onwardAsk onwardLetGo)

theorem onwardMove (p : Phase) : (moveTo p : Step ω δ Unit).Onward := by
  refine onwardPhase.bind fun current => ?_
  split
  · rename_i allowed
    have begun : p ≠ .unopened := by
      rintro rfl
      cases current <;> cases allowed
    exact (onwardEmit _).bind fun _ => onwardEnter begun
  · exact onwardStop _

theorem onwardAbort : (abort : Step ω δ Unit).Onward := by
  refine onwardPhase.bind fun current => ?_
  split
  · exact onwardPure ()
  · exact (onwardEmit _).bind fun _ => onwardEnter nofun

variable (h : Handler ω)

theorem onwardCount (root : h.Root) : (fileCount h root : Step ω δ UInt32).Onward :=
  onwardAsk _ _ _

theorem onwardBegin (root : h.Root) (mask : String) :
    (beginSearch h root mask : Step ω δ h.Cursor).Onward := by
  refine ((onwardAsk _ _ _).onError fun _ => onwardAbort).bind fun cursor => ?_
  refine ((onwardMove _).onError fun _ => onwardLetGo _ _ _).bind fun _ => ?_
  exact (onwardEmit _).bind fun _ => onwardPure cursor

theorem onwardNext (cursor : h.Cursor) (log : Log.Pipeline) {s : Run ω δ}
    (begun : s.phase ≠ .unopened) :
    (nextMatch h cursor log s).2.2.phase ≠ .unopened := by
  have judged (r : Except Stop (Option FileEntry)) (w : ω) :
      ((Step.settle .nextMatch Answer.ofMatch r w).onError (fun e => do
        Step.emit (event .debug "search aborted" [("error", e.message)])
        abort) : Step ω δ _).Onward :=
    (Step.onwardSettle _ _ r w).onError fun _ => (onwardEmit _).bind fun _ => onwardAbort
  exact judged (h.nextMatch cursor s.world).1 (h.nextMatch cursor s.world).2.2 log s begun

theorem onwardEndSearch (ending : Ending) (cursor : h.Cursor) :
    (endSearch h ending cursor : Step ω δ Unit).Onward := by
  refine (onwardLetGo _ _ _).bind fun _ => onwardPhase.bind fun current => ?_
  split
  · exact (onwardMove _).bind fun _ => onwardEmit _
  · exact onwardEmit _

theorem onwardClose (ending : Ending) (root : h.Root) :
    (close h ending root : Step ω δ Unit).Onward := by
  refine (onwardLetGo _ _ _).bind fun _ => onwardPhase.bind fun current => ?_
  split
  · exact (onwardMove _).bind fun _ => onwardEmit _
  · exact onwardAbort.bind fun _ => onwardEmit _

namespace Table

variable {h}

theorem onwardPlainly (t : Table h) {x : Step ω Unit Reply} (onward : x.Onward)
    (log : Log.Pipeline) {s : Run ω Unit} (begun : s.phase ≠ .unopened) :
    (t.plainly x log s).2.2.phase ≠ .unopened :=
  onward.contained log begun

theorem onwardApply (t : Table h) (blob : Bytes) {action : Action} (other : action ≠ .openRoot)
    (log : Log.Pipeline) {s : Run ω Unit} (begun : s.phase ≠ .unopened) :
    (t.apply blob action log s).2.2.phase ≠ .unopened := by
  cases action with
  | openRoot => exact absurd rfl other
  | abort => exact t.onwardPlainly (onwardAbort.bind fun _ => onwardPure _) log begun
  | moveTo p => exact t.onwardPlainly ((onwardMove p).bind fun _ => onwardPure _) log begun
  | fileCount i =>
    cases held : t.root? i with
    | none => simpa only [apply, held] using begun
    | some root =>
      have counts : (do
          let first ← fileCount h root
          let second ← fileCount h root
          pure (.counts first second) : Step ω Unit Reply).Onward :=
        (onwardCount h root).bind fun _ => (onwardCount h root).bind fun _ => onwardPure _
      simpa only [apply, held] using t.onwardPlainly counts log begun
  | beginSearch i mask =>
    cases held : t.root? i with
    | none => simpa only [apply, held] using begun
    | some root =>
      have kept := (onwardBegin h root mask).contained log begun
      simp only [apply, held]
      generalize (beginSearch h root mask).contained log s = ran at kept ⊢
      rcases ran with ⟨e | cursor, s'⟩ <;> exact kept
  | nextMatch j =>
    cases held : t.cursor? j with
    | none => simpa only [apply, held] using begun
    | some slot =>
      have kept := onwardNext h slot.2 log begun
      simp only [apply, held]
      generalize nextMatch h slot.2 log s = ran at kept ⊢
      rcases ran with ⟨(e | p) | none | x, c', s'⟩
      · exact kept
      · change (s'.emit log p.caughtEvent).phase ≠ _
        rwa [Run.phaseEmit]
      · exact kept
      · exact kept
  | endSearch j =>
    cases held : t.cursor? j with
    | none => simpa only [apply, held] using begun
    | some slot =>
      simp only [apply, held]
      exact onwardPlainly _ ((onwardEndSearch h _ _).bind fun _ => onwardPure _) log begun
  | close i finished =>
    cases busy : t.isBusy i with
    | true => simpa only [apply, busy, if_true] using begun
    | false =>
      simp only [apply, busy, Bool.false_eq_true, if_false]
      cases held : t.root? i with
      | none => exact begun
      | some root =>
        exact onwardPlainly _ ((onwardClose h _ _).bind fun _ => onwardPure _) log begun

structure Move (ι : Type) where
  kind : ι
  blob : Bytes
  action : Action

structure Turn where
  action : Action
  phase : Phase
  reply : Except CatalogError Reply
  calls : List (Call × Answer)

def Turn.admitted (turn : Turn) : Bool :=
  match turn.action, turn.reply with
  | .openRoot, .ok _ => true
  | _, _ => false

def Turn.amidSearch (turn : Turn) : Bool := turn.action = .openRoot && turn.phase = .searchActive

def play {ι : Type} {hs : ι → Handler ω} (t : Table (.family hs)) (log : Log.Pipeline)
    (s : Run (ω × ι) Unit) : List (Move ι) → List Turn
  | [] => []
  | move :: moves =>
    match t.apply move.blob move.action log { s with world := (s.world.1, move.kind) } with
    | (reply, t, s') =>
      ⟨move.action, s.phase, reply, s'.calls.drop s.calls.length⟩ :: play t log s' moves

inductive Admits : Phase → List Turn → Prop
  | nil (p) : Admits p []
  | admitted {p slot calls later} (free : p = .unopened ∨ p = .searchActive)
      (onward : Admits .sessionOpen later) :
      Admits p (⟨.openRoot, p, .ok (.session slot), calls⟩ :: later)
  | uncounted {p e panic later} (free : p = .unopened ∨ p = .searchActive)
      (onward : Admits .sessionOpen later) :
      Admits p (⟨.openRoot, p, .error e, [(.openRoot, .done), (.fileCount, .panic panic)]⟩ :: later)
  | rejected {p q e answer later} (unaccepted : answer ≠ .done)
      (begun : p ≠ .unopened → q ≠ .unopened) (onward : Admits q later) :
      Admits p (⟨.openRoot, p, .error e, [(.openRoot, answer)]⟩ :: later)
  | closed {p e answer later} (spent : ¬ (p = .unopened ∨ p = .searchActive))
      (onward : Admits p later) :
      Admits p (⟨.openRoot, p, .error e, [(.openRoot, .done), (.close, answer)]⟩ :: later)
  | other {p q action reply calls later} (apart : action ≠ .openRoot)
      (begun : p ≠ .unopened → q ≠ .unopened) (onward : Admits q later) :
      Admits p (⟨action, p, reply, calls⟩ :: later)

theorem begunAborted {δ : Type} {a : Account ω δ} (begun : a.phase ≠ .unopened) :
    a.aborted.phase ≠ .unopened := by
  unfold Account.aborted
  split
  · exact begun
  · nofun

theorem opensTurn (t : Table h) (blob : Bytes) (log : Log.Pipeline) (s : Run ω Unit)
    {later : List Turn} {reply : Except CatalogError Reply} {t' : Table h} {s' : Run ω Unit}
    (opened : t.apply blob .openRoot log s = (reply, t', s')) (onward : Admits s'.phase later) :
    Admits s.phase (⟨.openRoot, s.phase, reply, s'.calls.drop s.calls.length⟩ :: later) := by
  obtain ⟨r, b, opens, takes⟩ := takesOpen h blob log s.account
  obtain ⟨s'', step, same⟩ := takes.contained s rfl
  have added (calls : List (Call × Answer)) (more : b.calls = s.account.calls ++ calls) :
      s''.calls.drop s.calls.length = calls := by
    rw [show s''.calls = _ from (congrArg Account.calls same).trans more]
    exact List.drop_left
  have phase : s''.phase = b.phase := congrArg Account.phase same
  simp only [apply, step] at opened
  cases opens with
  | @rejected e w answer =>
    cases opened
    rw [added [(.openRoot, .error e)] (by simp)]
    refine .rejected (by rintro ⟨⟩) (fun begun => ?_) onward
    rw [phase]
    exact begunAborted begun
  | @panicked p w answer =>
    cases opened
    rw [added [(.openRoot, .panic p)] rfl]
    exact .rejected (by rintro ⟨⟩) (fun begun => by rwa [phase]) onward
  | @late root w q w' answer spent release =>
    cases opened
    rw [added [(.openRoot, .done), (.close, .ofRelease q)] (by simp)]
    rw [phase] at onward
    exact .closed (fun free => Bool.false_ne_true (spent.symm.trans (Phase.admits.mpr free))) onward
  | unseen answer fresh quiet =>
    cases opened
    rw [phase] at onward
    exact .admitted (Phase.admits.mp fresh) onward
  | seen answer fresh loud count =>
    cases opened
    rw [phase] at onward
    exact .admitted (Phase.admits.mp fresh) onward
  | @leaked root w p w' answer fresh loud count =>
    cases opened
    rw [added [(.openRoot, .done), (.fileCount, .panic p)] (by simp)]
    rw [phase] at onward
    exact .uncounted (Phase.admits.mp fresh) onward

theorem played {ι : Type} {hs : ι → Handler ω} (t : Table (.family hs)) (log : Log.Pipeline)
    (s : Run (ω × ι) Unit) (moves : List (Move ι)) : Admits s.phase (t.play log s moves) := by
  induction moves generalizing t s with
  | nil => exact .nil _
  | cons move moves ih =>
    rw [play]
    rcases applied : t.apply move.blob move.action log { s with world := (s.world.1, move.kind) }
      with ⟨reply, t', s'⟩
    by_cases opening : move.action = .openRoot
    · rw [opening] at applied ⊢
      exact opensTurn t move.blob log { s with world := (s.world.1, move.kind) } applied (ih t' s')
    · refine .other opening (fun begun => ?_) (ih t' s')
      have kept := onwardApply t move.blob opening log
        (s := { s with world := (s.world.1, move.kind) }) begun
      rwa [applied] at kept

def unspent (p : Phase) : Nat := if p = .unopened then 1 else 0

theorem unspentOnward {p q : Phase} (begun : p ≠ .unopened → q ≠ .unopened) :
    unspent q ≤ unspent p := by
  unfold unspent
  split
  next fresh =>
    have spared : p = .unopened := Decidable.not_not.mp (mt begun (not_not_intro fresh))
    exact Nat.le_of_eq (if_pos spared).symm
  next => exact Nat.zero_le _

theorem admissions {p : Phase} {turns : List Turn} (admits : Admits p turns) :
    turns.countP Turn.admitted ≤ unspent p + turns.countP Turn.amidSearch := by
  induction admits with
  | nil p => exact Nat.zero_le _
  | @admitted p slot calls later free onward ih =>
    have spent : unspent .sessionOpen = 0 := rfl
    rw [List.countP_cons_of_pos rfl, List.countP_cons]
    -- The first phase is left for good, so the one session it is good for is spent here.
    rcases free with rfl | rfl
    · have fresh : unspent .unopened = 1 := rfl
      omega
    · have amid :
          Turn.amidSearch ⟨.openRoot, .searchActive, .ok (.session slot), calls⟩ = true := rfl
      rw [if_pos amid]
      omega
  | uncounted free onward ih =>
    have spent : unspent .sessionOpen = 0 := rfl
    rw [List.countP_cons_of_neg Bool.false_ne_true, List.countP_cons]
    omega
  | rejected unaccepted begun onward ih =>
    have kept := unspentOnward begun
    rw [List.countP_cons_of_neg Bool.false_ne_true, List.countP_cons]
    omega
  | closed spent onward ih =>
    rw [List.countP_cons_of_neg Bool.false_ne_true, List.countP_cons]
    omega
  | @other p q action reply calls later apart begun onward ih =>
    have kept := unspentOnward begun
    have plain : ¬ Turn.admitted ⟨action, p, reply, calls⟩ = true := by
      cases action with
      | openRoot => exact absurd rfl apart
      | _ => exact Bool.false_ne_true
    rw [List.countP_cons_of_neg plain, List.countP_cons]
    omega

structure Turn.Opened (turn : Turn) : Prop where
  free : (turn.phase = .unopened ∨ turn.phase = .searchActive) → (.openRoot, .done) ∈ turn.calls →
    (∃ slot, turn.reply = .ok (.session slot)) ∨ ∃ p, (.fileCount, .panic p) ∈ turn.calls
  spent : ¬ (turn.phase = .unopened ∨ turn.phase = .searchActive) →
    (∃ e, turn.reply = .error e) ∧ ((.openRoot, .done) ∈ turn.calls →
      ∃ answer, turn.calls = [(.openRoot, .done), (.close, answer)])

theorem openings {p : Phase} {turns : List Turn} (admits : Admits p turns) :
    ∀ turn ∈ turns, turn.action = .openRoot → turn.Opened := by
  induction admits with
  | nil p => exact List.forall_mem_nil _
  | @admitted p slot calls later free onward ih =>
    refine List.forall_mem_cons.mpr ⟨fun _ => ⟨fun _ _ => .inl ⟨slot, rfl⟩, ?_⟩, ih⟩
    exact fun spent => (spent free).elim
  | @uncounted p e panic later free onward ih =>
    refine List.forall_mem_cons.mpr ⟨fun _ => ⟨fun _ _ => .inr ⟨panic, ?_⟩, ?_⟩, ih⟩
    · simp
    · exact fun spent => (spent free).elim
  | @rejected p q e answer later unaccepted begun onward ih =>
    have none : (.openRoot, .done) ∉ [((.openRoot, answer) : Call × Answer)] := by
      simpa using unaccepted.symm
    refine List.forall_mem_cons.mpr ⟨fun _ => ⟨?_, ?_⟩, ih⟩
    · exact fun _ accepted => absurd accepted none
    · exact fun _ => ⟨⟨e, rfl⟩, fun accepted => absurd accepted none⟩
  | @closed p e answer later spent onward ih =>
    refine List.forall_mem_cons.mpr ⟨fun _ => ⟨?_, ?_⟩, ih⟩
    · exact fun free => (spent free).elim
    · exact fun _ => ⟨⟨e, rfl⟩, fun _ => ⟨answer, rfl⟩⟩
  | other apart begun onward ih =>
    exact List.forall_mem_cons.mpr ⟨fun opening => absurd opening apart, ih⟩

theorem sessionAdmission {ι : Type} (hs : ι → Handler ω) (t : Table (.family hs))
    (log : Log.Pipeline) (s : Run (ω × ι) Unit) (moves : List (Move ι)) :
    (t.play log s moves).countP Turn.admitted ≤
      (if s.phase = .unopened then 1 else 0) + (t.play log s moves).countP Turn.amidSearch ∧
    ∀ turn ∈ t.play log s moves, turn.action = .openRoot → turn.Opened :=
  ⟨admissions (played t log s moves), openings (played t log s moves)⟩

def emptyFile : Bytes := (RootFile.Draft.build ⟨1, none, 0, []⟩).toOption.getD []

theorem sessionAmidSearch :
    let start : Run (RootFile.Stats × Unit) Unit := ⟨({}, ()), (), .unopened, #[]⟩
    let turns := ({} : Table (.family fun _ : Unit => RootFile.handler)).play .bare start
      [⟨(), emptyFile, .openRoot⟩, ⟨(), emptyFile, .beginSearch 0 "*"⟩, ⟨(), emptyFile, .openRoot⟩]
    turns.map (·.reply.toOption) = [some (.session 0), some (.search 0), some (.session 1)] ∧
      turns.map Turn.phase = [.unopened, .sessionOpen, .searchActive] ∧
      turns.countP Turn.admitted = 2 := by
  intro start turns
  refine ⟨?_, ?_, ?_⟩ <;> decide +kernel

end Table
end Session
end RootCatalog
