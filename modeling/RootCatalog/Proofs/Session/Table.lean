import RootCatalog.Proofs.Run.Handles
import RootCatalog.Proofs.Session.Guards
import RootCatalog.Session.Table
/-! The use of one session: searches are begun, asked and ended in any order until the session is let
go of. A use has a relation with one rule for each way it can go, with the answers of the handler as
premises, and from the rules an invariant of the table and the account follows. The handler must not
panic; a panic may leave the slot of a search empty with its cursor not ended. -/
namespace RootCatalog

def Answer.isError : Answer → Bool
  | .error _ => true
  | _ => false

def failed (calls : List (Call × Answer)) : Bool := calls.any (·.2.isError)

def Stop.report : Stop → CatalogError
  | .error e => e
  | .panic p => .internal p.caughtText

theorem Step.Takes.contained {ω δ α : Type} {log : Log.Pipeline} {a b : Account ω δ}
    {x : Step ω δ α} {r : Except Stop α} (takes : x.Takes log a r b) (s : Run ω δ)
    (same : s.account = a) :
    ∃ s', x.contained log s = (r.mapError Stop.report, s') ∧ s'.account = b := by
  obtain ⟨s', step, same'⟩ := takes s same
  unfold Step.contained
  rw [step]
  rcases r with (e | p) | v
  · exact ⟨s', rfl, same'⟩
  · exact ⟨_, rfl, by rw [Run.accountEmit, same']⟩
  · exact ⟨s', rfl, same'⟩

namespace Session.Table

variable {ω : Type} {h : Handler ω}

def live (t : Table h) : Nat := t.searches.countP (·.isSome)

def Action.isUse : Action → Bool
  | .fileCount _ | .beginSearch _ _ | .nextMatch _ | .endSearch _ => true
  | _ => false

inductive Uses (h : Handler ω) (t : Table h) (a : Account ω Unit) :
    Action → Table h → Account ω Unit → Prop
  | countGone {i} (gone : t.root? i = none) : Uses h t a (.fileCount i) t a
  | counted {i root n w n' w'} (held : t.root? i = some root)
      (first : h.fileCount root a.world = (.ok n, w)) (second : h.fileCount root w = (.ok n', w')) :
      Uses h t a (.fileCount i) t
        ((a.called w .fileCount (.count n)).called w' .fileCount (.count n'))
  | beginGone {i mask} (gone : t.root? i = none) : Uses h t a (.beginSearch i mask) t a
  | refused {i mask root stop b} (held : t.root? i = some root)
      (begins : Begins h root mask a (.error stop) b) : Uses h t a (.beginSearch i mask) t b
  | begun {i mask root c b} (held : t.root? i = some root)
      (begins : Begins h root mask a (.ok c) b) :
      Uses h t a (.beginSearch i mask) { t with searches := t.searches.push (some (i, c)) } b
  | nextGone {j} (gone : t.cursor? j = none) : Uses h t a (.nextMatch j) t a
  | asked {j i c r c' w} (held : t.cursor? j = some (i, c))
      (next : h.nextMatch c a.world = (r, c', w)) :
      Uses h t a (.nextMatch j) { t with searches := t.searches.set! j (some (i, c')) }
        ((a.called w .nextMatch (Answer.ofResult Answer.ofMatch r)).judged r)
  | endGone {j} (gone : t.cursor? j = none) : Uses h t a (.endSearch j) t a
  | ended {j i c w} (held : t.cursor? j = some (i, c))
      (release : h.endSearch c a.world = (.ok (), w)) :
      Uses h t a (.endSearch j) { t with searches := t.searches.set! j none }
        (a.called w .endSearch .done).searchLeft

theorem plainlyTakes {log : Log.Pipeline} {a b : Account ω Unit} {x : Step ω Unit Reply}
    {r : Except Stop Reply} (t : Table h) (takes : x.Takes log a r b) (s : Run ω Unit)
    (same : s.account = a) :
    ∃ s', t.plainly x log s = (r.mapError Stop.report, t, s') ∧ s'.account = b := by
  obtain ⟨s', step, same'⟩ := takes.contained s same
  exact ⟨s', by unfold plainly; rw [step], same'⟩

theorem applyUses (calm : h.NeverPanics) (t : Table h) (blob : Bytes) {action : Action}
    (use : action.isUse = true) (log : Log.Pipeline) (s : Run ω Unit) :
    ∃ r t' s', t.apply blob action log s = (r, t', s') ∧ Uses h t s.account action t' s'.account := by
  cases action with
  | openRoot => cases use
  | abort => cases use
  | moveTo p => cases use
  | close i finished => cases use
  | fileCount i =>
    cases held : t.root? i with
    | none => exact ⟨.ok .gone, t, s, by simp only [apply, held], .countGone held⟩
    | some root =>
      rcases first : h.fileCount root s.account.world with ⟨p | n, w⟩
      · exact absurd first (calm.fileCount _ _ _ _)
      rcases second : h.fileCount root w with ⟨p | n', w'⟩
      · exact absurd second (calm.fileCount _ _ _ _)
      have counts : (do
          let first ← Session.fileCount h root
          let second ← Session.fileCount h root
          pure (.counts first second) : Step ω Unit Reply).Takes log s.account
            (.ok (.counts n n')) _ :=
        (takesCount first).bind ((takesCount second).bind (Step.takesPure _))
      obtain ⟨s', step, same⟩ := plainlyTakes t counts s rfl
      refine ⟨_, t, s', by simp only [apply, held]; exact step, ?_⟩
      rw [same]
      exact .counted held first second
  | beginSearch i mask =>
    cases held : t.root? i with
    | none => exact ⟨.ok .gone, t, s, by simp only [apply, held], .beginGone held⟩
    | some root =>
      obtain ⟨stop | c, b, begins, takes⟩ := takesBegin h root mask log s.account
      · obtain ⟨s', step, same⟩ := takes.contained s rfl
        refine ⟨_, t, s', by simp only [apply, held, step]; rfl, ?_⟩
        rw [same]
        exact .refused held begins
      · obtain ⟨s', step, same⟩ := takes.contained s rfl
        refine ⟨_, _, s', by simp only [apply, held, step]; rfl, ?_⟩
        rw [same]
        exact .begun held begins
  | nextMatch j =>
    cases held : t.cursor? j with
    | none => exact ⟨.ok .gone, t, s, by simp only [apply, held], .nextGone held⟩
    | some slot =>
      obtain ⟨i, c⟩ := slot
      rcases next : h.nextMatch c s.account.world with ⟨r, c', w⟩
      obtain ⟨s', step, same⟩ : ∃ s', Session.nextMatch h c log s = (r, c', s') ∧
          s'.account = _ := takesNext next s rfl
      have asked := Uses.asked held next
      rw [← same] at asked
      rcases r with (e | p) | none | x
      · exact ⟨_, _, s', by simp only [apply, held, step]; rfl, asked⟩
      · exact absurd next (calm.nextMatch _ _ _ _ _)
      · exact ⟨_, _, s', by simp only [apply, held, step]; rfl, asked⟩
      · exact ⟨_, _, s', by simp only [apply, held, step]; rfl, asked⟩
  | endSearch j =>
    cases held : t.cursor? j with
    | none => exact ⟨.ok .gone, t, s, by simp only [apply, held], .endGone held⟩
    | some slot =>
      obtain ⟨i, c⟩ := slot
      rcases release : h.endSearch c s.account.world with ⟨p | u, w⟩
      · exact absurd release (calm.endSearch _ _ _ _)
      have ends : (do Session.endSearch h .finished c; pure .done : Step ω Unit Reply).Takes log
          s.account (.ok .done) _ := (takesEndSearch release rfl).bind (Step.takesPure _)
      obtain ⟨s', step, same⟩ := plainlyTakes { t with searches := t.searches.set! j none } ends s rfl
      refine ⟨_, _, s', by simp only [apply, held, dropSearch]; exact step, ?_⟩
      rw [same]
      exact .ended held release

end Session.Table
end RootCatalog
