import RootCatalog.Proofs.Run.Account
/-! Steps that logging does not sway: the outcome and what is seen of the run behind a step are the
same in every logging set-up, and so are the events, of which each set-up delivers those that it
records. Calls are left out, since a visible record of an opening makes one more. A panic raises an
event of its own, so calls that may panic have no rule here. -/
namespace RootCatalog

structure Situation (ω δ : Type) where
  world : ω
  destination : δ
  phase : Phase

def Run.situation {ω δ : Type} (s : Run ω δ) : Situation ω δ := ⟨s.world, s.destination, s.phase⟩

def Log.Event.isMajor (e : Log.Event) : Bool := Log.Level.warn.code ≤ e.level.code

namespace Run

variable {ω δ : Type} (s : Run ω δ)

theorem situationEmit (log : Log.Pipeline) (e : Log.Event) :
    (s.emit log e).situation = s.situation := by
  unfold emit
  split <;> rfl

theorem deliveriesEmit (log : Log.Pipeline) (e : Log.Event) :
    (s.emit log e).deliveries = s.deliveries ++ [e].filterMap log.record := by
  unfold emit
  cases recorded : log.record e with
  | none => simp [recorded]
  | some d => simp [recorded, deliveries, note]

theorem deliveriesCall (c : Call) (r : Answer) : (s.note (.call c r)).deliveries = s.deliveries := by
  simp [deliveries, note]

theorem deliveriesPhase (p : Phase) : (s.note (.phase p)).deliveries = s.deliveries := by
  simp [deliveries, note]

end Run

namespace Step

variable {ω δ α β : Type}

/-- In every set-up and from every run in situation `a` the step comes to outcome `r` and situation
`b`, and of the events `told` those are delivered that the set-up records. -/
def Tells (x : Step ω δ α) (a : Situation ω δ) (r : Except Stop α) (b : Situation ω δ)
    (told : List Log.Event) : Prop :=
  ∀ log (s : Run ω δ), s.situation = a → ∃ s', x log s = (r, s') ∧ s'.situation = b ∧
    s'.deliveries = s.deliveries ++ told.filterMap log.record

def Unswayed (x : Step ω δ α) (post : Except Stop α → List Log.Event → Prop) : Prop :=
  ∀ a, ∃ r b told, x.Tells a r b told ∧ post r (told.filter (·.isMajor))

def quiet (_ : Except Stop α) (major : List Log.Event) : Prop := major = []

def surely (r : Except Stop α) (major : List Log.Event) : Prop := major = [] ∧ ∃ v, r = .ok v

variable {a b c : Situation ω δ} {told more : List Log.Event}

theorem tellsSilent {x : Step ω δ α} {r : Except Stop α}
    (step : ∀ log (s : Run ω δ), s.situation = a → ∃ s', x log s = (r, s') ∧ s'.situation = b ∧
      s'.deliveries = s.deliveries) : x.Tells a r b [] := by
  intro log s same
  obtain ⟨s', run, after, none⟩ := step log s same
  exact ⟨s', run, after, by rw [none, List.filterMap_nil, List.append_nil]⟩

theorem tellsPure (v : α) : (pure v : Step ω δ α).Tells a (.ok v) a [] :=
  tellsSilent fun _ s same => ⟨s, rfl, same, rfl⟩

theorem tellsStop (e : Stop) : (stop e : Step ω δ α).Tells a (.error e) a [] :=
  tellsSilent fun _ s same => ⟨s, rfl, same, rfl⟩

theorem tellsResume (r : Except Stop α) : (resume r : Step ω δ α).Tells a r a [] := by
  cases r with
  | error e => exact tellsStop e
  | ok v => exact tellsPure v

theorem tellsEmit (e : Log.Event) : (emit e : Step ω δ Unit).Tells a (.ok ()) a [e] :=
  fun log s same => ⟨_, rfl, by rw [Run.situationEmit, same], Run.deliveriesEmit s log e⟩

theorem tellsPhase : (phase : Step ω δ Phase).Tells a (.ok a.phase) a [] :=
  tellsSilent fun _ s same => ⟨s, by rw [← same]; rfl, same, rfl⟩

theorem tellsEnter (p : Phase) :
    (update fun s => { s with phase := p }.note (.phase p) : Step ω δ Unit).Tells a (.ok ())
      { a with phase := p } [] := by
  refine tellsSilent fun _ s same => ⟨_, rfl, by rw [← same]; rfl, ?_⟩
  exact Run.deliveriesPhase { s with phase := p } p

theorem Tells.bind {x : Step ω δ α} {f : α → Step ω δ β} {v : α} {r : Except Stop β}
    (first : x.Tells a (.ok v) b told) (second : (f v).Tells b r c more) :
    (x >>= f).Tells a r c (told ++ more) := by
  intro log s same
  obtain ⟨s₁, step, same₁, told₁⟩ := first log s same
  obtain ⟨s₂, step₂, same₂, told₂⟩ := second log s₁ same₁
  refine ⟨s₂, by rw [bindApply, step]; exact step₂, same₂, ?_⟩
  rw [told₂, told₁, List.append_assoc, List.filterMap_append]

theorem Tells.stopped {x : Step ω δ α} {f : α → Step ω δ β} {e : Stop}
    (first : x.Tells a (.error e) b told) : (x >>= f).Tells a (.error e) b told := by
  intro log s same
  obtain ⟨s₁, step, same₁, told₁⟩ := first log s same
  exact ⟨s₁, by rw [bindApply, step], same₁, told₁⟩

theorem Tells.outcome {x : Step ω δ α} {r : Except Stop α} (first : x.Tells a r b told) :
    x.outcome.Tells a (.ok r) b told := by
  intro log s same
  obtain ⟨s₁, step, same₁, told₁⟩ := first log s same
  exact ⟨s₁, by rw [Step.outcome, step], same₁, told₁⟩

theorem tellsSettle (a : Situation ω δ) (call : Call) (answer : α → Answer) {r : Except Stop α}
    (w : ω) (calm : ∀ p, r ≠ .error (.panic p)) :
    (settle call answer r w : Step ω δ α).Tells a r { a with world := w } [] := by
  refine tellsSilent fun log s same => ?_
  subst same
  rcases r with (e | p) | v
  · exact ⟨_, rfl, rfl, Run.deliveriesCall { s with world := w } call (.error e)⟩
  · exact absurd rfl (calm p)
  · exact ⟨_, rfl, rfl, Run.deliveriesCall { s with world := w } call (answer v)⟩

theorem tellsAsk {call : Call} {answer : α → Answer} {f : ω → Except Stop α × ω} {r : Except Stop α}
    {w : ω} (answered : f a.world = (r, w)) (calm : ∀ p, r ≠ .error (.panic p)) :
    (ask call answer f : Step ω δ α).Tells a r { a with world := w } [] := by
  intro log s same
  have world : f s.world = (r, w) := by rw [← answered, ← same]; rfl
  obtain ⟨s', step, after⟩ := tellsSettle a call answer w calm log s same
  exact ⟨s', by unfold ask; rw [world]; exact step, after⟩

theorem tellsLetGo (unwinding : Bool) (call : Call) {f : ω → Except Panic Unit × ω} {w : ω}
    (released : f a.world = (.ok (), w)) :
    (letGo unwinding call f : Step ω δ Unit).Tells a (.ok ()) { a with world := w } [] := by
  refine tellsSilent fun log s same => ?_
  subst same
  have released : f s.world = (.ok (), w) := released
  refine ⟨_, by unfold letGo; rw [released]; rfl, rfl, ?_⟩
  exact Run.deliveriesCall { s with world := w } call .done

theorem tellsGive (call : Call) {f : δ → Except CatalogError Unit × δ}
    {r : Except CatalogError Unit} {d : δ} (given : f a.destination = (r, d)) :
    (give call f : Step ω δ Unit).Tells a (r.mapError .error) { a with destination := d } [] := by
  refine tellsSilent fun log s same => ?_
  subst same
  have given : f s.destination = (r, d) := given
  unfold give
  rw [given]
  cases r with
  | error e => exact ⟨_, rfl, rfl, Run.deliveriesCall { s with destination := d } call (.error e)⟩
  | ok u => exact ⟨_, rfl, rfl, Run.deliveriesCall { s with destination := d } call .done⟩

section Unswayed

variable {x : Step ω δ α} {f : α → Step ω δ β} {post : Except Stop β → List Log.Event → Prop}

theorem unswayedPure {post : Except Stop α → List Log.Event → Prop} {v : α}
    (fine : post (.ok v) []) : (pure v : Step ω δ α).Unswayed post :=
  fun a => ⟨_, a, [], tellsPure v, fine⟩

theorem unswayedStop {post : Except Stop α → List Log.Event → Prop} {e : Stop}
    (fine : post (.error e) []) : (stop e : Step ω δ α).Unswayed post :=
  fun a => ⟨_, a, [], tellsStop e, fine⟩

theorem unswayedResume {post : Except Stop α → List Log.Event → Prop} {r : Except Stop α}
    (fine : post r []) : (resume r : Step ω δ α).Unswayed post :=
  fun a => ⟨r, a, [], tellsResume r, fine⟩

theorem unswayedEmit {e : Log.Event} (minor : e.isMajor = false) :
    (emit e : Step ω δ Unit).Unswayed surely :=
  fun a => ⟨_, a, [e], tellsEmit e, by simp [minor], (), rfl⟩

theorem unswayedPhase : (phase : Step ω δ Phase).Unswayed surely :=
  fun a => ⟨_, a, [], tellsPhase, rfl, _, rfl⟩

theorem unswayedReading {f : Phase → Step ω δ β} (each : ∀ a : Situation ω δ, ∃ r b told,
    (f a.phase).Tells a r b told ∧ post r (told.filter (·.isMajor))) :
    (phase >>= f).Unswayed post := by
  intro a
  obtain ⟨r, b, told, tells, holds⟩ := each a
  exact ⟨r, b, told, tellsPhase.bind tells, holds⟩

theorem unswayedEnter (p : Phase) :
    (update fun s => { s with phase := p }.note (.phase p) : Step ω δ Unit).Unswayed surely :=
  fun a => ⟨_, { a with phase := p }, [], tellsEnter p, rfl, (), rfl⟩

theorem Unswayed.weaken {post post' : Except Stop α → List Log.Event → Prop}
    (told : x.Unswayed post) (weaker : ∀ r major, post r major → post' r major) :
    x.Unswayed post' := by
  intro a
  obtain ⟨r, b, events, tells, holds⟩ := told a
  exact ⟨r, b, events, tells, weaker _ _ holds⟩

theorem Unswayed.quietly (told : x.Unswayed surely) : x.Unswayed quiet :=
  told.weaken fun _ _ holds => holds.1

theorem Unswayed.bind {post₁ : Except Stop α → List Log.Event → Prop} (first : x.Unswayed post₁)
    (second : ∀ v major, post₁ (.ok v) major →
      (f v).Unswayed fun r more => post r (major ++ more))
    (stopped : ∀ e major, post₁ (.error e) major → post (.error e) major) :
    (x >>= f).Unswayed post := by
  intro a
  obtain ⟨e | v, b, told, tells, holds⟩ := first a
  · exact ⟨_, b, told, tells.stopped, stopped e _ holds⟩
  · obtain ⟨r, c, more, tells', holds'⟩ := second v _ holds b
    exact ⟨r, c, told ++ more, tells.bind tells', by rwa [List.filter_append]⟩

theorem Unswayed.quietThen (first : x.Unswayed quiet) (second : ∀ v, (f v).Unswayed post)
    (stopped : ∀ e, post (.error e) []) : (x >>= f).Unswayed post := by
  refine first.bind (fun v major none => ?_) fun e major none => ?_
  · rw [show major = [] from none]
    exact second v
  · rw [show major = [] from none]
    exact stopped e

theorem Unswayed.surelyThen (first : x.Unswayed surely) (second : ∀ v, (f v).Unswayed post) :
    (x >>= f).Unswayed post := by
  refine first.bind (fun v major none => ?_) fun e major none => ?_
  · rw [none.1]
    exact second v
  · obtain ⟨v, same⟩ := none.2
    cases same

theorem Unswayed.outcome {post₁ : Except Stop α → List Log.Event → Prop} (told : x.Unswayed post₁) :
    x.outcome.Unswayed fun r major => ∃ q, r = .ok q ∧ post₁ q major := by
  intro a
  obtain ⟨r, b, events, tells, holds⟩ := told a
  exact ⟨_, b, events, tells.outcome, r, rfl, holds⟩

theorem Unswayed.onError {clean : CatalogError → Step ω δ Unit} (told : x.Unswayed quiet)
    (cleaned : ∀ e, (clean e).Unswayed quiet) : (x.onError clean).Unswayed quiet := by
  refine told.outcome.bind (fun r major holds => ?_) fun e major holds => ?_
  · obtain ⟨q, same, none⟩ := holds
    cases same
    rw [show major = [] from none]
    rcases r with (e | p) | v
    · exact (cleaned e).quietThen (fun _ => unswayedStop rfl) fun _ => rfl
    · exact unswayedStop rfl
    · exact unswayedPure rfl
  · obtain ⟨q, same, none⟩ := holds
    cases same

theorem unswayedSettle (call : Call) (answer : α → Answer) {r : Except Stop α} (w : ω)
    (calm : ∀ p, r ≠ .error (.panic p)) : (settle call answer r w : Step ω δ α).Unswayed quiet :=
  fun a => ⟨r, { a with world := w }, [], tellsSettle a call answer w calm, rfl⟩

theorem unswayedAsk {call : Call} {answer : α → Answer} {f : ω → Except Stop α × ω}
    (calm : ∀ w p, (f w).1 ≠ .error (.panic p)) : (ask call answer f : Step ω δ α).Unswayed quiet :=
  fun a => ⟨_, { a with world := (f a.world).2 }, [], tellsAsk rfl (calm a.world), rfl⟩

theorem unswayedLetGo (unwinding : Bool) {call : Call} {f : ω → Except Panic Unit × ω}
    (calm : ∀ w p, (f w).1 ≠ .error p) :
    (letGo unwinding call f : Step ω δ Unit).Unswayed surely := by
  intro a
  rcases released : f a.world with ⟨p | u, w⟩
  · exact absurd (congrArg Prod.fst released) (calm a.world p)
  · exact ⟨_, _, [], tellsLetGo unwinding call released, rfl, (), rfl⟩

theorem unswayedGive (call : Call) (f : δ → Except CatalogError Unit × δ) :
    (give call f : Step ω δ Unit).Unswayed quiet :=
  fun _ => ⟨_, _, [], tellsGive call rfl, rfl⟩

end Unswayed
end Step
end RootCatalog
