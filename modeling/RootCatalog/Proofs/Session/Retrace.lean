import RootCatalog.Destination
import RootCatalog.Proofs.Session.Guards
/-! The calls of a run, made over again. The list of calls and answers in a journal could have been
written without a call; it has not been if the same calls, made in their order with the same handler
and destination, give the same answers and lead to the world and the destination of the run. A root
or cursor that is taken lies on top of the others, and a call is about the one on top, which is right
where searches lie within each other and not where two are asked by turns. -/
namespace RootCatalog

structure Hands {ω : Type} (h : Handler ω) (δ : Type) where
  world : ω
  destination : δ
  roots : List h.Root := []
  cursors : List h.Cursor := []

namespace Hands

variable {ω δ : Type} {h : Handler ω} (d : Destination δ) (blob : Bytes)

/-- Makes a call, and tells its answer; a call needs the root or the cursor that it is about. -/
def make (x : Hands h δ) : Call → Option (Answer × Hands h δ)
  | .openRoot =>
    match h.openRoot blob x.world with
    | (r, w) => some (.ofResult (fun _ => .done) r,
        { x with world := w, roots := r.toOption.toList ++ x.roots })
  | .fileCount =>
    x.roots.head?.map fun root =>
      match h.fileCount root x.world with
      | (r, w) => (.ofResult .count (r.mapError .panic), { x with world := w })
  | .beginSearch mask =>
    x.roots.head?.map fun root =>
      match h.beginSearch root mask x.world with
      | (r, w) => (.ofResult (fun _ => .done) r,
          { x with world := w, cursors := r.toOption.toList ++ x.cursors })
  | .nextMatch =>
    x.cursors.head?.map fun c =>
      match h.nextMatch c x.world with
      | (r, c', w) => (.ofResult .ofMatch r, { x with world := w, cursors := c' :: x.cursors.tail })
  | .endSearch =>
    x.cursors.head?.map fun c =>
      match h.endSearch c x.world with
      | (q, w) => (.ofRelease q, { x with world := w, cursors := x.cursors.tail })
  | .close =>
    x.roots.head?.map fun root =>
      match h.close root x.world with
      | (q, w) => (.ofRelease q, { x with world := w, roots := x.roots.tail })
  | .reserve n =>
    match d.reserve n x.destination with
    | (q, t) => some (.ofGiven q, { x with destination := t })
  | .push e =>
    match d.push e x.destination with
    | (q, t) => some (.ofGiven q, { x with destination := t })

def retrace (x : Hands h δ) (calls : List (Call × Answer)) : Option (Hands h δ) :=
  calls.foldlM (fun x (c, r) => do
    let (r', y) ← x.make d blob c
    if r' = r then some y else none) x

variable {d : Destination δ} {blob : Bytes}

theorem retraceMore {x y z : Hands h δ} {calls : List (Call × Answer)} {c : Call} {r : Answer}
    (led : x.retrace d blob calls = some y) (made : y.make d blob c = some (r, z)) :
    x.retrace d blob (calls ++ [(c, r)]) = some z := by
  unfold retrace at led ⊢
  rw [List.foldlM_append, led]
  simp [made]

def Leads (d : Destination δ) (blob : Bytes) (x : Hands h δ) (a : Account ω δ)
    (roots : List h.Root) (cursors : List h.Cursor) : Prop :=
  x.retrace d blob a.calls = some ⟨a.world, a.destination, roots, cursors⟩

namespace Leads

variable {x : Hands h δ} {a b : Account ω δ} {roots : List h.Root} {cursors : List h.Cursor}

theorem start (w : ω) (t : δ) (p : Phase) :
    Leads d blob (⟨w, t, [], []⟩ : Hands h δ) ⟨w, t, p, [], []⟩ [] [] := rfl

theorem openRoot (leads : Leads d blob x a roots cursors) {r : Except Stop h.Root} {w : ω}
    (answer : h.openRoot blob a.world = (r, w)) :
    Leads d blob x (a.called w .openRoot (.ofResult (fun _ => .done) r))
      (r.toOption.toList ++ roots) cursors :=
  retraceMore leads (by simp only [make, answer]; rfl)

theorem fileCount {root : h.Root} (leads : Leads d blob x a (root :: roots) cursors)
    {r : Except Panic UInt32} {w : ω} (answer : h.fileCount root a.world = (r, w)) :
    Leads d blob x (a.called w .fileCount (.ofResult .count (r.mapError .panic))) (root :: roots)
      cursors :=
  retraceMore leads (by simp only [make, List.head?_cons, Option.map_some, answer]; rfl)

theorem beginSearch {root : h.Root} (leads : Leads d blob x a (root :: roots) cursors)
    {mask : String} {r : Except Stop h.Cursor} {w : ω}
    (answer : h.beginSearch root mask a.world = (r, w)) :
    Leads d blob x (a.called w (.beginSearch mask) (.ofResult (fun _ => .done) r)) (root :: roots)
      (r.toOption.toList ++ cursors) :=
  retraceMore leads (by simp only [make, List.head?_cons, Option.map_some, answer]; rfl)

theorem nextMatch {c c' : h.Cursor} (leads : Leads d blob x a roots (c :: cursors))
    {r : Except Stop (Option FileEntry)} {w : ω} (answer : h.nextMatch c a.world = (r, c', w)) :
    Leads d blob x (a.called w .nextMatch (.ofResult .ofMatch r)) roots (c' :: cursors) :=
  retraceMore leads (by simp only [make, List.head?_cons, Option.map_some, answer]; rfl)

theorem endSearch {c : h.Cursor} (leads : Leads d blob x a roots (c :: cursors))
    {q : Except Panic Unit} {w : ω} (answer : h.endSearch c a.world = (q, w)) :
    Leads d blob x (a.called w .endSearch (.ofRelease q)) roots cursors :=
  retraceMore leads (by simp only [make, List.head?_cons, Option.map_some, answer]; rfl)

theorem close {root : h.Root} (leads : Leads d blob x a (root :: roots) cursors)
    {q : Except Panic Unit} {w : ω} (answer : h.close root a.world = (q, w)) :
    Leads d blob x (a.called w .close (.ofRelease q)) roots cursors :=
  retraceMore leads (by simp only [make, List.head?_cons, Option.map_some, answer]; rfl)

theorem reserve (leads : Leads d blob x a roots cursors) {n : UInt64}
    {q : Except CatalogError Unit} {t : δ} (answer : d.reserve n a.destination = (q, t)) :
    Leads d blob x (a.gave t (.reserve n) (.ofGiven q)) roots cursors :=
  retraceMore leads (by simp only [make, answer]; rfl)

theorem push (leads : Leads d blob x a roots cursors) {e : FileEntry}
    {q : Except CatalogError Unit} {t : δ} (answer : d.push e a.destination = (q, t)) :
    Leads d blob x (a.gave t (.push e) (.ofGiven q)) roots cursors :=
  retraceMore leads (by simp only [make, answer]; rfl)

theorem entered (leads : Leads d blob x a roots cursors) (p : Phase) :
    Leads d blob x (a.entered p) roots cursors := leads

theorem aborted (leads : Leads d blob x a roots cursors) :
    Leads d blob x a.aborted roots cursors := by
  unfold Account.aborted
  split
  · exact leads
  · exact leads.entered .failed

theorem searchLeft (leads : Leads d blob x a roots cursors) :
    Leads d blob x a.searchLeft roots cursors := by
  unfold Account.searchLeft
  split
  · exact leads.entered .sessionOpen
  · exact leads

theorem sessionLeft (leads : Leads d blob x a roots cursors) (ending : Ending) :
    Leads d blob x (a.sessionLeft ending) roots cursors := by
  unfold Account.sessionLeft
  split
  · exact leads.entered .done
  · exact leads.aborted

theorem begins {root : h.Root} (leads : Leads d blob x a (root :: roots) cursors) {mask : String}
    {r : Except Stop h.Cursor} (begins : Session.Begins h root mask a r b) :
    Leads d blob x b (root :: roots) (r.toOption.toList ++ cursors) := by
  cases begins with
  | refused answer => exact (leads.beginSearch answer).aborted
  | panicked answer => exact leads.beginSearch answer
  | late answer busy release => exact (leads.beginSearch answer).endSearch release
  | begun answer free => exact (leads.beginSearch answer).entered .searchActive

theorem opened (leads : Leads d blob x a roots cursors) {shown : Bool} {root : h.Root}
    (opens : Session.Opens h shown blob a (.ok root) b) :
    Leads d blob x b (root :: roots) cursors := by
  cases opens with
  | unseen answer fresh quiet => exact (leads.openRoot answer).entered .sessionOpen
  | seen answer fresh loud count =>
    exact ((leads.openRoot answer).entered .sessionOpen).fileCount count

theorem unopened (leads : Leads d blob x a roots cursors) {shown : Bool} {stop : Stop}
    (opens : Session.Opens h shown blob a (.error stop) b) :
    Leads d blob x b roots cursors ∨
      Session.Leaks h shown blob a.world ∧ ∃ root, Leads d blob x b (root :: roots) cursors := by
  cases opens with
  | rejected answer => exact .inl (leads.openRoot answer).aborted
  | panicked answer => exact .inl (leads.openRoot answer)
  | late answer spent release => exact .inl ((leads.openRoot answer).close release)
  | @leaked root w p w' answer fresh loud count =>
    refine .inr ⟨⟨loud, root, w, p, w', answer, count⟩, root, ?_⟩
    exact ((leads.openRoot answer).entered .sessionOpen).fileCount count

end Leads
end Hands
end RootCatalog
