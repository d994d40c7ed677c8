import RootCatalog.Proofs.Enumeration.Course
/-! What a pass comes to, told by the answers of the handler and by what the destination refuses. The
handler's answers must not depend on its world, and no call may panic; then passes that differ in the
world, the log or the destination come to one verdict as far as no entry is refused. The room for the
entries is a premise. What is called on the way is not told here. -/
namespace RootCatalog

variable {ω δ : Type}

/-- What a destination holds, whether so many more entries can come, and which it refuses. -/
structure Destination.Holding (d : Destination δ) where
  held : δ → List FileEntry
  room : δ → Nat → Prop
  refusal : FileEntry → Option CatalogError
  length : ∀ s, d.length s = (held s).length
  few : ∀ {s n}, room s n → (held s).length + n < UInt32.size
  reserved : ∀ {s n} (count : UInt64), room s n → held s = [] → count.toNat < UInt32.size →
    ∃ t, d.reserve count s = (.ok (), t) ∧ held t = [] ∧ room t n
  accepted : ∀ {s n e}, room s (n + 1) → refusal e = none →
    ∃ t, d.push e s = (.ok (), t) ∧ held t = held s ++ [e] ∧ room t n
  refused : ∀ {s n e error}, room s (n + 1) → refusal e = some error →
    ∃ t, d.push e s = (.error error, t)

namespace Enumeration

def accepted (refusal : FileEntry → Option CatalogError)
    (found : List FileEntry × Except Stop Unit) : Except Stop (List FileEntry) :=
  match found.1.findSome? refusal with
  | some e => .error (.error e)
  | none => found.2.map fun _ => found.1

theorem acceptedRefused {refusal : FileEntry → Option CatalogError} {x : FileEntry}
    {error : CatalogError} {found : List FileEntry} {ending : Except Stop Unit}
    (refused : refusal x = some error) :
    accepted refusal (x :: found, ending) = .error (.error error) := by
  rw [accepted, List.findSome?_cons, refused]

theorem acceptedMore {refusal : FileEntry → Option CatalogError} {x : FileEntry}
    (found : List FileEntry × Except Stop Unit) (before : List FileEntry)
    (fine : refusal x = none) :
    (accepted refusal (x :: found.1, found.2)).map (before ++ ·) =
      (accepted refusal found).map (before ++ [x] ++ ·) := by
  rw [accepted, List.findSome?_cons, fine, accepted]
  cases found.1.findSome? refusal with
  | some e => rfl
  | none => cases found.2 <;> simp [Except.map]

instance (config : Config) (declared yielded : UInt32) :
    Decidable (Mismatch config declared yielded) :=
  inferInstanceAs (Decidable (_ ∧ _ ∧ _))

def tallied (config : Config) (declared : UInt32) (found : List FileEntry) :
    Except Stop (List FileEntry) :=
  if Mismatch config declared (UInt32.ofNat found.length) then
    .error (.error (.entryCountMismatch declared (UInt32.ofNat found.length)))
  else .ok found

def rootVerdict (h : Handler ω) (refusal : FileEntry → Option CatalogError) (config : Config)
    (root : h.Root) (w : ω) (found : List FileEntry × Except Stop Unit) :
    Except Stop (List FileEntry) := do
  let declared ← (h.fileCount root w).1.mapError .panic
  let listed ← accepted refusal found
  tallied config declared listed

def verdict (h : Handler ω) (refusal : FileEntry → Option CatalogError) (config : Config)
    (blob : Bytes) (w : ω) (found : List FileEntry × Except Stop Unit) :
    Except Stop (List FileEntry) := do
  let root ← (h.openRoot blob w).1
  rootVerdict h refusal config root w found

section Verdicts

variable {h : Handler ω} {refusal : FileEntry → Option CatalogError} {config : Config}
  {blob : Bytes} {mask : String} {w : ω} {found : List FileEntry} {ending : Except Stop Unit}

theorem verdictOpened {root : h.Root} {w' : ω} (answer : h.openRoot blob w = (.ok root, w')) :
    verdict h refusal config blob w (found, ending) =
      rootVerdict h refusal config root w (found, ending) := by
  rw [verdict, answer]
  rfl

theorem verdictRefused (calm : h.NeverPanics) (sought : h.Sought blob mask w found ending)
    {e : CatalogError} (refused : found.findSome? refusal = some e) :
    verdict h refusal config blob w (found, ending) = .error (.error e) := by
  cases sought with
  | unopened answer => cases refused
  | @opened root w' found ending answer searched =>
    rw [verdictOpened answer]
    rcases count : h.fileCount root w with ⟨p | n, w'⟩
    · exact absurd count (calm.fileCount _ _ _ _)
    · rw [rootVerdict, count, accepted, refused]
      rfl

theorem verdictAccepted (fine : found.findSome? refusal = none) :
    verdict h refusal config blob w (found, ending) =
      verdict h (fun _ => none) config blob w (found, ending) := by
  have whole : found.findSome? (fun _ => (none : Option CatalogError)) = none := by simp
  simp only [verdict, rootVerdict, accepted, fine, whole]

theorem verdictCalm (calm : h.NeverPanics) (sought : h.Sought blob mask w found ending) (p : Panic) :
    verdict h refusal config blob w (found, ending) ≠ .error (.panic p) := by
  intro panicked
  cases sought with
  | @unopened stop w' answer =>
    rw [verdict, answer] at panicked
    cases panicked
    exact calm.openRoot _ _ _ _ answer
  | @opened root w' found ending answer searched =>
    rw [verdictOpened answer] at panicked
    rcases count : h.fileCount root w with ⟨q | n, w'⟩
    · exact calm.fileCount _ _ _ _ count
    have judged : (accepted refusal (found, ending)).bind (tallied config n) =
        .error (.panic p) := by
      rwa [rootVerdict, count] at panicked
    unfold accepted at judged
    split at judged
    · cases judged
    rcases ending with (e | q) | v
    · cases judged
    · exact calm.searched searched q rfl
    · change tallied config n found = _ at judged
      unfold tallied at judged
      split at judged <;> cases judged

end Verdicts

inductive Settles {d : Destination δ} (k : d.Holding) {α : Type} :
    Except Stop (List FileEntry) → Except Stop α → δ → Prop
  | stopped (stop : Stop) (s : δ) : Settles k (.error stop) (.error stop) s
  | kept (v : α) {s : δ} (room : k.room s 0) : Settles k (.ok (k.held s)) (.ok v) s

variable {h : Handler ω} {d : Destination δ} {k : d.Holding} {a b : Account ω δ}
  {found : List FileEntry} {ending : Except Stop Unit}

theorem copiesSettle {c c' : h.Cursor} {r : Except Stop Unit} (copies : Copies h d c a r c' b)
    (yields : h.Yields c a.world found ending) (roomy : k.room a.destination found.length) :
    Settles k ((accepted k.refusal (found, ending)).map (k.held a.destination ++ ·)) r
      b.destination := by
  induction copies generalizing found with
  | exhausted next =>
    obtain ⟨rfl, rfl⟩ := yields.whenEnded next
    have kept := Settles.kept () roomy
    rwa [← List.append_nil (k.held _)] at kept
  | aborted next =>
    obtain ⟨rfl, rfl⟩ := yields.whenFault next
    exact .stopped _ _
  | panicked next =>
    obtain ⟨rfl, rfl⟩ := yields.whenFault next
    exact .stopped _ _
  | @refused c a c' w x e d' next push =>
    obtain ⟨left, rfl, -⟩ := yields.whenMore next
    cases refusal : k.refusal x with
    | none =>
      obtain ⟨t, pushed, -⟩ := k.accepted roomy refusal
      cases pushed.symm.trans push
    | some error =>
      obtain ⟨t, pushed⟩ := k.refused roomy refusal
      cases pushed.symm.trans push
      rw [acceptedRefused refusal]
      exact .stopped _ _
  | @copied c a c' w x d' r c'' b next push rest ih =>
    obtain ⟨left, rfl, onward⟩ := yields.whenMore next
    cases refusal : k.refusal x with
    | some error =>
      obtain ⟨t, pushed⟩ := k.refused roomy refusal
      cases pushed.symm.trans push
    | none =>
      obtain ⟨t, pushed, held, room⟩ := k.accepted roomy refusal
      cases pushed.symm.trans push
      have copied := ih onward room
      rw [Account.gave_destination, held] at copied
      rwa [acceptedMore (left, ending) _ refusal]

theorem searchesSettle {root : h.Root} {mask : String} {r : Except Stop Unit}
    (calm : h.NeverPanics) (steady : h.Steady) (searches : Searches h d root mask a r b)
    (idle : a.phase = .sessionOpen) {u : ω} (searched : h.Searched root mask u found ending)
    (roomy : k.room a.destination found.length) :
    Settles k ((accepted k.refusal (found, ending)).map (k.held a.destination ++ ·)) r
      b.destination := by
  have searched := steady.searched searched a.world
  cases searches with
  | unbegun begins =>
    cases begins with
    | @refused e w answer =>
      cases searched with
      | begun answer' yields => cases answer.symm.trans answer'
      | unbegun answer' =>
        cases answer.symm.trans answer'
        exact .stopped _ _
    | panicked answer => exact absurd answer (calm.beginSearch _ _ _ _ _)
    | late answer busy release => simp [idle, Phase.allows] at busy
  | @broken c b r c' b' q w p begins copies release broken =>
    rcases q with p | u
    · exact absurd release (calm.endSearch _ _ _ _)
    · rw [Session.feltNothing] at broken
      cases broken
  | @ended c b r c' b' q w' begins copies release still =>
    cases begins with
    | @begun _ w answer free =>
      cases searched with
      | unbegun answer' => cases answer.symm.trans answer'
      | begun answer' yields =>
        cases answer.symm.trans answer'
        have copied := copiesSettle copies yields roomy
        rwa [Account.destinationSearchLeft]

theorem fillsSettle {config : Config} {root : h.Root} {r : Except Stop (UInt32 × UInt32)}
    (calm : h.NeverPanics) (steady : h.Steady) (fills : Fills h d config root a r b)
    (idle : a.phase = .sessionOpen) (blank : k.held a.destination = []) {u : ω} (u' : ω)
    (search : h.Searched root config.searchMask u found ending)
    (roomy : k.room a.destination found.length) :
    Settles k (rootVerdict h k.refusal config root u' (found, ending)) r b.destination := by
  have counted {n : UInt32} {w : ω} (count : h.fileCount root a.world = (.ok n, w)) :
      rootVerdict h k.refusal config root u' (found, ending) =
        (accepted k.refusal (found, ending)).bind (tallied config n) := by
    rw [rootVerdict, steady.fileCount root u' a.world, count]
    rfl
  have searched {n : UInt32} {w : ω} {d' : δ} {r : Except Stop Unit} {b : Account ω δ}
      (room : d.reserve (config.initialCapacity n) a.destination = (.ok (), d'))
      (searches : Searches h d root config.searchMask ((a.called w .fileCount (.count n)).gave d'
        (.reserve (config.initialCapacity n)) .done) r b) :
      Settles k (accepted k.refusal (found, ending)) r b.destination := by
    obtain ⟨t, reserved, held, roomy'⟩ := k.reserved _ roomy blank (roomAsked config n)
    cases reserved.symm.trans room
    have settled := searchesSettle calm steady searches idle search roomy'
    simp only [Account.gave_destination, held, List.nil_append] at settled
    rwa [show Except.map (fun found => found) _ = _ from congrFun Except.map_id _] at settled
  generalize accepted k.refusal (found, ending) = found at counted searched
  cases fills with
  | uncounted count => exact absurd count (calm.fileCount _ _ _ _)
  | noRoom count room =>
    obtain ⟨t, reserved, -⟩ := k.reserved _ roomy blank (roomAsked config _)
    cases reserved.symm.trans room
  | unfinished count room search =>
    rw [counted count]
    cases searched room search
    exact .stopped _ _
  | tooMany count room search many =>
    cases searched room search with
    | kept v room =>
      rw [k.length] at many
      exact absurd (k.few room) (Nat.not_lt.mpr many)
  | miscounted count room search few mismatch =>
    rw [counted count]
    cases searched room search with
    | kept v room =>
      rw [k.length] at mismatch ⊢
      rw [Account.destinationAborted, Except.bind, tallied, if_pos mismatch]
      exact .stopped _ _
  | filled count room search few agreed =>
    rw [counted count]
    cases searched room search with
    | kept v room =>
      rw [k.length] at agreed ⊢
      rw [Except.bind, tallied, if_neg agreed]
      exact .kept _ room

theorem passesSettle {config : Config} {shown : Bool} {blob : Bytes} {r : Except Stop Unit}
    (calm : h.NeverPanics) (steady : h.Steady) (passes : Passes h d config shown blob a r b)
    (fresh : a.phase = .unopened) (blank : k.held a.destination = []) {u : ω}
    (sought : h.Sought blob config.searchMask u found ending)
    (roomy : k.room a.destination found.length) :
    Settles k (verdict h k.refusal config blob u (found, ending)) r b.destination := by
  have opened {r : Except Stop h.Root} {w : ω} (answer : h.openRoot blob a.world = (r, w)) :
      h.openRoot blob u = (r, (h.openRoot blob u).2) :=
    Prod.ext (by rw [steady.openRoot blob u a.world, answer]) rfl
  cases passes with
  | unopened opens =>
    cases opens with
    | @rejected e w answer =>
      rw [verdict, opened answer]
      exact .stopped _ _
    | panicked answer => exact absurd answer (calm.openRoot _ _ _ _)
    | late answer spent release => simp [fresh, Phase.allows] at spent
    | leaked answer free loud count => exact absurd count (calm.fileCount _ _ _ _)
  | @broken root b r c q w p opens fills release broken =>
    rcases q with p | v
    · exact absurd release (calm.close _ _ _ _)
    · rw [Session.feltNothing] at broken
      cases broken
  | @closed root b r c q w opens fills release still =>
    obtain ⟨⟨w', answer⟩, untouched, idle⟩ : (∃ w, h.openRoot blob a.world = (.ok root, w)) ∧
        b.destination = a.destination ∧ b.phase = .sessionOpen := by
      cases opens with
      | unseen answer => exact ⟨⟨_, answer⟩, rfl, rfl⟩
      | seen answer => exact ⟨⟨_, answer⟩, rfl, rfl⟩
    rw [← untouched] at roomy blank
    cases sought with
    | unopened answer' => cases (opened answer).symm.trans answer'
    | @opened root' w' found ending answer' searched =>
      cases (opened answer).symm.trans answer'
      rw [verdictOpened answer', Account.destinationSessionLeft]
      have settled := fillsSettle calm steady fills idle blank u searched roomy
      change Settles k _ _ c.destination
      generalize rootVerdict h k.refusal config root u (found, ending) = judged at settled ⊢
      cases settled with
      | stopped => exact .stopped _ _
      | kept v room => exact .kept _ room

end Enumeration
end RootCatalog
