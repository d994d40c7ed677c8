import RootCatalog.Handler
/-! What may be asked of a handler: that no call of it panics, that its answers do not depend on its
world, that telling the declared count leaves no trace, and that its searches end. None of this is
part of being a handler; each result names what it needs. What a search yields is a relation, since
an endless search yields no list. -/
namespace RootCatalog.Handler

variable {ω : Type}

structure NeverPanics (h : Handler ω) : Prop where
  openRoot : ∀ blob w p w', h.openRoot blob w ≠ (.error (.panic p), w')
  fileCount : ∀ root w p w', h.fileCount root w ≠ (.error p, w')
  beginSearch : ∀ root mask w p w', h.beginSearch root mask w ≠ (.error (.panic p), w')
  nextMatch : ∀ c w p c' w', h.nextMatch c w ≠ (.error (.panic p), c', w')
  endSearch : ∀ c w p w', h.endSearch c w ≠ (.error p, w')
  close : ∀ root w p w', h.close root w ≠ (.error p, w')

structure Steady (h : Handler ω) : Prop where
  openRoot : ∀ blob w w', (h.openRoot blob w).1 = (h.openRoot blob w').1
  fileCount : ∀ root w w', (h.fileCount root w).1 = (h.fileCount root w').1
  beginSearch : ∀ root mask w w', (h.beginSearch root mask w).1 = (h.beginSearch root mask w').1
  nextMatch : ∀ c w w', (h.nextMatch c w).1 = (h.nextMatch c w').1
  onward : ∀ c w w', (h.nextMatch c w).2.1 = (h.nextMatch c w').2.1

def CountsStill (h : Handler ω) : Prop := ∀ root w, (h.fileCount root w).2 = w

inductive Yields (h : Handler ω) : h.Cursor → ω → List FileEntry → Except Stop Unit → Prop
  | ended {c w c' w'} (next : h.nextMatch c w = (.ok none, c', w')) : Yields h c w [] (.ok ())
  | fault {c w stop c' w'} (next : h.nextMatch c w = (.error stop, c', w')) :
      Yields h c w [] (.error stop)
  | more {c w e c' w' found ending} (next : h.nextMatch c w = (.ok (some e), c', w'))
      (rest : Yields h c' w' found ending) : Yields h c w (e :: found) ending

def Halts (h : Handler ω) (c : h.Cursor) (w : ω) : Prop := ∃ found ending, h.Yields c w found ending

def Finite (h : Handler ω) : Prop :=
  ∀ root mask w c w', h.beginSearch root mask w = (.ok c, w') → h.Halts c w'

inductive Searched (h : Handler ω) (root : h.Root) (mask : String) (w : ω) :
    List FileEntry → Except Stop Unit → Prop
  | unbegun {stop w'} (answer : h.beginSearch root mask w = (.error stop, w')) :
      Searched h root mask w [] (.error stop)
  | begun {c w' found ending} (answer : h.beginSearch root mask w = (.ok c, w'))
      (yields : h.Yields c w' found ending) : Searched h root mask w found ending

/-- What a search of a file yields; nothing if it does not open or no search begins. -/
inductive Sought (h : Handler ω) (blob : Bytes) (mask : String) (w : ω) :
    List FileEntry → Except Stop Unit → Prop
  | unopened {stop w'} (answer : h.openRoot blob w = (.error stop, w')) :
      Sought h blob mask w [] (.error stop)
  | opened {root w' found ending} (answer : h.openRoot blob w = (.ok root, w'))
      (searched : h.Searched root mask w' found ending) : Sought h blob mask w found ending

variable {h : Handler ω} {found : List FileEntry} {ending : Except Stop Unit}

theorem Yields.whenEnded {c c' : h.Cursor} {w w' : ω} (yields : h.Yields c w found ending)
    (next : h.nextMatch c w = (.ok none, c', w')) : found = [] ∧ ending = .ok () := by
  cases yields with
  | ended next' => exact ⟨rfl, rfl⟩
  | fault next' => cases next.symm.trans next'
  | more next' rest => cases next.symm.trans next'

theorem Yields.whenFault {c c' : h.Cursor} {w w' : ω} {stop : Stop}
    (yields : h.Yields c w found ending) (next : h.nextMatch c w = (.error stop, c', w')) :
    found = [] ∧ ending = .error stop := by
  cases yields with
  | ended next' => cases next.symm.trans next'
  | fault next' =>
    cases next.symm.trans next'
    exact ⟨rfl, rfl⟩
  | more next' rest => cases next.symm.trans next'

theorem Yields.whenMore {c c' : h.Cursor} {w w' : ω} {e : FileEntry}
    (yields : h.Yields c w found ending) (next : h.nextMatch c w = (.ok (some e), c', w')) :
    ∃ rest, found = e :: rest ∧ h.Yields c' w' rest ending := by
  cases yields with
  | ended next' => cases next.symm.trans next'
  | fault next' => cases next.symm.trans next'
  | more next' rest =>
    cases next.symm.trans next'
    exact ⟨_, rfl, rest⟩

theorem Halts.onward {motive : h.Cursor → ω → Prop} {c : h.Cursor} {w : ω} (halts : h.Halts c w)
    (step : ∀ c w, (∀ x c' w', h.nextMatch c w = (.ok (some x), c', w') → motive c' w') →
      motive c w) : motive c w := by
  obtain ⟨found, ending, yields⟩ := halts
  induction yields with
  | ended next => exact step _ _ fun x c' w' more => nomatch next.symm.trans more
  | fault next => exact step _ _ fun x c' w' more => nomatch next.symm.trans more
  | more next rest ih =>
    refine step _ _ fun x c' w' more => ?_
    cases next.symm.trans more
    exact ih

theorem Finite.searched (finite : h.Finite) (root : h.Root) (mask : String) (w : ω) :
    ∃ found ending, h.Searched root mask w found ending := by
  rcases answer : h.beginSearch root mask w with ⟨stop | c, w'⟩
  · exact ⟨_, _, .unbegun answer⟩
  · obtain ⟨found, ending, yields⟩ := finite _ _ _ _ _ answer
    exact ⟨found, ending, .begun answer yields⟩

theorem Finite.sought (finite : h.Finite) (blob : Bytes) (mask : String) (w : ω) :
    ∃ found ending, h.Sought blob mask w found ending := by
  rcases answer : h.openRoot blob w with ⟨stop | root, w'⟩
  · exact ⟨_, _, .unopened answer⟩
  · obtain ⟨found, ending, searched⟩ := finite.searched root mask w'
    exact ⟨found, ending, .opened answer searched⟩

theorem Steady.yields (steady : h.Steady) {c : h.Cursor} {w : ω} (yields : h.Yields c w found ending)
    (u : ω) : h.Yields c u found ending := by
  have again {c c' : h.Cursor} {w w' : ω} {r : Except Stop (Option FileEntry)}
      (next : h.nextMatch c w = (r, c', w')) (u : ω) :
      h.nextMatch c u = (r, c', (h.nextMatch c u).2.2) := by
    refine Prod.ext ?_ (Prod.ext ?_ rfl)
    · rw [steady.nextMatch c u w, next]
    · rw [steady.onward c u w, next]
  induction yields generalizing u with
  | ended next => exact .ended (again next u)
  | fault next => exact .fault (again next u)
  | more next rest ih => exact .more (again next u) (ih _)

theorem Steady.searched (steady : h.Steady) {root : h.Root} {mask : String} {w : ω}
    (searched : h.Searched root mask w found ending) (u : ω) :
    h.Searched root mask u found ending := by
  have again {r : Except Stop h.Cursor} {w' : ω} (answer : h.beginSearch root mask w = (r, w')) :
      h.beginSearch root mask u = (r, (h.beginSearch root mask u).2) :=
    Prod.ext (by rw [steady.beginSearch root mask u w, answer]) rfl
  cases searched with
  | unbegun answer => exact .unbegun (again answer)
  | begun answer yields => exact .begun (again answer) (steady.yields yields _)

theorem NeverPanics.yields (calm : h.NeverPanics) {c : h.Cursor} {w : ω}
    (yields : h.Yields c w found ending) (p : Panic) : ending ≠ .error (.panic p) := by
  induction yields with
  | ended next => nofun
  | fault next =>
    rintro ⟨⟩
    exact calm.nextMatch _ _ _ _ _ next
  | more next rest ih => exact ih

theorem NeverPanics.searched (calm : h.NeverPanics) {root : h.Root} {mask : String} {w : ω}
    (searched : h.Searched root mask w found ending) (p : Panic) : ending ≠ .error (.panic p) := by
  cases searched with
  | unbegun answer =>
    rintro ⟨⟩
    exact calm.beginSearch _ _ _ _ _ answer
  | begun answer yields => exact calm.yields yields p

end RootCatalog.Handler
