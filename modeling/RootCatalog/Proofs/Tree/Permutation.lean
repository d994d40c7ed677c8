import Mathlib.Data.List.Infix
import RootCatalog.Proofs.Tree.Entries
/-! The order of the entries. A tree in order is told by what it shows, and what the tree of a list
shows depends on the order of the list in one point only: a directory has the spelling of the first
entry below it. -/
namespace RootCatalog

open Text (lowercase byteOrder)

def Sign.nameless : Sign → Sign
  | .file name leaf => .file name leaf
  | .dir _ => .dir ""

namespace Tree

def nameless : Tree → Tree
  | empty => empty
  | file key name leaf rest => file key name leaf rest.nameless
  | dir key _ inner rest => dir key "" inner.nameless rest.nameless

theorem namelessFollows {t : Tree} {key : String} (follows : t.Follows key) :
    t.nameless.Follows key := by
  induction t with
  | empty => trivial
  | file own name leaf rest ih => exact ⟨follows.1, ih follows.2⟩
  | dir own name inner rest _ ih => exact ⟨follows.1, ih follows.2⟩

theorem namelessOrdered {t : Tree} (ordered : t.Ordered) : t.nameless.Ordered := by
  induction t with
  | empty => trivial
  | file own name leaf rest ih => exact ⟨namelessFollows ordered.1, ih ordered.2⟩
  | dir own name inner rest ihInner ih =>
    exact ⟨namelessFollows ordered.1, ihInner ordered.2.1, ih ordered.2.2⟩

theorem namelessStands (t : Tree) (key : String) (more : List String) :
    t.nameless.stands key more = (t.stands key more).map Sign.nameless := by
  induction t generalizing key more with
  | empty => rfl
  | file own name leaf rest ih =>
    by_cases here : key = own
    · cases more <;> simp [nameless, stands, here, Except.map, Sign.nameless]
    · simp only [nameless, standsFile _ _ _ _ here, ih]
  | dir own name inner rest ihInner ih =>
    by_cases here : key = own
    · cases more with
      | nil => simp [nameless, stands, here, Except.map, Sign.nameless]
      | cons next more => simp only [nameless, stands, if_pos here, ihInner]
    · simp only [nameless, standsDir _ _ _ _ here, ih]

section attach

variable {own own' : String} {node : Node} {rest rest' : Tree}

theorem standsAttach (own : String) (node : Node) (rest : Tree) :
    (attach own node rest).stands own [] = .ok node.sign := by
  cases node <;> simp [attach, stands, Node.sign]

theorem standsBeside {key : String} (other : key ≠ own) (more : List String) :
    (attach own node rest).stands key more = rest.stands key more := by
  cases node with
  | file name leaf => exact standsFile own name leaf rest other more
  | dir name inner => exact standsDir own name inner rest other more

theorem followsAttach {key : String} (follows : rest.Follows own)
    (less : byteOrder key own = .lt) : (attach own node rest).Follows key := by
  cases node <;> exact ⟨less, follows.mono less⟩

theorem attachMeet (node node' : Node) (follows : rest.Follows own) (follows' : rest'.Follows own')
    (same : ∀ key more,
      (attach own node rest).stands key more = (attach own' node' rest').stands key more) :
    own = own' ∧ node.sign = node'.sign ∧ ∀ key more, rest.stands key more = rest'.stands key more := by
  have keys : own = own' := by
    cases order : byteOrder own own' with
    | eq => exact Text.byteOrderEq.mp order
    | lt =>
      have absent := @standsAbsent (attach own' node' rest') own (followsAttach follows' order) []
      rw [← same, standsAttach] at absent
      cases absent
    | gt =>
      have absent := @standsAbsent (attach own node rest) own'
        (followsAttach follows (keyGreater order)) []
      rw [same, standsAttach] at absent
      cases absent
  subst keys
  have here := same own []
  rw [standsAttach, standsAttach] at here
  refine ⟨rfl, Except.ok.inj here, fun key more => ?_⟩
  by_cases this : key = own
  · rw [this, standsAbsent follows, standsAbsent follows']
  · rw [← standsBeside this more, same, standsBeside this more]

end attach

theorem standsOnly {t t' : Tree} (ordered : t.Ordered) (ordered' : t'.Ordered)
    (same : ∀ key more, t.stands key more = t'.stands key more) : t = t' := by
  induction t generalizing t' with
  | empty =>
    cases t' with
    | empty => rfl
    | file own _ _ _ => simpa [stands] using same own []
    | dir own _ _ _ => simpa [stands] using same own []
  | file own name leaf rest ih =>
    cases t' with
    | empty => simpa [stands] using same own []
    | file own' name' leaf' rest' =>
      obtain ⟨rfl, sign, behind⟩ :=
        attachMeet (.file name leaf) (.file name' leaf') ordered.1 ordered'.1 same
      cases sign
      rw [ih ordered.2 ordered'.2 behind]
    | dir own' name' inner' rest' =>
      obtain ⟨-, sign, -⟩ := attachMeet (.file name leaf) (.dir name' inner') ordered.1 ordered'.1 same
      cases sign
  | dir own name inner rest ihInner ih =>
    cases t' with
    | empty => simpa [stands] using same own []
    | file own' name' leaf' rest' =>
      obtain ⟨-, sign, -⟩ := attachMeet (.dir name inner) (.file name' leaf') ordered.1 ordered'.1 same
      cases sign
    | dir own' name' inner' rest' =>
      obtain ⟨rfl, sign, behind⟩ :=
        attachMeet (.dir name inner) (.dir name' inner') ordered.1 ordered'.1 same
      cases sign
      have inside (key : String) (more : List String) :
          inner.stands key more = inner'.stands key more := by
        simpa [stands] using same own (key :: more)
      rw [ihInner ordered.2.1 ordered'.2.1 inside, ih ordered.2.2 ordered'.2.2 behind]

theorem shownPermuted {α : Type} {view : Sign → α} {entries other : List FileEntry}
    (same : entries.Perm other) (path : List String)
    (alike : ∀ x ∈ entries, ∀ y ∈ entries, path <+: x.keys → path <+: y.keys →
      view (signAt x path) = view (signAt y path)) :
    (shown entries path).map view = (shown other path).map view := by
  unfold shown
  cases found : entries.find? fun e => decide (path <+: e.keys) with
  | some x =>
    have member := List.mem_of_find?_eq_some found
    have inside : path <+: x.keys := by simpa using List.find?_some found
    cases found' : other.find? fun e => decide (path <+: e.keys) with
    | some y =>
      have inside' : path <+: y.keys := by simpa using List.find?_some found'
      have member' := same.mem_iff.mpr (List.mem_of_find?_eq_some found')
      exact congrArg Except.ok (alike x member y member' inside inside')
    | none =>
      have outside := List.find?_eq_none.mp found' x (same.mem_iff.mp member)
      exact absurd inside (by simpa using outside)
  | none =>
    have outside : other.find? (fun e => decide (path <+: e.keys)) = none :=
      List.find?_eq_none.mpr fun y member =>
        List.find?_eq_none.mp found y (same.mem_iff.mpr member)
    simp only [outside, same.mem_iff]

theorem belowTwice {t : Tree} {entries : List FileEntry} (lists : Lists t entries)
    {path : List String} {x y : FileEntry} (member : x ∈ entries) (member' : y ∈ entries)
    (inside : path <+: x.keys) (inside' : path <+: y.keys) :
    x = y ∨ Path.Above path x.keys ∧ Path.Above path y.keys := by
  by_cases one : x = y
  · exact .inl one
  · -- Of two entries of a tree neither lies on the other, so the path is that of neither.
    have apart := lists.apartOf member member' one
    refine .inr ⟨⟨inside, fun here => ?_⟩, ⟨inside', fun here => ?_⟩⟩
    · exact apart.1 (here ▸ inside')
    · exact apart.2 (here ▸ inside)

theorem namelessAlike {t : Tree} {entries : List FileEntry} (lists : Lists t entries)
    {path : List String} {x y : FileEntry} (member : x ∈ entries) (member' : y ∈ entries)
    (inside : path <+: x.keys) (inside' : path <+: y.keys) :
    (signAt x path).nameless = (signAt y path).nameless := by
  rcases belowTwice lists member member' inside inside' with rfl | ⟨above, above'⟩
  · rfl
  · rw [signAt, signAt, if_neg above.2.symm, if_neg above'.2.symm]
    rfl

end Tree

/-- Directories on the ways to two entries are spelled alike where their lower-cased forms agree. -/
def FileEntry.SpeltLike (x y : FileEntry) : Prop :=
  ∀ p q, p <+: x.segments.dropLast → q <+: y.segments.dropLast →
    p.map lowercase = q.map lowercase → p = q

instance (x y : FileEntry) : Decidable (x.SpeltLike y) :=
  decidable_of_iff (∀ p ∈ x.segments.dropLast.inits, ∀ q ∈ y.segments.dropLast.inits,
    p.map lowercase = q.map lowercase → p = q)
    ⟨fun alike p q left right => alike p ((List.mem_inits ..).mpr left) q ((List.mem_inits ..).mpr right),
      fun alike p left q right => alike p q ((List.mem_inits ..).mp left) ((List.mem_inits ..).mp right)⟩

namespace Tree

theorem takenAbove {e : FileEntry} {path : List String} (above : Path.Above path e.keys) :
    e.segments.take path.length <+: e.segments.dropLast ∧
      (e.segments.take path.length).map lowercase = path := by
  have length : e.keys.length = e.segments.length := List.length_map ..
  have shorter : path.length < e.segments.length := by
    refine length ▸ Nat.lt_of_le_of_ne above.1.length_le fun whole => ?_
    exact above.2 (above.1.eq_of_length whole)
  constructor
  · rw [List.dropLast_eq_take]
    exact List.take_prefix_take_left (by omega)
  · rw [List.map_take]
    exact (List.prefix_iff_eq_take.mp above.1).symm

theorem spelledAlike {t : Tree} {entries : List FileEntry} (lists : Lists t entries)
    (spelt : ∀ x ∈ entries, ∀ y ∈ entries, x.SpeltLike y) {key : String} {tail : List String}
    {x y : FileEntry} (member : x ∈ entries) (member' : y ∈ entries)
    (inside : key :: tail <+: x.keys) (inside' : key :: tail <+: y.keys) :
    signAt x (key :: tail) = signAt y (key :: tail) := by
  rcases belowTwice lists member member' inside inside' with rfl | ⟨above, above'⟩
  · rfl
  · obtain ⟨ahead, spelled⟩ := takenAbove above
    obtain ⟨ahead', spelled'⟩ := takenAbove above'
    have taken := spelt x member y member' _ _ ahead ahead' (spelled.trans spelled'.symm)
    have last := congrArg (fun segments => segments[tail.length]?) taken
    simp only [List.getElem?_take_of_lt (show tail.length < (key :: tail).length by simp)] at last
    rw [signAt, signAt, if_neg above.2.symm, if_neg above'.2.symm]
    simp only [List.length_cons, Nat.add_sub_cancel, List.getD_eq_getElem?_getD, last]

theorem ofEntriesAgain {entries other : List FileEntry} (same : entries.Perm other)
    (built : ∃ t, ofEntries entries = .ok t) : ∃ t, ofEntries other = .ok t := by
  obtain ⟨t, built⟩ := built
  have lists := ofEntriesLists built
  refine ofEntriesBuilds other (fun e member => lists.named e (same.mem_iff.mpr member)) ?_
  exact same.pairwise lists.apart Path.apartSymm

theorem ofEntriesPermuted {entries other : List FileEntry} (same : entries.Perm other) :
    ((∃ t, ofEntries entries = .ok t) ↔ ∃ t, ofEntries other = .ok t) ∧
    ∀ t t', ofEntries entries = .ok t → ofEntries other = .ok t' →
      t.nameless = t'.nameless ∧
      ((∀ x ∈ entries, ∀ y ∈ entries, x.SpeltLike y) → t = t') := by
  refine ⟨⟨ofEntriesAgain same, ofEntriesAgain same.symm⟩, fun t t' built built' => ?_⟩
  have lists := ofEntriesLists built
  have lists' := ofEntriesLists built'
  constructor
  · refine standsOnly (namelessOrdered lists.ordered) (namelessOrdered lists'.ordered) ?_
    intro key more
    rw [namelessStands, namelessStands, lists.stands, lists'.stands]
    exact shownPermuted same _ fun x member y member' => namelessAlike lists member member'
  · intro spelt
    refine standsOnly lists.ordered lists'.ordered fun key more => ?_
    have shownSame := @shownPermuted _ id _ _ same (key :: more) fun x member y member' =>
      spelledAlike lists spelt member member'
    rw [lists.stands, lists'.stands]
    rwa [Except.map_id] at shownSame

def spelledOnce : List FileEntry := [⟨"Data/Maps/a.bin", 1, 0, 7, .zero⟩,
  ⟨"readme", 3, 0, 9, .zero⟩, ⟨"Data/x/../Maps/B.bin", 2, 0, 8, .zero⟩]

theorem spelledOnceReversed : ∃ t, ofEntries spelledOnce = .ok t ∧
    ofEntries spelledOnce.reverse = .ok t := by
  obtain ⟨t, built⟩ := ofEntriesBuilds spelledOnce (by decide +kernel) (by decide +kernel)
  obtain ⟨t', built'⟩ := ofEntriesBuilds spelledOnce.reverse (by decide +kernel) (by decide +kernel)
  have turned : spelledOnce.Perm spelledOnce.reverse := (List.reverse_perm _).symm
  obtain ⟨-, same⟩ := (ofEntriesPermuted turned).2 t t' built built'
  exact ⟨t, built, same (by decide +kernel) ▸ built'⟩

end Tree
end RootCatalog
