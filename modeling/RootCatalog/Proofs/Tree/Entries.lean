import Mathlib.Data.List.Pairwise
import RootCatalog.Proofs.Tree.View
/-! Trees of lists of entries. What such a tree shows at a path is read off the list alone: the first
entry at the path or below it gives the name, and entries whose paths lie on one another cannot stand
in one tree. The first entry that does not fit decides how a list fails; nothing is said about what
stands in the tree by then. -/
namespace RootCatalog

namespace Path

def keys (path : String) : List String := (clean path).map Text.lowercase

def Apart (p q : List String) : Prop := ¬ p <+: q ∧ ¬ q <+: p

def Above (p q : List String) : Prop := p <+: q ∧ p ≠ q

instance (p q : List String) : Decidable (Apart p q) := inferInstanceAs (Decidable (_ ∧ _))

instance (p q : List String) : Decidable (Above p q) := inferInstanceAs (Decidable (_ ∧ _))

theorem apartSymm {p q : List String} (apart : Apart p q) : Apart q p := And.symm apart

end Path

namespace FileEntry

def segments (e : FileEntry) : List String := Path.clean e.name

def keys (e : FileEntry) : List String := Path.keys e.name

theorem keysSpelled {e : FileEntry} {name : String} {more : List String}
    (spelled : e.segments = name :: more) :
    e.keys = Text.lowercase name :: more.map Text.lowercase := by
  unfold keys Path.keys
  rw [show Path.clean e.name = name :: more from spelled, List.map_cons]

theorem keysBlank {e : FileEntry} (blank : e.segments = []) : e.keys = [] := by
  unfold keys Path.keys
  rw [show Path.clean e.name = [] from blank, List.map_nil]

end FileEntry

namespace Tree

open Text (lowercase)

def signAt (e : FileEntry) (path : List String) : Sign :=
  if e.keys = path then .file (e.segments.getD (path.length - 1) "") e.leaf
  else .dir (e.segments.getD (path.length - 1) "")

/-- What a tree of these entries shows at a path: a sign of the first entry there or below. -/
def shown (entries : List FileEntry) (path : List String) : Except Miss Sign :=
  match entries.find? fun e => path <+: e.keys with
  | some e => .ok (signAt e path)
  | none => .error (if ∃ e ∈ entries, e.keys <+: path then .throughFile else .absent)

theorem shownFirst {before after : List FileEntry} {e : FileEntry} {path : List String}
    (first : ∀ x ∈ before, ¬ path <+: x.keys) (inside : path <+: e.keys) :
    shown (before ++ e :: after) path = .ok (signAt e path) := by
  have passed : before.find? (fun x => decide (path <+: x.keys)) = none :=
    List.find?_eq_none.mpr fun x member => by simpa using first x member
  rw [shown, List.find?_append, passed, List.find?_cons_of_pos (by simpa using inside)]
  rfl

theorem shownThrough {entries : List FileEntry} {path : List String}
    (outside : ∀ x ∈ entries, ¬ path <+: x.keys) (behind : ∃ x ∈ entries, x.keys <+: path) :
    shown entries path = .error .throughFile := by
  have none : entries.find? (fun x => decide (path <+: x.keys)) = none :=
    List.find?_eq_none.mpr fun x member => by simpa using outside x member
  rw [shown, none]
  simp only [if_pos behind]

theorem shownAbsent {entries : List FileEntry} {path : List String}
    (apart : ∀ x ∈ entries, Path.Apart x.keys path) : shown entries path = .error .absent := by
  have none : entries.find? (fun x => decide (path <+: x.keys)) = none :=
    List.find?_eq_none.mpr fun x member => by simpa using (apart x member).2
  have free : ¬ ∃ x ∈ entries, x.keys <+: path := fun ⟨x, member, behind⟩ =>
    (apart x member).1 behind
  rw [shown, none]
  simp only [if_neg free]

theorem shownBeside {entries : List FileEntry} {e : FileEntry} {path : List String}
    (apart : Path.Apart e.keys path) : shown (entries ++ [e]) path = shown entries path := by
  obtain ⟨behind, above⟩ := apart
  simp [shown, List.find?_append, above, behind, or_and_right, exists_or]

theorem shownCases (entries : List FileEntry) (path : List String) :
    (∃ before e after, entries = before ++ e :: after ∧ (∀ x ∈ before, ¬ path <+: x.keys) ∧
      path <+: e.keys) ∨
    ((∀ x ∈ entries, ¬ path <+: x.keys) ∧ ∃ x ∈ entries, x.keys <+: path) ∨
    (∀ x ∈ entries, Path.Apart x.keys path) := by
  cases found : entries.find? fun x => decide (path <+: x.keys) with
  | some e =>
    obtain ⟨inside, before, after, same, first⟩ := List.find?_eq_some_iff_append.mp found
    exact .inl ⟨before, e, after, same, fun x member => by simpa using first x member,
      by simpa using inside⟩
  | none =>
    have outside : ∀ x ∈ entries, ¬ path <+: x.keys := fun x member => by
      simpa using List.find?_eq_none.mp found x member
    by_cases behind : ∃ x ∈ entries, x.keys <+: path
    · exact .inr (.inl ⟨outside, behind⟩)
    · exact .inr (.inr fun x member => ⟨fun on => behind ⟨x, member, on⟩, outside x member⟩)

theorem markedEq (leaf : Leaf) (before : Except Miss Sign) (name : String) (more : List String)
    (key : String) (tail : List String) : marked leaf before name more key tail =
      if lowercase name :: more.map lowercase = key :: tail then
        .ok (.file ((name :: more).getD tail.length "") leaf)
      else if key :: tail <+: lowercase name :: more.map lowercase then match before with
        | .ok sign => .ok sign
        | .error _ => .ok (.dir ((name :: more).getD tail.length ""))
      else if lowercase name :: more.map lowercase <+: key :: tail then .error .throughFile
      else before := by
  induction more generalizing name key tail with
  | nil =>
    by_cases same : key = lowercase name
    · cases tail <;> simp [marked, same]
    · simp [markedElsewhere, same, Ne.symm same]
  | cons next more ih =>
    by_cases same : key = lowercase name
    · cases tail with
      | nil => cases before <;> simp [marked, same]
      | cons first tail => simp [marked, same, ih]
    · simp [markedElsewhere, same, Ne.symm same]

theorem shownMore {entries : List FileEntry} {e : FileEntry} {name : String} {more : List String}
    (spelled : e.segments = name :: more) (apart : ∀ x ∈ entries, Path.Apart x.keys e.keys)
    (key : String) (tail : List String) : shown (entries ++ [e]) (key :: tail) =
      marked e.leaf (shown entries (key :: tail)) name more key tail := by
  have sign : signAt e (key :: tail) = if e.keys = key :: tail then
      .file ((name :: more).getD tail.length "") e.leaf
    else .dir ((name :: more).getD tail.length "") := by
    rw [signAt, spelled]
    rfl
  rw [markedEq, ← FileEntry.keysSpelled spelled]
  generalize path : key :: tail = q at sign
  by_cases here : e.keys = q
  · rw [if_pos here, shownFirst (fun x member => here ▸ (apart x member).2) (here ▸ List.prefix_rfl), sign,
      if_pos here]
  rw [if_neg here]
  rw [if_neg here] at sign
  by_cases above : q <+: e.keys
  · rw [if_pos above]
    rcases shownCases entries q with ⟨before, x, after, rfl, first, inside⟩ | ⟨outside, -⟩ | free
    · rw [List.append_assoc, List.cons_append, shownFirst first inside, shownFirst first inside]
    · rw [shownFirst outside above, sign]
      unfold shown
      rw [List.find?_eq_none.mpr fun x member => by simpa using outside x member]
    · rw [shownFirst (fun x member => (free x member).2) above, sign, shownAbsent free]
  rw [if_neg above]
  by_cases behind : e.keys <+: q
  · rw [if_pos behind]
    refine shownThrough (List.forall_mem_append.mpr ⟨fun x member inside => ?_, ?_⟩)
      ⟨e, by simp, behind⟩
    · exact (apart x member).2 (behind.trans inside)
    · exact List.forall_mem_singleton.mpr above
  · rw [if_neg behind, shownBeside ⟨behind, above⟩]

structure Lists (t : Tree) (entries : List FileEntry) : Prop where
  ordered : t.Ordered
  named : ∀ e ∈ entries, e.keys ≠ []
  apart : entries.Pairwise fun x e => Path.Apart x.keys e.keys
  stands : ∀ key tail, t.stands key tail = shown entries (key :: tail)

theorem Lists.apartOf {t : Tree} {entries : List FileEntry} (lists : Lists t entries)
    {x e : FileEntry} (member : x ∈ entries) (other : e ∈ entries) (differ : x ≠ e) :
    Path.Apart x.keys e.keys := by
  have : Std.Symm fun x y : FileEntry => Path.Apart x.keys y.keys := ⟨fun _ _ => Path.apartSymm⟩
  exact lists.apart.forall member other differ

theorem emptyLists : Lists empty [] where
  ordered := trivial
  named := nofun
  apart := .nil
  stands _ _ := rfl

inductive Refuses (before : List FileEntry) (e : FileEntry) : TreeError → Prop
  | pathless (blank : e.keys = []) : Refuses before e (.invalidPath e.name)
  | blocked {x} (earlier : x ∈ before) (above : x.keys <+: e.keys)
      (outside : ∀ y ∈ before, ¬ e.keys <+: y.keys) : Refuses before e (.dirFileClash e.name)
  | taken {x} (named : e.keys ≠ []) (earlier : x ∈ before) (below : e.keys <+: x.keys) :
      Refuses before e (.fileExists e.name)

theorem insertPlaced {t : Tree} {e : FileEntry} {name : String} {more : List String}
    (spelled : e.segments = name :: more) : t.insert e = match t.place e.leaf name more with
      | (.ok (), t) => (.ok (), t)
      | (.error .taken, t) => (.error (.fileExists e.name), t)
      | (.error .blocked, t) => (.error (.dirFileClash e.name), t) := by
  rw [← putPlace]
  unfold insert
  split
  · rename_i blank
    cases spelled.symm.trans blank
  · rename_i spelled'
    cases spelled.symm.trans spelled'
    rfl

theorem insertLists {t : Tree} {before : List FileEntry} (lists : Lists t before) (e : FileEntry) :
    (∃ t', t.insert e = (.ok (), t') ∧ Lists t' (before ++ [e])) ∨
    (∃ error t', t.insert e = (.error error, t') ∧ Refuses before e error) := by
  cases spelled : e.segments with
  | nil =>
    refine .inr ⟨_, t, ?_, .pathless (FileEntry.keysBlank spelled)⟩
    unfold insert
    rw [show Path.clean e.name = [] from spelled]
  | cons name more =>
    have keys := FileEntry.keysSpelled spelled
    have named : e.keys ≠ [] := by rw [keys]; nofun
    have outcome := placeOutcome e.leaf name more lists.ordered
    have stood := lists.stands (lowercase name) (more.map lowercase)
    rw [insertPlaced spelled]
    rcases placed : t.place e.leaf name more with ⟨r, t'⟩
    rw [placed, stood, ← keys] at outcome
    rcases shownCases before e.keys with ⟨done, x, after, rfl, first, inside⟩ |
      ⟨outside, x, earlier, above⟩ | free
    · rw [shownFirst first inside] at outcome
      subst outcome
      exact .inr ⟨_, t', rfl, .taken named (by simp) inside⟩
    · rw [shownThrough outside ⟨x, earlier, above⟩] at outcome
      subst outcome
      exact .inr ⟨_, t', rfl, .blocked earlier above outside⟩
    · rw [shownAbsent free] at outcome
      subst outcome
      rw [← keys, shownAbsent free] at stood
      have after := placeStands e.leaf name more lists.ordered stood
      have ordered := orderedPlace e.leaf name more lists.ordered
      rw [placed] at after ordered
      refine .inl ⟨t', rfl, ordered, ?_, ?_, fun key tail => ?_⟩
      · intro x member
        rcases List.mem_append.mp member with old | new
        · exact lists.named x old
        · rw [List.mem_singleton.mp new]
          exact named
      · refine List.pairwise_append.mpr ⟨lists.apart, List.pairwise_singleton _ _, ?_⟩
        intro x old y new
        rw [List.mem_singleton.mp new]
        exact free x old
      · rw [after, lists.stands, shownMore spelled free]

theorem insertAllLists {t : Tree} {before : List FileEntry} (lists : Lists t before)
    (rest : List FileEntry) :
    (∃ t', insertAll t rest = .ok t' ∧ Lists t' (before ++ rest)) ∨
    (∃ done e after error t', rest = done ++ e :: after ∧ insertAll t rest = .error error ∧
      Lists t' (before ++ done) ∧ Refuses (before ++ done) e error) := by
  induction rest generalizing t before with
  | nil => exact .inl ⟨t, rfl, by rwa [List.append_nil]⟩
  | cons e rest ih =>
    rcases insertLists lists e with ⟨t', inserted, lists'⟩ | ⟨error, t', failed, refuses⟩
    · have goesOn : insertAll t (e :: rest) = insertAll t' rest := by rw [insertAll, inserted]
      rw [goesOn]
      rcases ih lists' with ⟨t'', built, whole⟩ | ⟨done, x, after, error, t'', rfl, failed, upTo, refuses⟩
      · exact .inl ⟨t'', built, by rwa [List.append_assoc] at whole⟩
      · rw [List.append_assoc] at upTo refuses
        exact .inr ⟨e :: done, x, after, error, t'', rfl, failed, upTo, refuses⟩
    · refine .inr ⟨[], e, rest, error, t, rfl, by rw [insertAll, failed], ?_, ?_⟩
      · rwa [List.append_nil]
      · rwa [List.append_nil]

theorem ofEntriesLists {entries : List FileEntry} {t : Tree} (built : ofEntries entries = .ok t) :
    Lists t entries := by
  rcases insertAllLists emptyLists entries with ⟨t', same, lists⟩ | ⟨_, _, _, _, _, _, failed, _⟩
  · cases built.symm.trans same
    exact lists
  · cases built.symm.trans failed

theorem ofEntriesBuilds (entries : List FileEntry) (named : ∀ e ∈ entries, e.keys ≠ [])
    (apart : entries.Pairwise fun x e => Path.Apart x.keys e.keys) :
    ∃ t, ofEntries entries = .ok t := by
  rcases insertAllLists emptyLists entries with ⟨t, built, -⟩ |
    ⟨done, e, after, error, t, rfl, -, -, refuses⟩
  · exact ⟨t, built⟩
  · have beside := (List.pairwise_append.mp apart).2.2
    cases refuses with
    | pathless blank => exact absurd blank (named e (by simp))
    | blocked earlier above outside => exact absurd above (beside _ earlier e (by simp)).1
    | taken named earlier below => exact absurd below (beside _ earlier e (by simp)).2

def Offends (entries : List FileEntry) (j : Nat) : Prop :=
  ∃ e, entries[j]? = some e ∧ (e.keys = [] ∨
    ∃ x ∈ entries.take j, x.keys <+: e.keys ∨ e.keys <+: x.keys)

theorem refusesOffends {before after : List FileEntry} {e : FileEntry} {error : TreeError}
    (refuses : Refuses before e error) : Offends (before ++ e :: after) before.length := by
  refine ⟨e, by simp, ?_⟩
  rw [List.take_left]
  cases refuses with
  | pathless blank => exact .inl blank
  | blocked earlier above outside => exact .inr ⟨_, earlier, .inl above⟩
  | taken named earlier below => exact .inr ⟨_, earlier, .inr below⟩

theorem listsInnocent {t : Tree} {before after : List FileEntry} (lists : Lists t before) {i : Nat}
    (earlier : i < before.length) : ¬ Offends (before ++ after) i := by
  intro ⟨e, found, offence⟩
  rw [List.getElem?_append_left earlier] at found
  rw [List.take_append_of_le_length (Nat.le_of_lt earlier)] at offence
  rcases offence with blank | ⟨x, former, on⟩
  · exact lists.named e (List.mem_of_getElem? found) blank
  · have later : e ∈ before.drop i := List.mem_of_getElem? (i := 0) (by simpa using found)
    have split := lists.apart
    rw [← List.take_append_drop i before] at split
    obtain ⟨above, below⟩ := (List.pairwise_append.mp split).2.2 x former e later
    exact on.elim above below

theorem pairwisePositions {entries : List FileEntry} :
    (entries.Pairwise fun x e => Path.Apart x.keys e.keys) ↔ ∀ (i j : Nat) (x e : FileEntry),
      i ≠ j → entries[i]? = some x → entries[j]? = some e → ¬ x.keys <+: e.keys := by
  rw [List.pairwise_iff_getElem]
  constructor
  · intro apart i j x e differ atI atJ
    obtain ⟨hi, rfl⟩ := List.getElem?_eq_some_iff.mp atI
    obtain ⟨hj, rfl⟩ := List.getElem?_eq_some_iff.mp atJ
    rcases Nat.lt_or_gt_of_ne differ with less | greater
    · exact (apart i j hi hj less).1
    · exact (apart j i hj hi greater).2
  · intro apart i j hi hj less
    have atI := List.getElem?_eq_getElem hi
    have atJ := List.getElem?_eq_getElem hj
    exact ⟨apart i j _ _ (Nat.ne_of_lt less) atI atJ, apart j i _ _ (Nat.ne_of_gt less) atJ atI⟩

theorem refusesCause {t : Tree} {before : List FileEntry} {e : FileEntry} {error : TreeError}
    (refuses : Refuses before e error) (lists : Lists t before) :
    (e.keys = [] → error = .invalidPath e.name) ∧
    (e.keys ≠ [] →
      (error = .dirFileClash e.name ↔ ∃ x ∈ before, Path.Above x.keys e.keys) ∧
      (error = .fileExists e.name ↔ ∃ x ∈ before, e.keys <+: x.keys) ∧
      (error = .dirFileClash e.name ∨ error = .fileExists e.name)) := by
  cases refuses with
  | pathless blank => exact ⟨fun _ => rfl, fun named => absurd blank named⟩
  | @blocked x earlier above outside =>
    refine ⟨fun blank => ?_, fun _ => ⟨iff_of_true rfl ?_, iff_of_false nofun ?_, .inl rfl⟩⟩
    · exact absurd (blank ▸ List.nil_prefix) (outside x earlier)
    · exact ⟨x, earlier, above, fun same => outside x earlier (same ▸ List.prefix_rfl)⟩
    · intro ⟨y, member, below⟩
      exact outside y member below
  | @taken x named earlier below =>
    refine ⟨fun blank => absurd blank named, fun _ => ⟨iff_of_false nofun ?_,
      iff_of_true rfl ⟨x, earlier, below⟩, .inr rfl⟩⟩
    intro ⟨y, member, above, differ⟩
    have through : y.keys <+: x.keys := above.trans below
    by_cases same : y = x
    · subst same
      exact differ (above.eq_of_length_le below.length_le)
    · exact (lists.apartOf member earlier same).1 through

theorem ofEntriesOutcome (entries : List FileEntry) :
    ((∃ t, ofEntries entries = .ok t) ↔ (∀ e ∈ entries, e.keys ≠ []) ∧
      ∀ (i j : Nat) (x e : FileEntry), i ≠ j → entries[i]? = some x → entries[j]? = some e →
        ¬ x.keys <+: e.keys) ∧
    ∀ error, ofEntries entries = .error error →
      ∃ j e, entries[j]? = some e ∧ Offends entries j ∧ (∀ i < j, ¬ Offends entries i) ∧
        (e.keys = [] → error = .invalidPath e.name) ∧
        (e.keys ≠ [] →
          (error = .dirFileClash e.name ↔ ∃ x ∈ entries.take j, Path.Above x.keys e.keys) ∧
          (error = .fileExists e.name ↔ ∃ x ∈ entries.take j, e.keys <+: x.keys) ∧
          (error = .dirFileClash e.name ∨ error = .fileExists e.name)) := by
  rw [← pairwisePositions]
  constructor
  · constructor
    · intro ⟨t, built⟩
      exact ⟨(ofEntriesLists built).named, (ofEntriesLists built).apart⟩
    · intro ⟨named, apart⟩
      exact ofEntriesBuilds entries named apart
  · intro error failed
    rcases insertAllLists emptyLists entries with ⟨t, built, -⟩ |
      ⟨done, e, after, error', t, rfl, failed', lists, refuses⟩
    · cases built.symm.trans failed
    · cases failed.symm.trans failed'
      refine ⟨done.length, e, by simp, refusesOffends refuses,
        fun i earlier => listsInnocent lists earlier, ?_⟩
      rw [List.take_left]
      exact refusesCause refuses lists

end Tree
end RootCatalog
