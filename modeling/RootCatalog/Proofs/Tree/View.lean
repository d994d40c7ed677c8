import RootCatalog.Proofs.Tree.Insertion
/-! What a tree shows at a path of keys: a file, a directory, or nothing, because the path breaks off
or because it goes on behind a file. A lookup reads just that, and a file can be placed where nothing
stands; placing it changes what its own path shows and what lies on the way to it or behind it. What
is below a directory is not part of what the directory shows. -/
namespace RootCatalog

inductive Sign where
  | file (name : String) (leaf : Leaf)
  | dir (name : String)
  deriving DecidableEq, Repr

def Node.sign : Node → Sign
  | file name leaf => .file name leaf
  | dir name _ => .dir name

namespace Tree

open Text (lowercase byteOrder)

def stands : Tree → String → List String → Except Miss Sign
  | empty, _, _ => .error .absent
  | file own name leaf rest, key, more =>
    if key = own then match more with
      | [] => .ok (.file name leaf)
      | _ :: _ => .error .throughFile
    else rest.stands key more
  | dir own name inner rest, key, more =>
    if key = own then match more with
      | [] => .ok (.dir name)
      | next :: more => inner.stands next more
    else rest.stands key more

theorem standsFile (own name : String) (leaf : Leaf) (rest : Tree) {key : String}
    (other : key ≠ own) (more : List String) :
    (file own name leaf rest).stands key more = rest.stands key more := by
  rw [stands.eq_def]
  exact if_neg other

theorem standsDir (own name : String) (inner rest : Tree) {key : String} (other : key ≠ own)
    (more : List String) : (dir own name inner rest).stands key more = rest.stands key more := by
  rw [stands.eq_def]
  exact if_neg other

@[simp] theorem findEmpty (key : String) : empty.find? key = none := rfl

@[simp] theorem findFile (own name : String) (leaf : Leaf) (rest : Tree) (key : String) :
    (file own name leaf rest).find? key =
      if key = own then some (.file name leaf) else rest.find? key := by
  by_cases same : key = own
  · simp [find?, children, same]
  · simp [find?, children, same, Ne.symm same]

@[simp] theorem findDir (own name : String) (inner rest : Tree) (key : String) :
    (dir own name inner rest).find? key =
      if key = own then some (.dir name inner) else rest.find? key := by
  by_cases same : key = own
  · simp [find?, children, same]
  · simp [find?, children, same, Ne.symm same]

def Follows (key : String) : Tree → Prop
  | empty => True
  | file own _ _ rest => byteOrder key own = .lt ∧ rest.Follows key
  | dir own _ _ rest => byteOrder key own = .lt ∧ rest.Follows key

def Ordered : Tree → Prop
  | empty => True
  | file own _ _ rest => rest.Follows own ∧ rest.Ordered
  | dir own _ inner rest => rest.Follows own ∧ inner.Ordered ∧ rest.Ordered

theorem keyLess {a b : String} (less : byteOrder a b = .lt) : a ≠ b := by
  intro same
  rw [Text.byteOrderEq.mpr same] at less
  cases less

theorem keyGreater {a b : String} (greater : byteOrder a b = .gt) : byteOrder b a = .lt :=
  Std.OrientedCmp.lt_of_gt greater

theorem Follows.mono {t : Tree} {a b : String} (follows : t.Follows b)
    (less : byteOrder a b = .lt) : t.Follows a := by
  induction t with
  | empty => trivial
  | file own name leaf rest ih => exact ⟨Std.TransCmp.lt_trans less follows.1, ih follows.2⟩
  | dir own name inner rest _ ih => exact ⟨Std.TransCmp.lt_trans less follows.1, ih follows.2⟩

theorem standsAbsent {t : Tree} {key : String} (follows : t.Follows key) (more : List String) :
    t.stands key more = .error .absent := by
  induction t with
  | empty => rfl
  | file own name leaf rest ih => rw [standsFile _ _ _ _ (keyLess follows.1), ih follows.2]
  | dir own name inner rest _ ih => rw [standsDir _ _ _ _ (keyLess follows.1), ih follows.2]

theorem followsBranch {key name : String} (leaf : Leaf) {rest : Tree} (more : List String)
    (less : byteOrder key (lowercase name) = .lt) (follows : rest.Follows key) :
    (branch name leaf rest more).Follows key := by
  cases more with
  | nil => exact ⟨less, follows⟩
  | cons next more => exact ⟨less, follows⟩

theorem orderedBranch {name : String} (leaf : Leaf) {rest : Tree} (more : List String)
    (follows : rest.Follows (lowercase name)) (ordered : rest.Ordered) :
    (branch name leaf rest more).Ordered := by
  induction more generalizing name rest with
  | nil => exact ⟨follows, ordered⟩
  | cons next more ih => exact ⟨follows, ih trivial trivial, ordered⟩

theorem followsPlace {t : Tree} {key : String} (leaf : Leaf) (name : String) (more : List String)
    (less : byteOrder key (lowercase name) = .lt) (follows : t.Follows key) :
    (t.place leaf name more).2.Follows key := by
  induction t with
  | empty => exact followsBranch leaf more less trivial
  | file own old data rest ih =>
    unfold place
    split
    · exact followsBranch leaf more less follows
    · exact ⟨follows.1, ih follows.2⟩
    · exact follows
  | dir own old inner rest _ ih =>
    unfold place
    split
    · exact followsBranch leaf more less follows
    · exact ⟨follows.1, ih follows.2⟩
    · cases more <;> exact follows

theorem orderedPlace {t : Tree} (leaf : Leaf) (name : String) (more : List String)
    (ordered : t.Ordered) : (t.place leaf name more).2.Ordered := by
  induction t generalizing name more with
  | empty => exact orderedBranch leaf more trivial trivial
  | file own old data rest ih =>
    unfold place
    split
    · rename_i less
      exact orderedBranch leaf more ⟨less, ordered.1.mono less⟩ ordered
    · rename_i greater
      exact ⟨followsPlace leaf name more (keyGreater greater) ordered.1, ih name more ordered.2⟩
    · exact ordered
  | dir own old inner rest ihInner ih =>
    unfold place
    split
    · rename_i less
      exact orderedBranch leaf more ⟨less, ordered.1.mono less⟩ ordered
    · rename_i greater
      exact ⟨followsPlace leaf name more (keyGreater greater) ordered.1, ordered.2.1,
        ih name more ordered.2.2⟩
    · cases more with
      | nil => exact ordered
      | cons next more => exact ⟨ordered.1, ihInner next more ordered.2.1, ordered.2.2⟩

def Clash.ofView : Except Miss Sign → Except Clash Unit
  | .ok _ => .error .taken
  | .error .throughFile => .error .blocked
  | .error .absent => .ok ()

theorem placeOutcome {t : Tree} (leaf : Leaf) (name : String) (more : List String)
    (ordered : t.Ordered) : (t.place leaf name more).1 =
      Clash.ofView (t.stands (lowercase name) (more.map lowercase)) := by
  induction t generalizing name more with
  | empty => rfl
  | file own old data rest ih =>
    unfold place
    split
    · rename_i less
      have follows : (file own old data rest).Follows (lowercase name) :=
        ⟨less, ordered.1.mono less⟩
      rw [standsAbsent follows]
      rfl
    · rename_i greater
      rw [standsFile _ _ _ _ (keyLess (keyGreater greater)).symm]
      exact ih name more ordered.2
    · rename_i same
      rw [Text.byteOrderEq.mp same]
      cases more <;> simp [stands, Clash.ofView]
  | dir own old inner rest ihInner ih =>
    unfold place
    split
    · rename_i less
      have follows : (dir own old inner rest).Follows (lowercase name) :=
        ⟨less, ordered.1.mono less⟩
      rw [standsAbsent follows]
      rfl
    · rename_i greater
      rw [standsDir _ _ _ _ (keyLess (keyGreater greater)).symm]
      exact ih name more ordered.2.2
    · rename_i same
      rw [Text.byteOrderEq.mp same]
      cases more with
      | nil => simp [stands, Clash.ofView]
      | cons next more => simp [stands, ihInner next more ordered.2.1]

/-- What the path `key`, `tail…` shows once there is a file at `name`, `more…`, given what it showed
before. A directory on the way that is there already keeps its name. -/
def marked (leaf : Leaf) (before : Except Miss Sign) (name : String) (more : List String)
    (key : String) (tail : List String) : Except Miss Sign :=
  if key = lowercase name then match more, tail with
    | [], [] => .ok (.file name leaf)
    | [], _ :: _ => .error .throughFile
    | _ :: _, [] => match before with
      | .ok sign => .ok sign
      | .error _ => .ok (.dir name)
    | next :: more, first :: tail => marked leaf before next more first tail
  else before

theorem markedElsewhere (leaf : Leaf) (before : Except Miss Sign) {name key : String}
    (more tail : List String) (other : key ≠ lowercase name) :
    marked leaf before name more key tail = before := by
  rw [marked.eq_def]
  exact if_neg other

theorem standsBranch (rest : Tree) {name : String} (leaf : Leaf) (more : List String)
    (follows : rest.Follows (lowercase name)) (key : String) (tail : List String) :
    (branch name leaf rest more).stands key tail =
      marked leaf (rest.stands key tail) name more key tail := by
  induction more generalizing name rest key tail with
  | nil =>
    by_cases same : key = lowercase name
    · cases tail <;> simp [branch, stands, marked, same]
    · simp [branch, stands, markedElsewhere, same]
  | cons next more ih =>
    by_cases same : key = lowercase name
    · cases tail with
      | nil => simp [branch, stands, marked, same, standsAbsent follows]
      | cons first tail =>
        have inside : (branch next leaf empty more).stands first tail =
            marked leaf (.error .absent) next more first tail := ih empty trivial first tail
        simp [branch, stands, marked, same, standsAbsent follows, inside]
    · simp [branch, stands, markedElsewhere, same]

theorem placeStands {t : Tree} (leaf : Leaf) (name : String) (more : List String)
    (ordered : t.Ordered)
    (free : t.stands (lowercase name) (more.map lowercase) = .error .absent)
    (key : String) (tail : List String) : (t.place leaf name more).2.stands key tail =
      marked leaf (t.stands key tail) name more key tail := by
  induction t generalizing name more key tail with
  | empty => exact standsBranch empty leaf more trivial key tail
  | file own old data rest ih =>
    unfold place
    split
    · rename_i less
      have follows : (file own old data rest).Follows (lowercase name) :=
        ⟨less, ordered.1.mono less⟩
      exact standsBranch _ leaf more follows key tail
    · rename_i greater
      have apart := keyLess (keyGreater greater)
      rw [standsFile _ _ _ _ apart.symm] at free
      by_cases same : key = own
      · rw [markedElsewhere leaf _ more tail (same ▸ apart)]
        cases tail <;> simp [stands, same]
      · rw [standsFile _ _ _ _ same, standsFile _ _ _ _ same, ih name more ordered.2 free]
    · rename_i same
      rw [Text.byteOrderEq.mp same] at free
      cases more <;> simp [stands] at free
  | dir own old inner rest ihInner ih =>
    unfold place
    split
    · rename_i less
      have follows : (dir own old inner rest).Follows (lowercase name) :=
        ⟨less, ordered.1.mono less⟩
      exact standsBranch _ leaf more follows key tail
    · rename_i greater
      have apart := keyLess (keyGreater greater)
      rw [standsDir _ _ _ _ apart.symm] at free
      by_cases same : key = own
      · rw [markedElsewhere leaf _ more tail (same ▸ apart)]
        cases tail <;> simp [stands, same]
      · rw [standsDir _ _ _ _ same, standsDir _ _ _ _ same, ih name more ordered.2.2 free]
    · rename_i same
      have here := Text.byteOrderEq.mp same
      cases more with
      | nil => simp [stands, here] at free
      | cons next more =>
        have inside : inner.stands (lowercase next) (more.map lowercase) = .error .absent := by
          simpa [stands, here] using free
        by_cases entered : key = own
        · cases tail with
          | nil => simp [stands, marked, entered, here]
          | cons first tail =>
            simp [stands, marked, entered, here, ihInner next more ordered.2.1 inside]
        · rw [markedElsewhere leaf _ _ tail (here ▸ entered), standsDir _ _ _ _ entered,
            standsDir _ _ _ _ entered]

end Tree
end RootCatalog
