import RootCatalog.Text.Utf8.Lemmas
import RootCatalog.Tree
/-! Insertions. Directories are made on the way before the end of the path is seen, and none is taken
away again. An insertion that fails leaves none behind all the same, for in a directory that was just
made nothing can be in the way. -/
namespace RootCatalog.Tree

open Text (lowercase byteOrder)

def branch (name : String) (leaf : Leaf) (rest : Tree) : List String → Tree
  | [] => file (lowercase name) name leaf rest
  | next :: more => dir (lowercase name) name (branch next leaf empty more) rest

theorem putEmpty (leaf : Leaf) (name : String) (more : List String) :
    empty.put leaf name more = (.ok (), branch name leaf empty more) := by
  induction more generalizing name with
  | nil => rfl
  | cons next more ih =>
    show Prod.map id (attach (lowercase name) · empty)
      (Prod.map id (.dir name) (empty.put leaf next more)) = _
    rw [ih]
    rfl

def aim (leaf : Leaf) (name : String) : List String → Option Node → Except Clash Unit × Node
  | [] => addFile name leaf
  | next :: more => enter name fun t => t.put leaf next more

theorem putVisit (leaf : Leaf) (name : String) (more : List String) (t : Tree) :
    t.put leaf name more = t.visit (lowercase name) (aim leaf name more) := by
  cases more <;> rfl

theorem aimNew (leaf : Leaf) (name : String) (more : List String) (rest : Tree) :
    (aim leaf name more none).map id (attach (lowercase name) · rest) =
      (.ok (), branch name leaf rest more) := by
  cases more with
  | nil => rfl
  | cons next more =>
    show Prod.map id _ (Prod.map id (Node.dir name) (empty.put leaf next more)) = _
    rw [putEmpty]
    rfl

structure Spares (change : Option Node → Except Clash Unit × Node) : Prop where
  kept : ∀ node clash, (change (some node)).1 = .error clash → (change (some node)).2 = node
  made : ∀ clash, (change none).1 ≠ .error clash

theorem visitSpared {change : Option Node → Except Clash Unit × Node} (spares : Spares change)
    (key : String) (t : Tree) {clash : Clash} (failed : (t.visit key change).1 = .error clash) :
    (t.visit key change).2 = t := by
  induction t with
  | empty => exact absurd failed (spares.made clash)
  | file own name leaf rest ih =>
    unfold visit at failed ⊢
    split at failed
    · exact absurd failed (spares.made clash)
    · rw [Prod.map_snd, spares.kept _ clash failed]
      rfl
    · rw [Prod.map_snd, ih failed]
  | dir own name inner rest _ ih =>
    unfold visit at failed ⊢
    split at failed
    · exact absurd failed (spares.made clash)
    · rw [Prod.map_snd, spares.kept _ clash failed]
      rfl
    · rw [Prod.map_snd, ih failed]

theorem aimSpares (leaf : Leaf) (name : String) (more : List String) :
    Spares (aim leaf name more) := by
  induction more generalizing name with
  | nil => exact ⟨fun _ _ _ => rfl, nofun⟩
  | cons next more ih =>
    refine ⟨fun node clash failed => ?_, fun clash failed => ?_⟩
    · cases node with
      | file old data => rfl
      | dir old inner =>
        have inside : (inner.put leaf next more).1 = .error clash := failed
        rw [putVisit] at inside
        have kept := visitSpared (ih next) _ inner inside
        rw [← putVisit] at kept
        exact congrArg (Node.dir old) kept
    · -- The directory is new, so whatever follows finds room in it.
      have made : (empty.put leaf next more).1 = .error clash := failed
      rw [putEmpty] at made
      cases made

theorem putSpared {leaf : Leaf} {name : String} {more : List String} {t after : Tree}
    {clash : Clash} (failed : t.put leaf name more = (.error clash, after)) : after = t := by
  rw [putVisit] at failed
  have kept := visitSpared (aimSpares leaf name more) (lowercase name) t (by rw [failed])
  rwa [failed] at kept

theorem insertKept {t after : Tree} {e : FileEntry} {error : TreeError}
    (failed : t.insert e = (.error error, after)) : after = t := by
  unfold insert at failed
  split at failed
  · cases failed
    rfl
  · split at failed
    · cases failed
    · rename_i placed
      cases failed
      exact putSpared placed
    · rename_i placed
      cases failed
      exact putSpared placed

theorem insertError {t after : Tree} {e : FileEntry} {error : TreeError}
    (failed : t.insert e = (.error error, after)) :
    error = .invalidPath e.name ∨ error = .dirFileClash e.name ∨ error = .fileExists e.name := by
  unfold insert at failed
  split at failed
  · cases failed
    exact .inl rfl
  · split at failed
    · cases failed
    · cases failed
      exact .inr (.inr rfl)
    · cases failed
      exact .inr (.inl rfl)

theorem insertAtomic {t after : Tree} {e : FileEntry} {error : TreeError}
    (failed : t.insert e = (.error error, after)) : after = t ∧
      (error = .invalidPath e.name ∨ error = .dirFileClash e.name ∨ error = .fileExists e.name) :=
  ⟨insertKept failed, insertError failed⟩

def lonely : Tree := dir "attic" "Attic" empty (dir "data" "Data"
  (file "a" "a" ⟨1, 0, 7, .zero⟩ empty) empty)

theorem lonelyKept : ∃ after, lonely.insert ⟨"DATA/new/../A/b/c", 2, 0, 8, .zero⟩ =
    (.error (.dirFileClash "DATA/new/../A/b/c"), after) ∧ after = lonely := by
  have failed : lonely.insert ⟨"DATA/new/../A/b/c", 2, 0, 8, .zero⟩ =
      (.error (.dirFileClash "DATA/new/../A/b/c"), _) := Prod.ext rfl rfl
  exact ⟨_, failed, (insertAtomic failed).1⟩

/-- The same insertion in one descent: what stands at the end or in the way of the path stays. -/
def place (leaf : Leaf) : Tree → String → List String → Except Clash Unit × Tree
  | empty, name, more => (.ok (), branch name leaf empty more)
  | file key old data rest, name, more =>
    match byteOrder (lowercase name) key with
    | .lt => (.ok (), branch name leaf (file key old data rest) more)
    | .gt => match place leaf rest name more with
      | (r, rest) => (r, file key old data rest)
    | .eq => (.error (if more.isEmpty then .taken else .blocked), file key old data rest)
  | dir key old inner rest, name, more =>
    match byteOrder (lowercase name) key with
    | .lt => (.ok (), branch name leaf (dir key old inner rest) more)
    | .gt => match place leaf rest name more with
      | (r, rest) => (r, dir key old inner rest)
    | .eq => match more with
      | [] => (.error .taken, dir key old inner rest)
      | next :: more => match place leaf inner next more with
        | (r, inner) => (r, dir key old inner rest)

theorem putPlace (leaf : Leaf) (name : String) (more : List String) (t : Tree) :
    t.put leaf name more = t.place leaf name more := by
  induction t generalizing name more with
  | empty => exact putEmpty leaf name more
  | file own old data rest ih =>
    rw [putVisit]
    cases order : byteOrder (lowercase name) own with
    | lt =>
      simp only [visit, place, order]
      exact aimNew leaf name more _
    | eq =>
      simp only [visit, place, order]
      cases more <;> rfl
    | gt =>
      simp only [visit, place, order]
      rw [← putVisit, ih]
      rfl
  | dir own old inner rest ihInner ih =>
    rw [putVisit]
    cases order : byteOrder (lowercase name) own with
    | lt =>
      simp only [visit, place, order]
      exact aimNew leaf name more _
    | eq =>
      cases more with
      | nil =>
        simp only [visit, place, order]
        rfl
      | cons next more =>
        simp only [visit, place, order]
        show Prod.map id _ (Prod.map id (Node.dir old) (inner.put leaf next more)) = _
        rw [ihInner]
        rfl
    | gt =>
      simp only [visit, place, order]
      rw [← putVisit, ih]
      rfl

end RootCatalog.Tree
