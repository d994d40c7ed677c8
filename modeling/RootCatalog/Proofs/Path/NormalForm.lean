import RootCatalog.Proofs.Path.Segments
/-! Cleaned paths are normal forms. Joined again they clean to themselves, and a path that goes on
from another one goes on from what is left of it, so that a detour can stand between any two segments.
Cleaning is by the text alone: whether a segment that two dots take back names anything is not asked. -/
namespace RootCatalog.Path

def follow (place : List String) (segment : String) : List String :=
  if segment = "" ∨ segment = "." then place
  else if segment = ".." then place.dropLast
  else place ++ [segment]

theorem followPlain {segment : String} (plain : Plain segment) (place : List String) :
    follow place segment = place ++ [segment] := by
  simp [follow, plain.named, plain.notHere, plain.notAbove]

theorem followAllPlain {rest : List String} (plain : ∀ s ∈ rest, Plain s) (place : List String) :
    rest.foldl follow place = place ++ rest := by
  induction rest generalizing place with
  | nil => exact (List.append_nil place).symm
  | cons segment rest ih =>
    obtain ⟨first, others⟩ := List.forall_mem_cons.mp plain
    rw [List.foldl_cons, followPlain first, ih others, List.append_assoc, List.singleton_append]

theorem followResolve (left : List String) (segment : String) :
    follow left.reverse segment = (resolve left segment).reverse := by
  unfold follow resolve
  split
  · rfl
  · split
    · exact List.dropLast_reverse
    · exact List.reverse_cons.symm

theorem cleanFollows (path : String) : clean path = (segments path).foldl follow [] :=
  (List.foldl_hom List.reverse followResolve).symm

theorem splitAtSlashes (chars : List Char) : split chars = chars.splitOn '/' := by
  induction chars with
  | nil => rfl
  | cons c rest ih =>
    rw [split, ih, List.splitOn_cons_eq_if_modifyHead]
    simp only [beq_iff_eq]
    split
    · rfl
    · obtain ⟨part, parts, same⟩ := List.exists_cons_of_ne_nil (List.splitOn_ne_nil '/' rest)
      rw [same, List.modifyHead_cons]

theorem segmentsIff {path : String} {parts : List String} : segments path = parts ↔
    parts ≠ [] ∧ (∀ s ∈ parts, '/' ∉ s.toList) ∧ "/".intercalate parts = path := by
  have slash : "/".toList = ['/'] := rfl
  constructor
  · rintro rfl
    refine ⟨?_, segmentsWhole path, String.toList_inj.mp ?_⟩
    · simp [segments, splitAtSlashes]
    · simp [segments, splitAtSlashes, slash, List.intercalate_splitOn, Function.comp_def]
  · rintro ⟨found, whole, rfl⟩
    rw [segments, splitAtSlashes, String.toList_intercalate, slash,
      List.splitOn_intercalate '/' (by simpa using whole) (by simpa using found)]
    simp [Function.comp_def]

theorem segmentsFound (path : String) :
    segments path ≠ [] ∧ "/".intercalate (segments path) = path := by
  obtain ⟨found, -, joined⟩ := segmentsIff.mp (Eq.refl (segments path))
  exact ⟨found, joined⟩

theorem segmentsAppend (a b : String) : segments (a ++ "/" ++ b) = segments a ++ segments b := by
  obtain ⟨foundA, joinedA⟩ := segmentsFound a
  obtain ⟨foundB, joinedB⟩ := segmentsFound b
  refine segmentsIff.mpr ⟨List.append_ne_nil_of_left_ne_nil foundA _, ?_, ?_⟩
  · exact List.forall_mem_append.mpr ⟨segmentsWhole a, segmentsWhole b⟩
  · rw [String.intercalate_append_of_ne_nil foundA foundB, joinedA, joinedB]

theorem cleanAppend (a b : String) : clean (a ++ "/" ++ b) = (segments b).foldl follow (clean a) := by
  rw [cleanFollows, cleanFollows a, segmentsAppend, List.foldl_append]

theorem cleanJoined {parts : List String} (plain : ∀ s ∈ parts, Plain s) :
    clean ("/".intercalate parts) = parts := by
  by_cases none : parts = []
  · subst none
    rfl
  · have whole : ∀ s ∈ parts, '/' ∉ s.toList := fun s member => (plain s member).whole
    rw [cleanFollows, segmentsIff.mpr ⟨none, whole, rfl⟩, followAllPlain plain, List.nil_append]

theorem cleanAboveRoot {a : String} (root : clean a = []) (b : String) :
    clean (a ++ "/../" ++ b) = clean b := by
  have apart : a ++ "/../" ++ b = a ++ "/" ++ (".." ++ "/" ++ b) := by
    simp only [String.append_assoc]
    rfl
  have above : segments ".." = [".."] := rfl
  rw [apart, cleanAppend, root, segmentsAppend, above, cleanFollows b]
  rfl

inductive Detour : List String → Prop where
  | blank : Detour [""]
  | here : Detour ["."]
  | back {segment : String} (ordinary : Plain segment) : Detour [segment, ".."]

theorem Detour.whole {detour : List String} (leads : Detour detour) :
    ∀ s ∈ detour, '/' ∉ s.toList := by
  cases leads with
  | blank => simp
  | here => simp
  | back ordinary => simpa using ordinary.whole

theorem Detour.leadsBack {detour : List String} (leads : Detour detour) (place : List String) :
    detour.foldl follow place = place := by
  cases leads with
  | blank => rfl
  | here => rfl
  | @back segment ordinary =>
    have on : [segment, ".."].foldl follow place = (place ++ [segment]).dropLast := by
      rw [List.foldl_cons, followPlain ordinary]
      rfl
    rw [on, List.dropLast_concat]

def withSegments (path : String) (boundary : Nat) (more : List String) : String :=
  "/".intercalate ((segments path).take boundary ++ more ++ (segments path).drop boundary)

theorem segmentsWith {path : String} {more : List String} (whole : ∀ s ∈ more, '/' ∉ s.toList)
    (boundary : Nat) : segments (withSegments path boundary more) =
      (segments path).take boundary ++ more ++ (segments path).drop boundary := by
  obtain ⟨found, -⟩ := segmentsFound path
  have own := segmentsWhole path
  rw [← List.take_append_drop boundary (segments path)] at found
  refine segmentsIff.mpr ⟨fun none => found ?_, ?_, rfl⟩
  · simp only [List.append_eq_nil_iff] at none ⊢
    exact ⟨none.1.1, none.2⟩
  · rw [List.forall_mem_append, List.forall_mem_append]
    exact ⟨⟨fun s member => own s (List.mem_of_mem_take member), whole⟩,
      fun s member => own s (List.mem_of_mem_drop member)⟩

theorem cleanDetour (path : String) (boundary : Nat) {detour : List String}
    (leads : Detour detour) : clean (withSegments path boundary detour) = clean path := by
  rw [cleanFollows, segmentsWith leads.whole, List.foldl_append, List.foldl_append, leads.leadsBack,
    ← List.foldl_append, List.take_append_drop, ← cleanFollows]

theorem cleanNormalForm :
    (∀ path parts, segments path = parts ↔
      parts ≠ [] ∧ (∀ s ∈ parts, '/' ∉ s.toList) ∧ "/".intercalate parts = path) ∧
    (∀ path, (∀ segment ∈ clean path, Plain segment) ∧
      clean ("/".intercalate (clean path)) = clean path) ∧
    (∀ a b, clean (a ++ "/" ++ b) = (segments b).foldl follow (clean a)) ∧
    (∀ a b, clean a = [] → clean (a ++ "/../" ++ b) = clean b) ∧
    ∀ path boundary detour, Detour detour →
      clean (withSegments path boundary detour) = clean path :=
  ⟨fun _ _ => segmentsIff, fun path => ⟨cleanPlain path, cleanJoined (cleanPlain path)⟩,
    cleanAppend, fun _ b root => cleanAboveRoot root b,
    fun path boundary _ leads => cleanDetour path boundary leads⟩

theorem climbingNormalForm : clean "a/.." = [] ∧ clean "a/../../b" = clean "b" ∧
    Detour ["c", ".."] ∧ clean "../c/..//a/b" = clean "..//a/b" := by
  obtain ⟨-, -, -, above, among⟩ := cleanNormalForm
  have root : clean "a/.." = [] := by decide +kernel
  have leads : Detour ["c", ".."] := .back ⟨by decide, by decide, by decide, by decide⟩
  exact ⟨root, above "a/.." "b" root, leads, among "..//a/b" 1 ["c", ".."] leads⟩

end RootCatalog.Path
