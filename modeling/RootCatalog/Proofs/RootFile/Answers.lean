import RootCatalog.Proofs.RootFile.Search
/-! The answers of one cursor to any number of calls. A cursor gives the matches before the fault one
by one, in the order of the records, and from then on always the same answer: the fault if the file
has a record there, else the end. Indices are words, so a file longer than a count can say is left
out; none is ever read. -/
namespace RootCatalog.RootFile

def matching (root : RootFile) (mask : String) : List Nat :=
  (List.range (min root.faultIndex.toNat root.entries.length)).filter fun i =>
    root.entries[i]?.any (isMatch mask)

def ending (faultIndex : UInt32) (records : Nat) : Except CatalogError (Option FileEntry) :=
  if faultIndex.toNat < records then
    .error (.search s!"index corrupt at record {faultIndex.toNat}")
  else .ok none

def ahead (mask : String) (faultIndex : UInt32) (n : Nat) (entries : List FileEntry) :
    List FileEntry :=
  (entries.take (faultIndex.toNat - n)).filter (isMatch mask)

variable {mask : String} {faultIndex : UInt32} {n : Nat} {e : FileEntry} {entries : List FileEntry}

theorem aheadMore (before : n < faultIndex.toNat) :
    ahead mask faultIndex n (e :: entries) =
      if isMatch mask e then e :: ahead mask faultIndex (n + 1) entries
      else ahead mask faultIndex (n + 1) entries := by
  have left : faultIndex.toNat - n = (faultIndex.toNat - (n + 1)) + 1 := by omega
  rw [ahead, left, List.take_succ_cons, List.filter_cons]
  rfl

theorem aheadBroken (there : faultIndex.toNat ≤ n) : ahead mask faultIndex n entries = [] := by
  rw [ahead, Nat.sub_eq_zero_of_le there, List.take_zero, List.filter_nil]

namespace Cursor

/-- One call: the next match is given and the others are still ahead, or nothing was ahead and the
answer is the ending. -/
inductive Gives (mask : String) (faultIndex : UInt32) (n : Nat) (entries : List FileEntry)
    (r : Except CatalogError (Option FileEntry)) (n' : Nat) (rest : List FileEntry) : Prop
  | entry (e : FileEntry) (given : r = .ok (some e))
      (others : ahead mask faultIndex n entries = e :: ahead mask faultIndex n' rest)
  | ended (given : r = ending faultIndex (n + entries.length))
      (nothing : ahead mask faultIndex n entries = [])
      (still : ahead mask faultIndex n' rest = [])

theorem seeksGives {r : Except CatalogError (Option FileEntry)} {n' : Nat} {rest : List FileEntry}
    (seeks : Seeks mask faultIndex n entries r n' rest) (before : n ≤ faultIndex.toNat)
    (few : n + entries.length < UInt32.size) :
    Gives mask faultIndex n entries r n' rest ∧ n' ≤ faultIndex.toNat ∧
      n' + rest.length = n + entries.length := by
  induction seeks with
  | exhausted n =>
    have nothing : ahead mask faultIndex n [] = [] := by rw [ahead, List.take_nil, List.filter_nil]
    refine ⟨.ended ?_ nothing nothing, before, rfl⟩
    exact (if_neg (Nat.not_lt.mpr before)).symm
  | broken n e rest fault =>
    rw [List.length_cons] at few
    have there : n = faultIndex.toNat := (indexWord (by omega) faultIndex).mp fault
    have nothing : ahead mask faultIndex n (e :: rest) = [] := aheadBroken (Nat.le_of_eq there.symm)
    refine ⟨.ended ?_ nothing nothing, before, rfl⟩
    rw [ending, if_pos (by rw [List.length_cons]; omega), there]
  | found n e rest fine wanted =>
    rw [List.length_cons] at few
    have apart : n ≠ faultIndex.toNat := mt (indexWord (by omega) faultIndex).mpr fine
    refine ⟨.entry e rfl ?_, by omega, by rw [List.length_cons]; omega⟩
    rw [aheadMore (by omega), if_pos wanted]
  | @passed n e rest r n' rest' fine unwanted onward ih =>
    rw [List.length_cons] at few
    have apart : n ≠ faultIndex.toNat := mt (indexWord (by omega) faultIndex).mpr fine
    obtain ⟨gives, behind, length⟩ := ih (by omega) (by omega)
    have skipped : ahead mask faultIndex n (e :: rest) = ahead mask faultIndex (n + 1) rest := by
      rw [aheadMore (by omega), unwanted, if_neg Bool.false_ne_true]
    have total : n + 1 + rest.length = n + (e :: rest).length := by rw [List.length_cons]; omega
    refine ⟨?_, behind, by omega⟩
    cases gives with
    | entry e' given others => exact .entry e' given (skipped.trans others)
    | ended given nothing still => exact .ended (total ▸ given) (skipped.trans nothing) still

def answer (waiting : List FileEntry) (last : Except CatalogError (Option FileEntry)) (j : Nat) :
    Except CatalogError (Option FileEntry) :=
  (waiting[j]?).elim last fun e => .ok (some e)

theorem resultsAnswered (calls : Nat) {c : Cursor} (before : c.position ≤ c.faultIndex.toNat)
    (few : c.position + c.rest.length < UInt32.size) :
    c.results calls = (List.range calls).map (answer
      (ahead c.mask c.faultIndex c.position c.rest)
      (ending c.faultIndex (c.position + c.rest.length))) := by
  induction calls generalizing c with
  | zero => rfl
  | succ calls ih =>
    rcases sought : seek c.mask c.faultIndex c.position c.rest with ⟨r, n', rest⟩
    obtain ⟨gives, behind, length⟩ := seeksGives (seeks sought) before few
    have stepped : c.next = (r, { c with position := n', rest := rest }) := by rw [next, sought]
    rw [results, stepped, ih (c := { c with position := n', rest := rest }) behind
      (by simpa only [length] using few), List.range_succ_eq_map, List.map_cons, List.map_map]
    simp only [length]
    cases gives with
    | entry e given others =>
      rw [others, given]
      rfl
    | ended given nothing still =>
      rw [nothing, still, given]
      rfl

end Cursor

theorem indexedEntries (p : FileEntry → Bool) (entries : List FileEntry) :
    ((List.range entries.length).filter fun i => entries[i]?.any p).map (entries[·]?) =
      (entries.filter p).map some := by
  have all : (List.range entries.length).map (entries[·]?) = entries.map some :=
    List.ext_getElem (by simp) fun i _ _ => by simp
  calc ((List.range entries.length).filter fun i => entries[i]?.any p).map (entries[·]?)
      = ((List.range entries.length).map (entries[·]?)).filter (Option.any p) := by
        rw [List.filter_map]; rfl
    _ = (entries.filter p).map some := by rw [all, List.filter_map]; rfl

theorem matchingEntries (root : RootFile) (mask : String) :
    (root.matching mask).map (root.entries[·]?) =
      (ahead mask root.faultIndex 0 root.entries).map some := by
  have inside {i : Nat} (member : i ∈ List.range (min root.faultIndex.toNat root.entries.length)) :
      root.entries[i]? = (root.entries.take root.faultIndex.toNat)[i]? := by
    have below := List.mem_range.mp member
    rw [List.getElem?_take_of_lt (by omega)]
  rw [ahead, Nat.sub_zero, ← indexedEntries, List.length_take, matching]
  rw [List.filter_congr fun i member => congrArg _ (inside member)]
  exact List.map_congr_left fun i member => inside (List.mem_filter.mp member).1

theorem matchingRises (root : RootFile) (mask : String) :
    (root.matching mask).Pairwise (· < ·) :=
  List.pairwise_lt_range.filter _

theorem memMatching {root : RootFile} {mask : String} {i : Nat} :
    i ∈ root.matching mask ↔ i < root.faultIndex.toNat ∧
      ∃ e, root.entries[i]? = some e ∧ Mask.matchesName mask e.name = true := by
  rw [matching, List.mem_filter, List.mem_range, Option.any_eq_true]
  constructor
  · rintro ⟨below, e, here, wanted⟩
    exact ⟨by omega, e, here, wanted⟩
  · rintro ⟨below, e, here, wanted⟩
    have inside := (List.getElem?_eq_some_iff.mp here).1
    exact ⟨by omega, e, here, wanted⟩

theorem cursorAnswers {root : RootFile} (few : root.entries.length < UInt32.size) (mask : String)
    (calls : Nat) :
    let indices := root.matching mask
    let answers := (root.cursor mask).results calls
    indices.Pairwise (· < ·) ∧
    (∀ i, i ∈ indices ↔ i < root.faultIndex.toNat ∧
      ∃ e, root.entries[i]? = some e ∧ Mask.matchesName mask e.name = true) ∧
    answers.length = calls ∧
    (∀ j i, j < calls → indices[j]? = some i →
      ∃ e, root.entries[i]? = some e ∧ answers[j]? = some (.ok (some e))) ∧
    (∀ j, j < calls → indices.length ≤ j → answers[j]? = some
      (if root.faultIndex.toNat < root.entries.length then
        .error (.search s!"index corrupt at record {root.faultIndex.toNat}")
      else .ok none)) ∧
    (root.faultIndex = noFault → ∀ answer ∈ answers, ∃ found, answer = .ok found) := by
  intro indices answers
  have before : (root.cursor mask).position ≤ root.faultIndex.toNat := Nat.zero_le _
  have within : (root.cursor mask).position + root.entries.length < UInt32.size := by
    rwa [cursor, Nat.zero_add]
  have answered : answers = (List.range calls).map (Cursor.answer
      (ahead mask root.faultIndex 0 root.entries) (ending root.faultIndex root.entries.length)) := by
    have results := Cursor.resultsAnswered calls (c := root.cursor mask) before within
    rwa [cursor, Nat.zero_add] at results
  have answerAt {j : Nat} (called : j < calls) : answers[j]? = some (Cursor.answer
      (ahead mask root.faultIndex 0 root.entries) (ending root.faultIndex root.entries.length) j) := by
    rw [answered, List.getElem?_map, List.getElem?_range called, Option.map_some]
  have entries := matchingEntries root mask
  have lengths : indices.length = (ahead mask root.faultIndex 0 root.entries).length := by
    simpa only [List.length_map] using congrArg List.length entries
  refine ⟨matchingRises root mask, fun i => memMatching, ?_, ?_, ?_, ?_⟩
  · rw [answered, List.length_map, List.length_range]
  · intro j i called index
    have shown := congrArg (·[j]?) entries
    simp only [List.getElem?_map] at shown
    rw [index, Option.map_some] at shown
    obtain ⟨e, given, here⟩ := Option.map_eq_some_iff.mp shown.symm
    exact ⟨e, here.symm, by rw [answerAt called, Cursor.answer, given]; rfl⟩
  · intro j called past
    rw [answerAt called, Cursor.answer, List.getElem?_eq_none (by omega)]
    rfl
  · intro faultless answer member
    rw [answered] at member
    obtain ⟨j, -, rfl⟩ := List.mem_map.mp member
    have never : ending root.faultIndex root.entries.length = .ok none :=
      if_neg (by rw [faultless]; exact Nat.not_lt.mpr (Nat.le_of_lt_succ few))
    rw [never, Cursor.answer]
    cases (ahead mask root.faultIndex 0 root.entries)[j]? with
    | none => exact ⟨none, rfl⟩
    | some e => exact ⟨some e, rfl⟩

def brokenAtThird : RootFile where
  declaredCount := 4
  faultIndex := 3
  entries := ["a.txt", "b.bin", "c.txt", "d.txt"].map (⟨·, 7, 1, 1, .zero⟩)

theorem brokenAtThirdAnswers : brokenAtThird.entries.length < UInt32.size ∧
    brokenAtThird.matching "*.txt" = [0, 2] ∧
    ((brokenAtThird.cursor "*.txt").results 5)[1]? = some (.ok (some ⟨"c.txt", 7, 1, 1, .zero⟩)) ∧
    ((brokenAtThird.cursor "*.txt").results 5)[4]? =
      some (.error (.search "index corrupt at record 3")) := by
  have few : brokenAtThird.entries.length < UInt32.size := by decide
  have indices : brokenAtThird.matching "*.txt" = [0, 2] := by decide
  obtain ⟨-, -, -, given, ended, -⟩ := cursorAnswers few "*.txt" 5
  rw [indices] at given ended
  obtain ⟨e, here, second⟩ := given 1 2 (by decide) rfl
  cases here
  exact ⟨few, indices, second, ended 4 (by decide) (by decide)⟩

end RootCatalog.RootFile
