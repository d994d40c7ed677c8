import RootCatalog.Proofs.Session.Guards
import RootCatalog.RootFile.Handler
/-! Searches of root files in the reference format: what one more entry is, record by record, and
which record, if any, keeps a search from filling a result set. No call of the handler panics, and no
search goes on for ever. The index of a record is a word, so it is compared as a number only below the
largest count. -/
namespace RootCatalog.RootFile

theorem raisedCalm {α : Type} (r : Except CatalogError α) (p : Panic) :
    raised r ≠ .error (.panic p) := by
  cases r <;> nofun

theorem neverPanics : handler.NeverPanics where
  openRoot _ _ p _ answer := raisedCalm _ p (Prod.mk.inj answer).1
  fileCount _ _ _ _ answer := nomatch answer
  beginSearch _ _ _ _ _ answer := nomatch answer
  nextMatch _ _ p _ _ answer := raisedCalm _ p (Prod.mk.inj answer).1
  endSearch _ _ _ _ answer := nomatch answer
  close _ _ _ _ answer := nomatch answer

theorem nextSought {mask : String} {faultIndex : UInt32} {n : Nat} {entries : List FileEntry}
    {r : Except CatalogError (Option FileEntry)} {n' : Nat} {rest : List FileEntry}
    (sought : Cursor.seek mask faultIndex n entries = (r, n', rest)) (w : Stats) :
    handler.nextMatch (Cursor.mk mask faultIndex n entries) w =
      (raised r, Cursor.mk mask faultIndex n' rest, w) := by
  simp only [handler, Cursor.next, sought]

theorem halts (c : handler.Cursor) (w : Stats) : handler.Halts c w := by
  induction bound : c.rest.length using Nat.strongRecOn generalizing c with
  | _ n ih =>
    have step : handler.nextMatch c w = (raised c.next.1, c.next.2, w) := rfl
    rcases next : c.next with ⟨e | none | x, c'⟩
    · rw [next] at step
      exact ⟨_, _, .fault step⟩
    · rw [next] at step
      exact ⟨_, _, .ended step⟩
    · rw [next] at step
      obtain ⟨found, ending, rest⟩ := ih _ (bound ▸ Cursor.nextShorter next) c' rfl
      exact ⟨_, _, .more step rest⟩

theorem finite : handler.Finite := fun _ _ _ c w _ => halts c w

theorem openedParsed {blob : Bytes} {root : RootFile} (parsed : parse blob = .ok root) (w : Stats) :
    handler.openRoot blob w = (.ok root, { w with opened := w.opened + 1 }) := by
  simp only [handler, openCounted, parsed]
  rfl

theorem opensParsed {δ : Type} {blob : Bytes} {root : RootFile} (parsed : parse blob = .ok root)
    {a : Account Stats δ} (fresh : a.phase.allows .sessionOpen = true) :
    Session.Opens handler false blob a (.ok root)
      ((a.called { a.world with opened := a.world.opened + 1 } .openRoot .done).entered
        .sessionOpen) :=
  .unseen (openedParsed parsed a.world) fresh rfl

def isMatch (mask : String) (e : FileEntry) : Bool := Mask.matchesName mask e.name

/-- The record at index `i` cannot be passed: the search breaks off there, or the record matches and
its name has a zero in it. -/
def obstructs (mask : String) (faultIndex : UInt32) (e : FileEntry) (i : Nat) : Bool :=
  i = faultIndex.toNat || isMatch mask e && decide ('\x00' ∈ e.name.toList)

def obstacle (mask : String) (faultIndex : UInt32) (n : Nat) (entries : List FileEntry) :
    Option (FileEntry × Nat) :=
  (entries.zipIdx n).find? fun (e, i) => obstructs mask faultIndex e i

theorem obstacleCons (mask : String) (faultIndex : UInt32) (n : Nat) (e : FileEntry)
    (rest : List FileEntry) : obstacle mask faultIndex n (e :: rest) =
      if obstructs mask faultIndex e n then some (e, n)
      else obstacle mask faultIndex (n + 1) rest := by
  rw [obstacle, List.zipIdx_cons, List.find?_cons]
  simp only
  cases obstructs mask faultIndex e n <;> rfl

theorem indexWord {n : Nat} (few : n < UInt32.size) (faultIndex : UInt32) :
    UInt32.ofNat n = faultIndex ↔ n = faultIndex.toNat := by
  rw [← UInt32.toNat_inj, UInt32.toNat_ofNat_of_lt' few]

namespace Cursor

inductive Seeks (mask : String) (faultIndex : UInt32) : Nat → List FileEntry →
    Except CatalogError (Option FileEntry) → Nat → List FileEntry → Prop
  | exhausted (n) : Seeks mask faultIndex n [] (.ok none) n []
  | broken (n e rest) (fault : UInt32.ofNat n = faultIndex) :
      Seeks mask faultIndex n (e :: rest)
        (.error (.search s!"index corrupt at record {n}")) n (e :: rest)
  | found (n e rest) (fine : UInt32.ofNat n ≠ faultIndex) (wanted : isMatch mask e = true) :
      Seeks mask faultIndex n (e :: rest) (.ok (some e)) (n + 1) rest
  | passed {n e rest r n' rest'} (fine : UInt32.ofNat n ≠ faultIndex)
      (unwanted : isMatch mask e = false) (onward : Seeks mask faultIndex (n + 1) rest r n' rest') :
      Seeks mask faultIndex n (e :: rest) r n' rest'

theorem seeks {mask : String} {faultIndex : UInt32} {n : Nat} {entries : List FileEntry}
    {r : Except CatalogError (Option FileEntry)} {n' : Nat} {rest : List FileEntry}
    (sought : seek mask faultIndex n entries = (r, n', rest)) :
    Seeks mask faultIndex n entries r n' rest := by
  induction entries generalizing n with
  | nil =>
    cases sought
    exact .exhausted _
  | cons e tail ih =>
    unfold seek at sought
    split at sought
    · cases sought
      exact .broken _ _ _ (by assumption)
    · split at sought
      · cases sought
        exact .found _ _ _ (by assumption) (by assumption)
      · exact .passed (by assumption) (Bool.eq_false_iff.mpr (by assumption)) (ih sought)

variable {mask : String} {faultIndex : UInt32} {n : Nat} {entries : List FileEntry}

theorem passedObstacle {e : FileEntry} (few : n < UInt32.size) (fine : UInt32.ofNat n ≠ faultIndex)
    (harmless : isMatch mask e = false ∨ '\x00' ∉ e.name.toList) :
    obstacle mask faultIndex n (e :: entries) = obstacle mask faultIndex (n + 1) entries := by
  have apart : n ≠ faultIndex.toNat := mt (indexWord few faultIndex).mpr fine
  have free : obstructs mask faultIndex e n = false := by
    rcases harmless with unwanted | clean
    · simp [obstructs, apart, unwanted]
    · simp [obstructs, apart, clean]
  rw [obstacleCons, free, if_neg Bool.false_ne_true]

theorem seeksEnd {r : Except CatalogError (Option FileEntry)} {n' : Nat} {rest : List FileEntry}
    (seeks : Seeks mask faultIndex n entries r n' rest) (few : n + entries.length < UInt32.size)
    (ended : r = .ok none) :
    obstacle mask faultIndex n entries = none ∧ entries.filter (isMatch mask) = [] := by
  induction seeks with
  | exhausted n => exact ⟨rfl, rfl⟩
  | broken n e rest fault => cases ended
  | found n e rest fine wanted => cases ended
  | @passed n e rest r n' rest' fine unwanted onward ih =>
    rw [List.length_cons] at few
    obtain ⟨free, nothing⟩ := ih (by omega) ended
    rw [passedObstacle (by omega) fine (.inl unwanted), List.filter_cons, unwanted]
    exact ⟨free, nothing⟩

theorem seeksFault {r : Except CatalogError (Option FileEntry)} {n' : Nat} {rest : List FileEntry}
    {fault : CatalogError} (seeks : Seeks mask faultIndex n entries r n' rest)
    (few : n + entries.length < UInt32.size) (broken : r = .error fault) :
    fault.status = 3 ∧ ∃ e, obstacle mask faultIndex n entries = some (e, faultIndex.toNat) := by
  induction seeks with
  | exhausted n => cases broken
  | broken n e rest fault =>
    cases broken
    rw [List.length_cons] at few
    have same : n = faultIndex.toNat := (indexWord (by omega) faultIndex).mp fault
    exact ⟨rfl, e, by rw [obstacleCons, if_pos (by simp [obstructs, same]), same]⟩
  | found n e rest fine wanted => cases broken
  | @passed n e rest r n' rest' fine unwanted onward ih =>
    rw [List.length_cons] at few
    rw [passedObstacle (by omega) fine (.inl unwanted)]
    exact ih (by omega) broken

theorem seeksFound {r : Except CatalogError (Option FileEntry)} {n' : Nat} {rest : List FileEntry}
    {e : FileEntry} (seeks : Seeks mask faultIndex n entries r n' rest)
    (few : n + entries.length < UInt32.size) (found : r = .ok (some e)) :
    n' + rest.length = n + entries.length ∧ rest.length < entries.length ∧
      entries.filter (isMatch mask) = e :: rest.filter (isMatch mask) ∧
      ('\x00' ∉ e.name.toList →
        obstacle mask faultIndex n entries = obstacle mask faultIndex n' rest) ∧
      ('\x00' ∈ e.name.toList → ∃ i, i ≠ faultIndex.toNat ∧
        obstacle mask faultIndex n entries = some (e, i)) := by
  induction seeks with
  | exhausted n => cases found
  | broken n e rest fault => cases found
  | found n e rest fine wanted =>
    cases found
    rw [List.length_cons] at few
    have apart : n ≠ faultIndex.toNat := mt (indexWord (by omega) faultIndex).mpr fine
    constructor
    · rw [List.length_cons]
      omega
    refine ⟨by simp, by simp [wanted], fun clean => ?_, fun zero => ⟨n, apart, ?_⟩⟩
    · exact passedObstacle (by omega) fine (.inr clean)
    · rw [obstacleCons, if_pos (by simp [obstructs, wanted, zero])]
  | @passed n e' rest r n' rest' fine unwanted onward ih =>
    rw [List.length_cons] at few
    obtain ⟨position, shorter, found, clean, zero⟩ := ih (by omega) found
    rw [passedObstacle (by omega) fine (.inl unwanted), List.filter_cons, unwanted,
      List.length_cons]
    exact ⟨by omega, by omega, found, clean, zero⟩

end Cursor
end RootCatalog.RootFile
