import RootCatalog.Proofs.ResultSet.Room
/-! What a result set holds after any use: entries are pushed, room is asked for, and the array goes to
the host and comes back, in any order. Its records are those of the pushes that were answered with
success, one for each and in their order. Room that no array can have is refused here, too, and
changes nothing; real allocation is taken to succeed. -/
namespace RootCatalog.ResultSet

inductive Operation where
  | push (e : FileEntry)
  | reserve (additional : Nat)
  | handOver
  deriving DecidableEq, Repr

def perform (s : ResultSet) : Operation → Except CatalogError Unit × ResultSet
  | .push e => s.kept (s.push e)
  | .reserve additional => s.kept (s.reserve additional)
  | .handOver =>
    match s.toHost with
    | .ok a => (.ok (), ofHost (some a))
    | .error fault => (.error fault, empty)

def performAll (s : ResultSet) : List Operation → List (Except CatalogError Unit) × ResultSet
  | [] => ([], s)
  | op :: later =>
    let rest := (s.perform op).2.performAll later
    ((s.perform op).1 :: rest.1, rest.2)

def Operation.accepted? : Operation → Except CatalogError Unit → Option FileEntry
  | push e, .ok () => some e
  | _, _ => none

def accepted (operations : List Operation) (answers : List (Except CatalogError Unit)) :
    List FileEntry :=
  (operations.zip answers).filterMap fun (op, answer) => op.accepted? answer

structure Holds (s : ResultSet) (entries : List FileEntry) : Prop where
  files : s.files.toList = entries.map .spelled
  clean : ∀ e ∈ entries, '\x00' ∉ e.name.toList
  few : s.files.size ≤ maxCount
  allowed : exceeds s.capacity = false

theorem holdsEmpty : empty.Holds [] where
  files := rfl
  clean := by simp
  few := Nat.zero_le _
  allowed := rfl

namespace Holds

variable {s : ResultSet} {entries : List FileEntry}

theorem told (holds : s.Holds entries) : s.entries = entries := by
  rw [ResultSet.entries, holds.files, List.map_map]
  refine (List.map_congr_left fun e member => ?_).trans (List.map_id entries)
  exact HostRecord.toEntrySpelled (holds.clean e member)

theorem grownAllowed (holds : s.Holds entries) (fewer : s.files.size < maxCount) :
    exceeds (s.grown 1) = false := by
  unfold grown
  split
  · exact holds.allowed
  · refine withinLimits ?_
    rw [wordSize]
    omega

inductive Pushes (s : ResultSet) (entries : List FileEntry) (e : FileEntry) :
    Except CatalogError Unit → ResultSet → Prop
  | full (room : maxCount ≤ s.length) : Pushes s entries e
      (.error (.allocation "result set cannot hold more than u32::MAX entries")) s
  | zero (room : ¬ maxCount ≤ s.length) (zero : '\x00' ∈ e.name.toList) :
      Pushes s entries e (.error (.invalidEntryName e.name)) s
  | taken {t : ResultSet} (room : ¬ maxCount ≤ s.length) (clean : '\x00' ∉ e.name.toList)
      (holds : t.Holds (entries ++ [e])) : Pushes s entries e (.ok ()) t

theorem pushes (holds : s.Holds entries) (e : FileEntry) :
    ∃ r t, s.perform (.push e) = (r, t) ∧ Pushes s entries e r t := by
  by_cases room : maxCount ≤ s.files.size
  · refine ⟨_, _, ?_, .full room⟩
    rw [perform, push, if_pos room, kept]
  by_cases zero : '\x00' ∈ e.name.toList
  · refine ⟨_, _, ?_, .zero room zero⟩
    rw [perform, push, if_neg room, HostRecord.ofEntryZero zero]
    rfl
  · have fewer := Nat.lt_of_not_le room
    have allowed := holds.grownAllowed fewer
    have fits := s.grownFits 1
    let t : ResultSet := ⟨s.files.push (.spelled e), s.grown 1, by rwa [Array.size_push]⟩
    have grows : t.Holds (entries ++ [e]) := by
      refine ⟨?_, ?_, ?_, allowed⟩
      · rw [Array.toList_push, holds.files, List.map_append]
        rfl
      · simpa [or_imp, forall_and, zero] using holds.clean
      · rwa [Array.size_push]
    refine ⟨_, t, ?_, .taken room zero grows⟩
    rw [perform, push, if_neg room, HostRecord.ofEntryClean zero]
    simp only [allowed, if_neg Bool.false_ne_true]
    rfl

theorem reserved (holds : s.Holds entries) (additional : Nat) :
    (s.kept (s.reserve additional)).2.Holds entries ∧
      ∀ fault, (s.kept (s.reserve additional)).1 = .error fault →
        (s.kept (s.reserve additional)).2 = s := by
  rw [reserve]
  cases beyond : exceeds (s.grown additional) with
  | true => exact ⟨holds, fun _ _ => rfl⟩
  | false =>
    refine ⟨⟨holds.files, holds.clean, holds.few, beyond⟩, ?_⟩
    rintro fault ⟨⟩

theorem handedOver (holds : s.Holds entries) : ∃ a, s.toHost = .ok a ∧
    a.count.toNat = s.length ∧ (ofHost (some a)).capacity = (ofHost (some a)).length ∧
      (ofHost (some a)).Holds entries := by
  have few := holds.few
  have fits : s.files.size < UInt32.size := Nat.lt_succ_of_le few
  refine ⟨_, if_pos few, UInt32.toNat_ofNat_of_lt' fits, rfl, holds.files, holds.clean, few, ?_⟩
  refine withinLimits ?_
  change s.files.size ≤ _
  omega

end Holds

theorem holdsPerformed {s : ResultSet} {entries : List FileEntry} (holds : s.Holds entries)
    (op : Operation) :
    (s.perform op).2.Holds (entries ++ (op.accepted? (s.perform op).1).toList) ∧
      ∀ fault, (s.perform op).1 = .error fault → (s.perform op).2 = s := by
  cases op with
  | push e =>
    obtain ⟨r, t, performed, pushes⟩ := holds.pushes e
    rw [performed]
    cases pushes with
    | full room => exact ⟨(List.append_nil entries).symm ▸ holds, fun _ _ => rfl⟩
    | zero room zero => exact ⟨(List.append_nil entries).symm ▸ holds, fun _ _ => rfl⟩
    | taken room clean grows =>
      refine ⟨grows, ?_⟩
      rintro fault ⟨⟩
  | reserve additional =>
    obtain ⟨still, unchanged⟩ := holds.reserved additional
    exact ⟨(List.append_nil entries).symm ▸ still, unchanged⟩
  | handOver =>
    obtain ⟨a, gone, -, -, back⟩ := holds.handedOver
    simp only [perform, gone]
    refine ⟨(List.append_nil entries).symm ▸ back, ?_⟩
    rintro fault ⟨⟩

theorem holdsPerformedAll {s : ResultSet} {entries : List FileEntry} (holds : s.Holds entries)
    (operations : List Operation) :
    (s.performAll operations).2.Holds
      (entries ++ accepted operations (s.performAll operations).1) := by
  induction operations generalizing s entries with
  | nil => exact (List.append_nil entries).symm ▸ holds
  | cons op later ih =>
    have onward := ih (holdsPerformed holds op).1
    rw [List.append_assoc] at onward
    have told : accepted (op :: later) (s.performAll (op :: later)).1 =
        (op.accepted? (s.perform op).1).toList ++
          accepted later ((s.perform op).2.performAll later).1 := by
      simp only [accepted, performAll, List.zip_cons_cons, List.filterMap_cons]
      cases op.accepted? (s.perform op).1 <;> rfl
    rwa [told]

theorem performLength (s : ResultSet) (operations : List Operation) :
    (s.performAll operations).1.length = operations.length := by
  induction operations generalizing s with
  | nil => rfl
  | cons op later ih => simp only [performAll, List.length_cons, ih]

theorem contentsKept (operations : List Operation) :
    let run := empty.performAll operations
    let entries := accepted operations run.1
    run.1.length = operations.length ∧
    (∀ e, (run.2.perform (.push e)).1 =
      if maxCount ≤ run.2.length then
        .error (.allocation "result set cannot hold more than u32::MAX entries")
      else if '\x00' ∈ e.name.toList then .error (.invalidEntryName e.name)
      else .ok ()) ∧
    (∀ op fault, (run.2.perform op).1 = .error fault → (run.2.perform op).2 = run.2) ∧
    run.2.entries = entries ∧
    run.2.files.toList.map HostRecord.name =
      entries.map (fun e => some (Text.utf8 e.name ++ [0])) ∧
    (∀ e ∈ entries, 0 ∉ Text.utf8 e.name) ∧
    ∃ a, run.2.toHost = .ok a ∧ a.count.toNat = run.2.length ∧
      (ofHost (some a)).capacity = (ofHost (some a)).length ∧
      (ofHost (some a)).entries = entries := by
  intro run entries
  have holds : run.2.Holds entries := holdsPerformedAll holdsEmpty operations
  refine ⟨performLength empty operations, fun e => ?_, fun op => (holdsPerformed holds op).2,
    holds.told, ?_, fun e member => ?_, ?_⟩
  · obtain ⟨r, t, performed, pushes⟩ := holds.pushes e
    rw [performed]
    cases pushes with
    | full room => rw [if_pos room]
    | zero room zero => rw [if_neg room, if_pos zero]
    | taken room clean grows => rw [if_neg room, if_neg clean]
  · rw [holds.files, List.map_map]
    rfl
  · have clean := holds.clean e member
    rw [← Text.zeroOctet] at clean
    simpa using clean
  · obtain ⟨a, gone, count, exactly, back⟩ := holds.handedOver
    exact ⟨a, gone, count, exactly, back.told⟩

end RootCatalog.ResultSet
