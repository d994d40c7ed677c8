import RootCatalog.Path
/-! Segments that are left when a path is cleaned. None is empty, none is made of one or two dots only,
and none has a slash in it. -/
namespace RootCatalog.Path

structure Plain (segment : String) : Prop where
  named : segment ≠ ""
  notHere : segment ≠ "."
  notAbove : segment ≠ ".."
  whole : '/' ∉ segment.toList

theorem splitWhole (chars : List Char) : ∀ part ∈ split chars, '/' ∉ part := by
  induction chars with
  | nil => simp [split]
  | cons c rest ih =>
    unfold split
    split
    · simpa using ih
    · rename_i other
      split
      · simpa using Ne.symm other
      · rename_i segment more parts
        rw [parts] at ih
        simpa [Ne.symm other] using ih

theorem segmentsWhole (path : String) : ∀ segment ∈ segments path, '/' ∉ segment.toList := by
  intro segment member
  obtain ⟨part, inside, rfl⟩ := List.mem_map.mp member
  simpa using splitWhole _ part inside

theorem resolvePlain {left : List String} {segment : String} (plain : ∀ s ∈ left, Plain s)
    (whole : '/' ∉ segment.toList) : ∀ s ∈ resolve left segment, Plain s := by
  unfold resolve
  split
  · exact plain
  · rename_i some
    split
    · exact fun s member => plain s (List.mem_of_mem_tail member)
    · rename_i notAbove
      obtain ⟨named, notHere⟩ := not_or.mp some
      exact List.forall_mem_cons.mpr ⟨⟨named, notHere, notAbove, whole⟩, plain⟩

theorem foldlPlain (rest left : List String) (whole : ∀ s ∈ rest, '/' ∉ s.toList)
    (plain : ∀ s ∈ left, Plain s) : ∀ s ∈ rest.foldl resolve left, Plain s := by
  induction rest generalizing left with
  | nil => exact plain
  | cons segment rest ih =>
    obtain ⟨first, others⟩ := List.forall_mem_cons.mp whole
    exact ih _ others (resolvePlain plain first)

theorem cleanPlain (path : String) : ∀ segment ∈ clean path, Plain segment := by
  intro segment member
  refine foldlPlain (segments path) [] (segmentsWhole path) ?_ segment (List.mem_reverse.mp member)
  simp

end RootCatalog.Path
