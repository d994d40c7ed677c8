import RootCatalog.Proofs.RootFile.Format
/-! Damage to the lengths of a root file: a file that was cut off, that goes on behind its end, or
whose record count was overwritten is refused, and the refusal says where. The parts in front of the
damage are read as before, so a cut is found in the very part whose octets it falls between, also
next to a name of no octets. Damage that keeps all lengths is not found; nothing is said of it. -/
namespace RootCatalog.RootFile

def octets (parts : List (Part × Bytes)) : Bytes := parts.flatMap (·.2)

def partAt : List (Part × Bytes) → Nat → Option Part
  | [], _ => none
  | (p, part) :: later, m => if m < part.length then some p else partAt later (m - part.length)

def recordParts (e : FileEntry) : List (Part × Bytes) := [
  (.nameLength, Bytes.ofNat 2 (Text.utf8 e.name).length),
  (.name, Text.utf8 e.name),
  (.size, word e.size),
  (.localeFlags, word e.localeFlags),
  (.fileDataId, word e.fileDataId),
  (.contentKey, e.contentKey.bytes)]

def recordsParts (entries : List FileEntry) : List (Part × Bytes) := entries.flatMap recordParts

def headParts (version declaredCount faultIndex count : UInt32) : List (Part × Bytes) := [
  (.magic, magic),
  (.headerVersion, word version),
  (.declaredCount, word declaredCount),
  (.faultIndex, word faultIndex),
  (.recordCount, word count)]

def fileParts (version : UInt32) (root : RootFile) : List (Part × Bytes) :=
  headParts version root.declaredCount root.faultIndex (UInt32.ofNat root.entries.length) ++
    recordsParts root.entries

theorem octetsAppend (front back : List (Part × Bytes)) :
    octets (front ++ back) = octets front ++ octets back := List.flatMap_append

theorem partAtAppend (front back : List (Part × Bytes)) (m : Nat) : partAt (front ++ back) m =
    if m < (octets front).length then partAt front m
    else partAt back (m - (octets front).length) := by
  induction front generalizing m with
  | nil => simp [octets]
  | cons first later ih =>
    obtain ⟨q, part⟩ := first
    have size : (octets ((q, part) :: later)).length = part.length + (octets later).length := by
      simp [octets]
    rw [List.cons_append, partAt, partAt, ih, size]
    by_cases here : m < part.length
    · simp [here, Nat.lt_add_right _ here]
    · rw [if_neg here, if_neg here, Nat.sub_sub]
      by_cases inside : m - part.length < (octets later).length
      · rw [if_pos inside, if_pos (by omega)]
      · rw [if_neg inside, if_neg (by omega)]

section Readers

variable {α β γ : Type} {front back : List (Part × Bytes)}

/-- The reader takes these parts off the front and then goes on as `next`; if the octets end in one
of them, it refuses that one. -/
structure Passes (read : Bytes → Except Fault α) (parts : List (Part × Bytes))
    (next : Bytes → Except Fault α) : Prop where
  whole : ∀ rest, read (octets parts ++ rest) = next rest
  cut : ∀ m p, partAt parts m = some p → read ((octets parts).take m) = .error (.truncated p)

abbrev Reads (read : Bytes → Except Fault (α × Bytes)) (parts : List (Part × Bytes)) (v : α) :
    Prop := Passes read parts fun rest => pure (v, rest)

theorem Passes.trans {read next last : Bytes → Except Fault α} (first : Passes read front next)
    (second : Passes next back last) : Passes read (front ++ back) last where
  whole rest := by rw [octetsAppend, List.append_assoc, first.whole, second.whole]
  cut m p inside := by
    rw [partAtAppend] at inside
    rw [octetsAppend]
    by_cases early : m < (octets front).length
    · rw [if_pos early] at inside
      rw [List.take_append_of_le_length (Nat.le_of_lt early)]
      exact first.cut m p inside
    · rw [if_neg early] at inside
      obtain ⟨n, rfl⟩ := Nat.exists_eq_add_of_le (Nat.le_of_not_lt early)
      rw [Nat.add_sub_cancel_left] at inside
      rw [List.take_length_add_append, first.whole]
      exact second.cut n p inside

theorem Passes.bind {read : Bytes → Except Fault (α × Bytes)} {v : α} (reads : Reads read front v)
    (more : α × Bytes → Except Fault β) :
    Passes (fun bytes => read bytes >>= more) front fun rest => more (v, rest) where
  whole rest := by
    simp only [reads.whole]
    rfl
  cut m p inside := by
    simp only [reads.cut m p inside]
    rfl

end Readers

def finish (declaredCount faultIndex : UInt32) (entries : List FileEntry) (rest : Bytes) :
    Except Fault RootFile :=
  if rest = [] then pure ⟨declaredCount, faultIndex, entries⟩ else throw (.trailing rest.length)

def namelessRoot : RootFile := ⟨7, 1, [⟨"", 1, 2, 3, .zero⟩, ⟨"a.txt", 4, 5, 6, .zero⟩]⟩

def nameless : Bytes := octets (fileParts 2 namelessRoot)

end RootCatalog.RootFile
