import RootCatalog.Proofs.Text.Utf8
import RootCatalog.ResultSet
/-! The room of a result set that fills up. No set that starts empty and stays below the largest
count asks for more room than an array can have, so only a name with a zero in it is refused. -/
namespace RootCatalog

def HostRecord.spelled (e : FileEntry) : HostRecord :=
  ⟨some (Text.utf8 e.name ++ [0]), e.size, e.localeFlags, e.fileDataId, e.contentKey⟩

theorem HostRecord.ofEntryClean {e : FileEntry} (clean : '\x00' ∉ e.name.toList) :
    ofEntry e = .ok (spelled e) := by
  have none : ¬ (Text.utf8 e.name).contains 0 = true := mt Text.zeroOctet.mp clean
  rw [ofEntry, if_neg none, spelled]

theorem HostRecord.ofEntryZero {e : FileEntry} (zero : '\x00' ∈ e.name.toList) :
    ofEntry e = .error (.invalidEntryName e.name) := by
  rw [ofEntry, if_pos (Text.zeroOctet.mpr zero)]

theorem HostRecord.toEntrySpelled {e : FileEntry} (clean : '\x00' ∉ e.name.toList) :
    (spelled e).toEntry = e := by
  have octets : ∀ b ∈ Text.utf8 e.name, b ≠ 0 := by
    intro b member zero
    exact clean (Text.zeroOctet.mp (by simpa [zero] using member))
  have name : (spelled e).nameText = e.name := by
    unfold nameText spelled
    simp only
    rw [List.takeWhile_append_of_pos (by simpa using octets)]
    simp [Text.decodeUtf8]
  rw [toEntry, name]
  rfl

namespace ResultSet

structure Roomy (s : ResultSet) (n : Nat) : Prop where
  size : s.files.size + n < UInt32.size
  capacity : s.capacity ≤ 2 * UInt32.size

theorem roomyEmpty {n : Nat} (few : n < UInt32.size) : empty.Roomy n where
  size := by simpa [empty] using few
  capacity := by decide

theorem grownWithin {s : ResultSet} {n additional : Nat} (roomy : s.Roomy n)
    (few : additional ≤ n) : s.grown additional ≤ 2 * UInt32.size := by
  have size := roomy.size
  have capacity := roomy.capacity
  unfold grown
  split <;> omega

theorem withinLimits {n : Nat} (within : n ≤ 2 * UInt32.size) : exceeds n = false := by
  have bound : n ≤ 8589934592 := within
  exact decide_eq_false (by unfold maxArrayBytes HostRecord.width; omega)

theorem wordSize : UInt32.size = maxCount + 1 := rfl

theorem Roomy.fewer {s : ResultSet} {n : Nat} (roomy : s.Roomy (n + 1)) :
    ¬ maxCount ≤ s.files.size := by
  have size := roomy.size
  rw [wordSize] at size
  omega

theorem reserved {s : ResultSet} {n : Nat} {count : UInt64} (roomy : s.Roomy n)
    (asked : s.files.size + count.toNat < UInt32.size) :
    ∃ t, destination.reserve count s = (.ok (), t) ∧ t.files = s.files ∧ t.Roomy n := by
  have grows : s.grown count.toNat ≤ 2 * UInt32.size := by
    have capacity := roomy.capacity
    unfold grown
    split <;> omega
  have fits : exceeds (s.grown count.toNat) = false := withinLimits grows
  simp only [destination, reserve, fits, kept, if_neg Bool.false_ne_true]
  exact ⟨_, rfl, rfl, roomy.size, grows⟩

theorem pushedClean {s : ResultSet} {n : Nat} {e : FileEntry} (roomy : s.Roomy (n + 1))
    (clean : '\x00' ∉ e.name.toList) : ∃ t, destination.push e s = (.ok (), t) ∧
      t.files = s.files.push (.spelled e) ∧ t.Roomy n := by
  have size := roomy.size
  have grows : s.grown 1 ≤ 2 * UInt32.size := grownWithin roomy (Nat.le_add_left 1 n)
  have fits : exceeds (s.grown 1) = false := withinLimits grows
  simp only [destination, push, if_neg roomy.fewer, HostRecord.ofEntryClean clean, fits, kept,
    if_neg Bool.false_ne_true]
  exact ⟨_, rfl, rfl, by rw [Array.size_push]; omega, grows⟩

theorem pushedZero {s : ResultSet} {n : Nat} {e : FileEntry} (roomy : s.Roomy (n + 1))
    (zero : '\x00' ∈ e.name.toList) :
    destination.push e s = (.error (.invalidEntryName e.name), s) := by
  simp only [destination, push, if_neg roomy.fewer, HostRecord.ofEntryZero zero, kept]

theorem toHostRoomy {s : ResultSet} {n : Nat} (roomy : s.Roomy n) :
    s.toHost = .ok ⟨s.files, UInt32.ofNat s.files.size⟩ := by
  have size := roomy.size
  rw [wordSize] at size
  rw [toHost, if_pos (by omega)]

end ResultSet
end RootCatalog
