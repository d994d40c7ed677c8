import RootCatalog.Destination
import RootCatalog.Text.Utf8
/-! Result sets: entries as a host keeps them, with names in zero-terminated buffers, in one array
that can be handed over and taken back. Real allocation is taken to succeed; only room that no
array can have is refused. -/
namespace RootCatalog

/-- One entry for the host. The name is a buffer that ends with its first zero, or is absent. -/
structure HostRecord where
  name : Option Bytes
  size : UInt32
  localeFlags : UInt32
  fileDataId : UInt32
  encodingKey : ContentKey
  deriving DecidableEq, Repr

namespace HostRecord

def ofEntry (e : FileEntry) : Except CatalogError HostRecord :=
  let octets := Text.utf8 e.name
  if octets.contains 0 then .error (.invalidEntryName e.name)
  else .ok ⟨some (octets ++ [0]), e.size, e.localeFlags, e.fileDataId, e.contentKey⟩

def nameText (r : HostRecord) : String :=
  match r.name with
  | none => ""
  | some buffer =>
    match Text.decode (buffer.takeWhile (· ≠ 0)) with
    | .ok name => name
    | .error _ => ""

def toEntry (r : HostRecord) : FileEntry :=
  ⟨r.nameText, r.size, r.localeFlags, r.fileDataId, r.encodingKey⟩

def width : Nat := 40

end HostRecord

structure ResultSet where
  files : Array HostRecord
  capacity : Nat
  filesFit : files.size ≤ capacity
  deriving Repr

structure HostArray where
  files : Array HostRecord
  count : UInt32
  deriving Repr

namespace ResultSet

def maxCount : Nat := 4294967295

def empty : ResultSet := ⟨#[], 0, Nat.le_refl 0⟩

instance : Inhabited ResultSet := ⟨empty⟩

def length (s : ResultSet) : Nat := s.files.size

def grown (s : ResultSet) (additional : Nat) : Nat :=
  if s.files.size + additional ≤ s.capacity then s.capacity
  else max 4 (max (2 * s.capacity) (s.files.size + additional))

theorem grownFits (s : ResultSet) (additional : Nat) :
    s.files.size + additional ≤ s.grown additional := by
  unfold grown
  split
  · assumption
  · omega

def exceeds (capacity : Nat) : Bool := maxArrayBytes < capacity * HostRecord.width

def reserve (s : ResultSet) (additional : Nat) : Except CatalogError ResultSet :=
  if exceeds (s.grown additional) then .error .capacityExceeded
  else .ok ⟨s.files, s.grown additional, Nat.le_trans (Nat.le_add_right _ _) (s.grownFits additional)⟩

def push (s : ResultSet) (e : FileEntry) : Except CatalogError ResultSet :=
  if maxCount ≤ s.files.size then
    .error (.allocation "result set cannot hold more than u32::MAX entries")
  else
    match HostRecord.ofEntry e with
    | .error error => .error error
    | .ok r =>
      if exceeds (s.grown 1) then .error .capacityExceeded
      else .ok ⟨s.files.push r, s.grown 1, by rw [Array.size_push]; exact s.grownFits 1⟩

def entries (s : ResultSet) : List FileEntry := s.files.toList.map HostRecord.toEntry

def toHost (s : ResultSet) : Except CatalogError HostArray :=
  if s.files.size ≤ maxCount then .ok ⟨s.files, UInt32.ofNat s.files.size⟩
  else .error (.allocation "result set holds more than u32::MAX entries")

def ofHost : Option HostArray → ResultSet
  | none => empty
  | some a => ⟨a.files, a.files.size, Nat.le_refl _⟩

def kept (s : ResultSet) : Except CatalogError ResultSet → Except CatalogError Unit × ResultSet
  | .ok s => (.ok (), s)
  | .error e => (.error e, s)

def destination : Destination ResultSet where
  reserve count s := s.kept (s.reserve count.toNat)
  push e s := s.kept (s.push e)
  length := length

end ResultSet
end RootCatalog
