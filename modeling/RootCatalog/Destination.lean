import RootCatalog.CatalogError
import RootCatalog.FileEntry
/-! Where the entries of an enumeration go. A destination is asked for room once and then given the
entries one by one; either may fail. It sees nothing but its own contents: a destination that drives
the same enumeration again while it is given an entry is left out. -/
namespace RootCatalog

structure Destination (δ : Type) where
  reserve : UInt64 → δ → Except CatalogError Unit × δ
  push : FileEntry → δ → Except CatalogError Unit × δ
  length : δ → Nat

def maxArrayBytes : Nat := 9223372036854775807

def entryWidth : Nat := 56

namespace Destination

def entries : Destination (Array FileEntry) where
  reserve count d :=
    if maxArrayBytes < (d.size + count.toNat) * entryWidth then (.error .capacityExceeded, d)
    else (.ok (), d)
  push e d := (.ok (), d.push e)
  length d := d.size

end Destination

structure Bounded where
  copied : Array FileEntry := #[]
  reserved : Array UInt64 := #[]

structure Bounds where
  reserveError : Option CatalogError := none
  limit : Option Nat := none
  reportedLength : Option Nat := none

def Bounds.destination (b : Bounds) : Destination Bounded where
  reserve count d :=
    let d := { d with reserved := d.reserved.push count }
    match b.reserveError with
    | some e => (.error e, d)
    | none => (.ok (), d)
  push e d :=
    if b.limit.any (· ≤ d.copied.size) then (.error (.allocation "name buffer"), d)
    else (.ok (), { d with copied := d.copied.push e })
  length d := b.reportedLength.getD d.copied.size

end RootCatalog
