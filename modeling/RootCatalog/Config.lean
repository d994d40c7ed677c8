import RootCatalog.Json.Printer
import RootCatalog.Json.Record
/-! The configuration of one enumeration, with its JSON form. Every field has a default, and an
empty document stands for the defaults. -/
namespace RootCatalog

structure Config where
  searchMask : String
  strictEntryCount : Bool
  maxPreallocatedEntries : UInt64
  deriving DecidableEq, Repr

namespace Config

def default : Config := ⟨"*", false, 1048576⟩

instance : Inhabited Config := ⟨default⟩

def withSearchMask (c : Config) (mask : String) : Config := { c with searchMask := mask }

def withStrictEntryCount (c : Config) (strict : Bool) : Config :=
  { c with strictEntryCount := strict }

def initialCapacity (c : Config) (declared : UInt32) : UInt64 :=
  min declared.toUInt64 c.maxPreallocatedEntries

def json (c : Config) : String :=
  Json.objectText [
    ("search_mask", Json.stringText c.searchMask),
    ("strict_entry_count", if c.strictEntryCount then "true" else "false"),
    ("max_preallocated_entries", toString c.maxPreallocatedEntries.toNat)]

structure Draft where
  searchMask : Option String
  strictEntryCount : Option Bool
  maxPreallocatedEntries : Option UInt64
  deriving DecidableEq, Repr

def Draft.blank : Draft := ⟨none, none, none⟩

def Draft.filled (d : Draft) : Config where
  searchMask := d.searchMask.getD default.searchMask
  strictEntryCount := d.strictEntryCount.getD default.strictEntryCount
  maxPreallocatedEntries := d.maxPreallocatedEntries.getD default.maxPreallocatedEntries

def fields : List (Json.Field Draft) := [
  ⟨"search_mask", (·.searchMask.isSome),
    fun t d => do pure { d with searchMask := some (← t.asString "a string") }⟩,
  ⟨"strict_entry_count", (·.strictEntryCount.isSome),
    fun t d => do pure { d with strictEntryCount := some (← t.asBool) }⟩,
  ⟨"max_preallocated_entries", (·.maxPreallocatedEntries.isSome),
    fun t d => do pure { d with maxPreallocatedEntries := some (← t.asUInt64) }⟩]

def form : Json.RecordForm Draft Config where
  title := "struct BridgeConfig"
  fields := fields
  blank := Draft.blank
  complete d := .ok d.filled
  short _ := none

def ofJson (document : Bytes) : Except Json.Fault Config :=
  if document.isEmpty then .ok default else form.read document

end Config
end RootCatalog
