import RootCatalog.Enumeration
import RootCatalog.ResultSet
import Std.Data.TreeMap
/-! The ways to enumerate a root file: into entries, into a map by name, into a result set, and for a
host that passes arrays of octets and receives a status. -/
namespace RootCatalog

variable {ω : Type} (h : Handler ω)

namespace Enumeration

def collect (e : Enumeration) (blob : Bytes) (log : Log.Pipeline) (world : ω) :
    Except Stop Unit × Run ω (Array FileEntry) :=
  e.drive h Destination.entries blob log world #[]

def run (e : Enumeration) (blob : Bytes) (log : Log.Pipeline) (world : ω) :
    Except Stop Unit × Run ω ResultSet :=
  e.drive h ResultSet.destination blob log world .empty

end Enumeration

abbrev FileMap := Std.TreeMap String FileEntry Text.byteOrder

def FileMap.ofEntries (entries : List FileEntry) : FileMap :=
  entries.foldl (fun m e => m.insert e.name e) ∅

def delivered {δ : Type} : Except Stop Unit × Run ω δ → Except Stop δ × Run ω δ
  | (.ok (), s) => (.ok s.destination, s)
  | (.error stop, s) => (.error stop, s)

def enumerate (config : Config) (blob : Bytes) (log : Log.Pipeline) (world : ω) :
    Except Stop (Array FileEntry) × Run ω (Array FileEntry) :=
  delivered ((Enumeration.mk config .unopened).collect h blob log world)

def enumerateFiles (config : Config) (blob : Bytes) (log : Log.Pipeline) (world : ω) :
    Except Stop ResultSet × Run ω ResultSet :=
  delivered ((Enumeration.mk config .unopened).run h blob log world)

def fileMap (config : Config) (blob : Bytes) (log : Log.Pipeline) (world : ω) :
    Except Stop FileMap × Run ω (Array FileEntry) :=
  match enumerate h config blob log world with
  | (r, s) => (r.map fun entries => .ofEntries entries.toList, s)

namespace Export

def target : String := "mndx_ffi::exports"

/-- The arguments of a host. An absent array may come with any length; a length may be shorter than
the array that it goes with. -/
structure Arguments where
  root : Option Bytes
  rootLength : UInt32
  config : Option Bytes
  configLength : UInt64
  filesWritable : Bool
  countWritable : Bool
  deriving DecidableEq, Repr

structure Reply where
  status : Int
  written : Option HostArray
  deriving Repr

def Arguments.blob (a : Arguments) : Except CatalogError Bytes :=
  if !(a.filesWritable && a.countWritable) then
    .error (.invalidArgument "output pointers must not be null")
  else match a.root with
    | some bytes => .ok (bytes.take a.rootLength.toNat)
    | none =>
      if a.rootLength = 0 then .ok []
      else .error (.invalidArgument s!"root file is null but length is {a.rootLength}")

def Arguments.settings (a : Arguments) : Except CatalogError Config :=
  match a.config with
  | none => .ok .default
  | some bytes =>
    if a.configLength = 0 then .ok .default
    else match Config.ofJson (bytes.take a.configLength.toNat) with
      | .ok config => .ok config
      | .error fault => .error (.ofFault fault)

def body (a : Arguments) : Step ω ResultSet HostArray := do
  let blob ← Step.resume (a.blob.mapError .error)
  let config ← Step.resume (a.settings.mapError .error)
  Enumeration.pass h ResultSet.destination config blob
  fun log s => Step.resume ((s.destination.toHost).mapError .error) log s

def failedEvent (e : CatalogError) : Log.Event where
  level := .debug
  target := target
  message := "enumeration failed: " ++ e.message
  fields := [⟨"status", toString e.status, false⟩]

def call (a : Arguments) (log : Log.Pipeline) (world : ω) : Reply × Run ω ResultSet :=
  match (body h a).contained log ⟨world, .empty, .unopened, #[]⟩ with
  | (.ok array, s) => (⟨statusOk, some array⟩, s)
  | (.error e, s) => (⟨e.status, none⟩, s.emit log (failedEvent e))

end Export
end RootCatalog
