import RootCatalog.Proofs.Enumeration.Outcome
import RootCatalog.Proofs.Export.Answer
import RootCatalog.Proofs.ResultSet.Room
import RootCatalog.Proofs.RootFile.Search
/-! The ways to enumerate agree. Entries, result set, map and status of one file come from passes of
their own, with one verdict, but for a name with a zero in it, which only a result set refuses. The
handler must not panic and must answer alike in every world, and its searches must end; real
allocation is taken to succeed. -/
namespace RootCatalog

variable {ω δ : Type} {h : Handler ω}

namespace FileMap

theorem foldGet (entries : List FileEntry) (m : FileMap) (k : String) :
    (entries.foldl (fun m e => m.insert e.name e) m)[k]? =
      (entries.filter (·.name = k)).getLast?.or m[k]? := by
  induction entries generalizing m with
  | nil => rfl
  | cons e rest ih =>
    rw [List.foldl_cons, ih, Std.TreeMap.getElem?_insert]
    by_cases same : e.name = k
    · simp [same, List.getLast?_cons]
    · simp [same]

theorem getLast (entries : List FileEntry) (k : String) :
    (ofEntries entries)[k]? = (entries.filter (·.name = k)).getLast? := by
  rw [ofEntries, foldGet]
  simp

theorem memKeys {entries : List FileEntry} {k : String} :
    k ∈ (ofEntries entries).keys ↔ ∃ e ∈ entries, e.name = k := by
  rw [Std.TreeMap.mem_keys, Std.TreeMap.mem_iff_isSome_getElem?, getLast]
  simp

end FileMap

namespace Destination

theorem entriesReserved {s : Array FileEntry} {n : Nat} (count : UInt64)
    (room : s.size + n < UInt32.size) (blank : s.toList = []) (few : count.toNat < UInt32.size) :
    ∃ t, entries.reserve count s = (.ok (), t) ∧ t.toList = [] ∧ t.size + n < UInt32.size := by
  have size : s.size = 0 := congrArg List.length blank
  have bound : count.toNat < 4294967296 := few
  refine ⟨s, if_neg ?_, blank, room⟩
  unfold maxArrayBytes entryWidth
  omega

theorem entriesPushed {s : Array FileEntry} {n : Nat} {e : FileEntry}
    (room : s.size + (n + 1) < UInt32.size) : ∃ t, entries.push e s = (.ok (), t) ∧
      t.toList = s.toList ++ [e] ∧ t.size + n < UInt32.size := by
  refine ⟨s.push e, rfl, Array.toList_push, ?_⟩
  rw [Array.size_push]
  omega

def entriesHolding : entries.Holding where
  held := Array.toList
  room s n := s.size + n < UInt32.size
  refusal _ := none
  length _ := rfl
  few room := room
  reserved := entriesReserved
  accepted room _ := entriesPushed room
  refused := nofun

end Destination

def zeroRefusal (e : FileEntry) : Option CatalogError :=
  if '\x00' ∈ e.name.toList then some (.invalidEntryName e.name) else none

theorem firstRefusal (found : List FileEntry) : found.findSome? zeroRefusal =
    (found.find? fun e => '\x00' ∈ e.name.toList).map (.invalidEntryName ·.name) := by
  induction found with
  | nil => rfl
  | cons e rest ih =>
    rw [List.findSome?_cons, List.find?_cons, zeroRefusal, ih]
    by_cases zero : '\x00' ∈ e.name.toList <;> simp [zero]

namespace ResultSet

theorem entriesLength (s : ResultSet) : destination.length s = s.entries.length := by
  simp [entries, destination, length]

theorem entriesReserved {s : ResultSet} {n : Nat} (count : UInt64) (roomy : s.Roomy n)
    (blank : s.entries = []) (few : count.toNat < UInt32.size) :
    ∃ t, destination.reserve count s = (.ok (), t) ∧ t.entries = [] ∧ t.Roomy n := by
  have size : s.files.size = 0 := by simpa [entries] using congrArg List.length blank
  have asked : s.files.size + count.toNat < UInt32.size := by omega
  obtain ⟨t, reserved, same, roomy'⟩ := reserved roomy asked
  exact ⟨t, reserved, by rw [entries, same]; exact blank, roomy'⟩

theorem entriesPushed {s : ResultSet} {n : Nat} {e : FileEntry} (roomy : s.Roomy (n + 1))
    (fine : zeroRefusal e = none) :
    ∃ t, destination.push e s = (.ok (), t) ∧ t.entries = s.entries ++ [e] ∧ t.Roomy n := by
  have clean : '\x00' ∉ e.name.toList := by
    intro zero
    rw [zeroRefusal, if_pos zero] at fine
    cases fine
  obtain ⟨t, pushed, files, roomy'⟩ := pushedClean roomy clean
  refine ⟨t, pushed, ?_, roomy'⟩
  simp [entries, files, HostRecord.toEntrySpelled clean]

theorem entriesRefused {s : ResultSet} {n : Nat} {e : FileEntry} {error : CatalogError}
    (roomy : s.Roomy (n + 1)) (refused : zeroRefusal e = some error) :
    ∃ t, destination.push e s = (.error error, t) := by
  unfold zeroRefusal at refused
  split at refused
  · cases refused
    exact ⟨s, pushedZero roomy (by assumption)⟩
  · cases refused

theorem entriesFew {s : ResultSet} {n : Nat} (roomy : s.Roomy n) :
    s.entries.length + n < UInt32.size := by
  simpa [entries] using roomy.size

def holding : destination.Holding where
  held := entries
  room := Roomy
  refusal := zeroRefusal
  length := entriesLength
  few := entriesFew
  reserved := entriesReserved
  accepted := entriesPushed
  refused := entriesRefused

end ResultSet

namespace Enumeration

variable {d : Destination δ} {config : Config} {blob : Bytes} {found : List FileEntry}
  {ending : Except Stop Unit}

theorem deliveredVerdict (k : d.Holding) (calm : h.NeverPanics) (steady : h.Steady)
    (finite : h.Finite) (log : Log.Pipeline) (w : ω) {start : δ} (blank : k.held start = []) {u : ω}
    (sought : h.Sought blob config.searchMask u found ending)
    (roomy : k.room start found.length) :
    (delivered ((Enumeration.mk config .unopened).drive h d blob log w start)).1.map k.held =
      verdict h k.refusal config blob u (found, ending) := by
  obtain ⟨r, s, run, passes⟩ := drivePasses finite d ⟨config, .unopened⟩ blob log w start
  have settled : Settles k (verdict h k.refusal config blob u (found, ending)) r s.destination :=
    passesSettle calm steady passes rfl blank sought roomy
  rw [run]
  generalize verdict h k.refusal config blob u (found, ending) = judged at settled ⊢
  cases settled with
  | stopped => rfl
  | kept => rfl

end Enumeration

open Enumeration (verdict)

section Verdicts

variable {config : Config} {blob : Bytes} {u : ω} {found : List FileEntry}
  {ending : Except Stop Unit} (calm : h.NeverPanics) (steady : h.Steady) (finite : h.Finite)
  (sought : h.Sought blob config.searchMask u found ending) (few : found.length < UInt32.size)
  (log : Log.Pipeline) (w : ω)

include calm steady finite sought few

theorem enumerateVerdict : (enumerate h config blob log w).1.map Array.toList =
    verdict h (fun _ => none) config blob u (found, ending) :=
  Enumeration.deliveredVerdict Destination.entriesHolding calm steady finite log w rfl sought
    (by simpa [Destination.entriesHolding] using few)

theorem enumerateFilesVerdict : (enumerateFiles h config blob log w).1.map ResultSet.entries =
    verdict h zeroRefusal config blob u (found, ending) :=
  Enumeration.deliveredVerdict ResultSet.holding calm steady finite log w rfl sought
    (ResultSet.roomyEmpty few)

theorem fileMapVerdict : (fileMap h config blob log w).1 =
    (verdict h (fun _ => none) config blob u (found, ending)).map .ofEntries := by
  rw [← enumerateVerdict calm steady finite sought few log w, fileMap]
  rcases enumerate h config blob log w with ⟨stop | v, s⟩ <;> rfl

end Verdicts

variable {config : Config} {blob : Bytes}

theorem mappedError {α β : Type} {f : α → β} {x : Except Stop α} {stop : Stop}
    (failed : x.map f = .error stop) : x = .error stop := by
  cases x with
  | error stop' => cases failed; rfl
  | ok v => cases failed

theorem mappedOk {α β : Type} {f : α → β} {x : Except Stop α} {v : β}
    (succeeded : x.map f = .ok v) : ∃ u, x = .ok u ∧ f u = v := by
  cases x with
  | error stop => cases succeeded
  | ok u => exact ⟨u, rfl, Except.ok.inj succeeded⟩

namespace Export

def statusOf {α : Type} : Except Stop α → Int
  | .ok _ => statusOk
  | .error (.error e) => e.status
  | .error (.panic p) => (CatalogError.internal p.caughtText).status

theorem callStatus (calm : h.NeverPanics) (steady : h.Steady) (finite : h.Finite) {a : Arguments}
    (given : a.blob = .ok blob) (settled : a.settings = .ok config) (log : Log.Pipeline) (w : ω)
    {u : ω} {found : List FileEntry} {ending : Except Stop Unit}
    (sought : h.Sought blob config.searchMask u found ending) (few : found.length < UInt32.size) :
    (call h a log w).1.status =
      statusOf (verdict h zeroRefusal config blob u (found, ending)) := by
  obtain ⟨r, b, answers, reply, -⟩ := callAnswer finite a log w
  rw [reply]
  have settles {r : Except Stop Unit} {b : Account ω ResultSet}
      (passes : Enumeration.Passes h ResultSet.destination config (log.enabled .debug) blob
        ⟨w, .empty, .unopened, [], []⟩ r b) :
      Enumeration.Settles ResultSet.holding (verdict h zeroRefusal config blob u (found, ending)) r
        b.destination :=
    Enumeration.passesSettle calm steady passes rfl rfl sought (ResultSet.roomyEmpty few)
  cases answers with
  | refused refused => cases refused.symm.trans given
  | unsettled given' unsettled => cases unsettled.symm.trans settled
  | @stopped bytes config' stop b given' settled' passes =>
    cases given'.symm.trans given
    cases settled'.symm.trans settled
    generalize verdict h zeroRefusal config blob u (found, ending) = judged at settles ⊢
    cases settles passes
    rcases stop with e | p <;> rfl
  | passed given' settled' passes =>
    cases given'.symm.trans given
    cases settled'.symm.trans settled
    generalize verdict h zeroRefusal config blob u (found, ending) = judged at settles ⊢
    cases settles passes with
    | kept v roomy =>
      rw [ResultSet.toHostRoomy roomy]
      rfl

theorem enumerationsAgree (calm : h.NeverPanics) (steady : h.Steady) (finite : h.Finite)
    (config : Config) (blob : Bytes) (l₁ l₂ l₃ l₄ : Log.Pipeline) (w₁ w₂ w₃ w₄ : ω)
    {found : List FileEntry} {ending : Except Stop Unit}
    (sought : h.Sought blob config.searchMask w₁ found ending)
    (few : found.length < UInt32.size) :
    let listed := (enumerate h config blob l₁ w₁).1
    let filed := (enumerateFiles h config blob l₂ w₂).1
    let mapped := (fileMap h config blob l₃ w₃).1
    (∀ y, found.find? (fun e => '\x00' ∈ e.name.toList) = some y →
      filed = .error (.error (.invalidEntryName y.name)) ∧
      ∀ a : Arguments, a.blob = .ok blob → a.settings = .ok config →
        (call h a l₄ w₄).1.status = 5) ∧
    ((∀ y ∈ found, '\x00' ∉ y.name.toList) →
      (∃ v set, listed = .ok v ∧ filed = .ok set ∧ set.entries = v.toList ∧
        ∀ a : Arguments, a.blob = .ok blob → a.settings = .ok config →
          (call h a l₄ w₄).1.status = 0) ∨
      (∃ e, listed = .error (.error e) ∧ filed = .error (.error e) ∧
        ∀ a : Arguments, a.blob = .ok blob → a.settings = .ok config →
          (call h a l₄ w₄).1.status = e.status)) ∧
    ((∃ v m, listed = .ok v ∧ mapped = .ok m ∧
        m.keys.Pairwise (fun k l => Text.byteOrder k l = .lt) ∧
        (∀ k, k ∈ m.keys ↔ ∃ e ∈ v.toList, e.name = k) ∧
        ∀ k, m[k]? = (v.toList.filter (·.name = k)).getLast?) ∨
      (∃ e, listed = .error (.error e) ∧ mapped = .error (.error e))) := by
  intro listed filed mapped
  have fromList : listed.map Array.toList =
      verdict h (fun _ => none) config blob w₁ (found, ending) :=
    enumerateVerdict calm steady finite sought few l₁ w₁
  have fromFiles : filed.map ResultSet.entries =
      verdict h zeroRefusal config blob w₁ (found, ending) :=
    enumerateFilesVerdict calm steady finite sought few l₂ w₂
  have fromMap : mapped =
      (verdict h (fun _ => none) config blob w₁ (found, ending)).map .ofEntries :=
    fileMapVerdict calm steady finite sought few l₃ w₃
  have status {a : Arguments} (given : a.blob = .ok blob) (settled : a.settings = .ok config) :
      (call h a l₄ w₄).1.status =
        statusOf (verdict h zeroRefusal config blob w₁ (found, ending)) :=
    callStatus calm steady finite given settled l₄ w₄ sought few
  refine ⟨fun y first => ?_, fun clean => ?_, ?_⟩
  · have refused : verdict h zeroRefusal config blob w₁ (found, ending) =
        .error (.error (.invalidEntryName y.name)) :=
      Enumeration.verdictRefused calm sought (by rw [firstRefusal, first]; rfl)
    rw [refused] at fromFiles
    refine ⟨mappedError fromFiles, fun a given settled => ?_⟩
    rw [status given settled, refused]
    rfl
  · have same : verdict h zeroRefusal config blob w₁ (found, ending) =
        verdict h (fun _ => none) config blob w₁ (found, ending) :=
      Enumeration.verdictAccepted (firstRefusal _ ▸ by simpa using clean)
    rw [same] at fromFiles status
    rcases judged : verdict h (fun _ => none) config blob w₁ (found, ending) with (e | p) | v
    · rw [judged] at fromList fromFiles status
      exact .inr ⟨e, mappedError fromList, mappedError fromFiles, fun a => status⟩
    · exact absurd judged (Enumeration.verdictCalm calm sought p)
    · rw [judged] at fromList fromFiles status
      obtain ⟨entries, listed, rfl⟩ := mappedOk fromList
      obtain ⟨set, filed, same⟩ := mappedOk fromFiles
      exact .inl ⟨entries, set, listed, filed, same, fun a => status⟩
  · rcases judged : verdict h (fun _ => none) config blob w₁ (found, ending) with (e | p) | v
    · rw [judged] at fromList fromMap
      exact .inr ⟨e, mappedError fromList, fromMap⟩
    · exact absurd judged (Enumeration.verdictCalm calm sought p)
    · rw [judged] at fromList fromMap
      obtain ⟨entries, listed, rfl⟩ := mappedOk fromList
      refine .inl ⟨entries, _, listed, fromMap, ?_, fun k => FileMap.memKeys, fun k => ?_⟩
      · exact Std.TreeMap.ordered_keys
      · exact FileMap.getLast _ k

end Export

namespace RootFile

theorem steady : handler.Steady where
  openRoot blob w w' := by
    simp only [handler, openCounted]
    cases parse blob <;> rfl
  fileCount _ _ _ := rfl
  beginSearch _ _ _ _ := rfl
  nextMatch _ _ _ := rfl
  onward _ _ _ := rfl

def zeroNamed : Bytes :=
  (Draft.build ⟨1, none, 1, [⟨"a\x00", 0, 0, 7, .zero⟩, ⟨"b", 0, 0, 8, .zero⟩]⟩).toOption.getD []

def zeroNamedEntry : FileEntry := ⟨"a\x00", 0, 0, 7, .zero⟩

theorem zeroNamedSought : handler.Sought zeroNamed Config.default.searchMask {} [zeroNamedEntry]
    (.error (.error (.search "index corrupt at record 1"))) := by
  have parsed : parse zeroNamed = .ok ⟨2, 1, [zeroNamedEntry, ⟨"b", 0, 0, 8, .zero⟩]⟩ := rfl
  have first (w) : handler.nextMatch (Cursor.mk "*" 1 0
      [zeroNamedEntry, ⟨"b", 0, 0, 8, .zero⟩]) w =
      (.ok (some zeroNamedEntry), Cursor.mk "*" 1 1 [⟨"b", 0, 0, 8, .zero⟩], w) := rfl
  have second (w) : handler.nextMatch (Cursor.mk "*" 1 1 [⟨"b", 0, 0, 8, .zero⟩]) w =
      (.error (.error (.search "index corrupt at record 1")),
        Cursor.mk "*" 1 1 [⟨"b", 0, 0, 8, .zero⟩], w) := rfl
  exact .opened (openedParsed parsed {}) (.begun rfl (.more (first _) (.fault (second _))))

theorem zeroNamedReplies :
    (enumerateFiles handler .default zeroNamed .bare {}).1 =
        .error (.error (.invalidEntryName "a\x00")) ∧
      (Export.call handler ⟨some zeroNamed, 99, none, 0, true, true⟩ .bare {}).1.status = 5 := by
  obtain ⟨refused, -, -⟩ := Export.enumerationsAgree neverPanics steady finite .default zeroNamed
    .bare .bare .bare .bare {} {} {} {} zeroNamedSought (by decide)
  obtain ⟨filed, status⟩ := refused zeroNamedEntry (by decide)
  exact ⟨filed, status _ rfl rfl⟩

end RootFile

end RootCatalog
