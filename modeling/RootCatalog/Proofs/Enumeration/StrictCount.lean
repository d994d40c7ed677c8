import RootCatalog.Export
import RootCatalog.Proofs.Enumeration.CallOrder
import RootCatalog.Proofs.Session.Table
/-! The count that a strict enumeration compares with the declared one. It is the length of the
destination behind the search, so what the destination held before counts too, beside what the
search yielded. The handler must not panic, and its searches must end; that the calls succeed is a
premise, and what a mismatch leaves in the destination is not told. -/
namespace RootCatalog

structure Destination.Counting {δ : Type} (d : Destination δ) : Prop where
  reserved : ∀ {n s t}, d.reserve n s = (.ok (), t) → d.length t = d.length s
  pushed : ∀ {e s t}, d.push e s = (.ok (), t) → d.length t = d.length s + 1

theorem Destination.entriesCounting : entries.Counting where
  reserved := by
    intro n s t reserved
    simp only [entries] at reserved
    split at reserved <;> cases reserved
    rfl
  pushed := by
    intro e s t pushed
    cases pushed
    exact Array.size_push e

theorem ResultSet.keptOk {s t : ResultSet} {r : Except CatalogError ResultSet}
    (kept : s.kept r = (.ok (), t)) : r = .ok t := by
  cases r <;> cases kept
  rfl

theorem ResultSet.counting : destination.Counting where
  reserved := by
    intro n s t reserved
    have grown := keptOk reserved
    unfold reserve at grown
    split at grown <;> cases grown
    rfl
  pushed := by
    intro e s t pushed
    have grown := keptOk pushed
    unfold push at grown
    split at grown
    · cases grown
    split at grown
    · cases grown
    split at grown <;> cases grown
    exact Array.size_push _

theorem failedAppend (calls more : List (Call × Answer)) :
    failed (calls ++ more) = (failed calls || failed more) := by
  simp [failed]

theorem failedAmong {p : Call × Answer → Bool} {calls : List (Call × Answer)}
    (fault : failed (calls.filter p) = true) : failed calls = true := by
  obtain ⟨call, member, wrong⟩ := List.any_eq_true.mp fault
  exact List.any_eq_true.mpr ⟨call, List.mem_of_mem_filter member, wrong⟩

namespace Enumeration

def declaration (calls : List (Call × Answer)) : Option UInt32 :=
  (calls.filterMap fun
    | (.fileCount, .count n) => some n
    | _ => none).getLast?

theorem declarationCount (calls : List (Call × Answer)) (n : UInt32) :
    declaration (calls ++ [(.fileCount, .count n)]) = some n := by
  simp [declaration]

theorem declarationOther {more : List (Call × Answer)} (silent : declaration more = none)
    (calls : List (Call × Answer)) : declaration (calls ++ more) = declaration calls := by
  unfold declaration at silent ⊢
  rw [List.filterMap_append, List.getLast?_eq_none_iff.mp silent, List.append_nil]

theorem yieldedEntry (calls : List (Call × Answer)) (e : FileEntry) :
    yielded (calls ++ [(.nextMatch, .entry e)]) = yielded calls ++ [e] := by
  simp [yielded]

theorem yieldedOther {more : List (Call × Answer)} (empty : yielded more = [])
    (calls : List (Call × Answer)) : yielded (calls ++ more) = yielded calls := by
  unfold yielded at empty ⊢
  rw [List.filterMap_append, empty, List.append_nil]

theorem copyingFails {calls : List (Call × Answer)} {t : Except CatalogError Unit}
    (copying : Copying calls t) {e : CatalogError} (broken : t = .error e) :
    failed calls = true := by
  induction copying with
  | exhausted => cases broken
  | aborted => rfl
  | refused => rfl
  | copied x rest ih => exact ih broken

theorem searchingFails {mask : String} {calls : List (Call × Answer)} {phases : List Phase}
    {e : CatalogError} (searching : Searching mask calls phases (.error e)) :
    failed calls = true := by
  cases searching with
  | refused => rfl
  | @broken calls e copying =>
    have fault : failed ((.beginSearch mask, .done) :: calls) = true := by
      rw [← copyingFails copying rfl]
      rfl
    rw [failedAppend, fault, Bool.true_or]

variable {ω δ : Type} {h : Handler ω} {d : Destination δ} {a b : Account ω δ}

/-- Where a run stands that found `before` entries in its destination: what was yielded has been put
behind them, and `told` is the declared count so far. -/
structure Stands (d : Destination δ) (before : Nat) (told : Option UInt32) (a : Account ω δ) :
    Prop where
  length : d.length a.destination = before + (yielded a.calls).length
  declared : declaration a.calls = told

namespace Stands

variable {before : Nat} {told : Option UInt32}

theorem called (stands : Stands d before told a) {call : Call} {r : Answer} (w : ω)
    (silent : declaration [(call, r)] = none) (empty : yielded [(call, r)] = []) :
    Stands d before told (a.called w call r) where
  length := by rw [Account.called_calls, yieldedOther empty]; exact stands.length
  declared := by rw [Account.called_calls, declarationOther silent]; exact stands.declared

theorem counted (stands : Stands d before told a) (w : ω) (n : UInt32) :
    Stands d before (some n) (a.called w .fileCount (.count n)) where
  length := by rw [Account.called_calls, yieldedOther rfl]; exact stands.length
  declared := declarationCount a.calls n

theorem reserved (counting : d.Counting) (stands : Stands d before told a) {n : UInt64} {d' : δ}
    (room : d.reserve n a.destination = (.ok (), d')) :
    Stands d before told (a.gave d' (.reserve n) .done) where
  length := by
    rw [Account.gave_calls, yieldedOther rfl, Account.gave_destination, counting.reserved room]
    exact stands.length
  declared := by rw [Account.gave_calls, declarationOther rfl]; exact stands.declared

theorem copied (counting : d.Counting) (stands : Stands d before told a) {w : ω} {e : FileEntry}
    {d' : δ} (push : d.push e a.destination = (.ok (), d')) :
    Stands d before told ((a.called w .nextMatch (.entry e)).gave d' (.push e) .done) where
  length := by
    rw [Account.gave_calls, yieldedOther rfl, Account.called_calls, yieldedEntry,
      List.length_append, Account.gave_destination, counting.pushed push, stands.length]
    rfl
  declared := by
    rw [Account.gave_calls, declarationOther rfl, Account.called_calls, declarationOther rfl]
    exact stands.declared

theorem same (stands : Stands d before told a) (kept : b.destination = a.destination)
    (calls : b.calls = a.calls) : Stands d before told b where
  length := by rw [kept, calls]; exact stands.length
  declared := by rw [calls]; exact stands.declared

-- Only where the copying ends well: an entry that is refused has been yielded, but was not put.
theorem copies (counting : d.Counting) {c c' : h.Cursor} {r : Except Stop Unit}
    (copies : Copies h d c a r c' b) (fine : r = .ok ()) (stands : Stands d before told a) :
    Stands d before told b := by
  induction copies with
  | exhausted next => exact stands.called _ rfl rfl
  | aborted next => cases fine
  | panicked next => cases fine
  | refused next push => cases fine
  | copied next push rest ih => exact ih fine (stands.copied counting push)

theorem searches (counting : d.Counting) {root : h.Root} {mask : String}
    (searches : Searches h d root mask a (.ok ()) b) (stands : Stands d before told a) :
    Stands d before told b := by
  cases searches with
  | @ended c o r c' b' q w' begins copied release still =>
    cases begins with
    | @begun cursor w answer free =>
      have begun : Stands d before told
          ((a.called w (.beginSearch mask) .done).entered .searchActive) :=
        (stands.called w rfl rfl).same rfl rfl
      have ended : Stands d before told (b'.called w' .endSearch (.ofRelease q)) :=
        (begun.copies counting copied rfl).called w' rfl rfl
      exact ended.same (Account.destinationSearchLeft _) (Account.callsSearchLeft _)

end Stands

structure Compared (declared : UInt32) (total : Nat) (r : Except Stop Unit) : Prop where
  agreed : r = .ok () ↔ total = declared.toNat
  differs : total ≠ declared.toNat → total < UInt32.size →
    r = .error (.error (.entryCountMismatch declared (UInt32.ofNat total)))
  tooMany : UInt32.size ≤ total →
    r = .error (.error (.allocation "more than u32::MAX entries"))

theorem comparedEqual {declared : UInt32} {total : Nat} (same : total = declared.toNat) :
    Compared declared total (.ok ()) where
  agreed := by simp [same]
  differs apart := absurd same apart
  tooMany many := absurd declared.toNat_lt (by rw [← same]; exact Nat.not_lt.mpr many)

theorem comparedApart {declared : UInt32} {total : Nat} (few : total < UInt32.size)
    (apart : total ≠ declared.toNat) : Compared declared total
      (.error (.error (.entryCountMismatch declared (UInt32.ofNat total)))) where
  agreed := by simp [apart]
  differs _ _ := rfl
  tooMany many := absurd few (Nat.not_lt.mpr many)

theorem comparedBeyond {declared : UInt32} {total : Nat} (many : UInt32.size ≤ total) :
    Compared declared total (.error (.error (.allocation "more than u32::MAX entries"))) where
  agreed := by
    have apart : total ≠ declared.toNat := Nat.ne_of_gt (Nat.lt_of_lt_of_le declared.toNat_lt many)
    simp [apart]
  differs _ few := absurd few (Nat.not_lt.mpr many)
  tooMany _ := rfl

theorem fillsCompared (calm : h.NeverPanics) (counting : d.Counting) {config : Config}
    (whole : config.searchMask = Mask.all) (strict : config.strictEntryCount = true)
    {root : h.Root} {r : Except Stop (UInt32 × UInt32)} (fills : Fills h d config root a r b)
    (idle : a.phase = .sessionOpen) (sound : failed b.calls = false) {before : Nat}
    {told : Option UInt32} (stands : Stands d before told a) :
    ∃ declared, declaration b.calls = some declared ∧
      Compared declared (before + (yielded b.calls).length) (r.map fun _ => ()) := by
  have searched {n : UInt32} {w : ω} {d' : δ} {b : Account ω δ}
      (room : d.reserve (config.initialCapacity n) a.destination = (.ok (), d'))
      (search : Searches h d root config.searchMask ((a.called w .fileCount (.count n)).gave d'
        (.reserve (config.initialCapacity n)) .done) (.ok ()) b) : Stands d before (some n) b :=
    ((stands.counted w n).reserved counting room).searches counting search
  cases fills with
  | uncounted count => exact absurd count (calm.fileCount _ _ _ _)
  | noRoom count room =>
    rw [Account.callsAborted, Account.gave_calls, failedAppend] at sound
    cases (Bool.or_eq_false_iff.mp sound).2
  | unfinished count room search =>
    obtain ⟨calls, phases, t, searching, same, added⟩ := searchesSearching calm search idle
    cases t with
    | ok u => cases same
    | error e =>
      have fault : failed b.calls = true := by
        refine failedAmong (p := fun call => call.1 ≠ .fileCount) ?_
        rw [added.calls, failedAppend, searchingFails searching, Bool.or_true]
      cases fault.symm.trans sound
  | @tooMany n w d' b count room search many =>
    have stands := searched room search
    rw [stands.length] at many
    rw [Account.callsAborted]
    exact ⟨n, stands.declared, comparedBeyond many⟩
  | @miscounted n w d' b count room search few mismatch =>
    have stands := searched room search
    rw [stands.length] at few mismatch ⊢
    rw [Account.callsAborted]
    have apart : before + (yielded b.calls).length ≠ n.toNat :=
      mt (RootFile.indexWord few n).mpr (Ne.symm mismatch.1)
    exact ⟨n, stands.declared, comparedApart few apart⟩
  | @filled n w d' _ count room search few agreed =>
    have stands := searched room search
    rw [stands.length] at few agreed
    have same : n = UInt32.ofNat (before + (yielded b.calls).length) :=
      Decidable.not_not.mp fun differs => agreed ⟨differs, whole, strict⟩
    exact ⟨n, stands.declared, comparedEqual ((RootFile.indexWord few n).mp same.symm)⟩

theorem passesCompared (calm : h.NeverPanics) (counting : d.Counting) {config : Config}
    (whole : config.searchMask = Mask.all) (strict : config.strictEntryCount = true)
    {shown : Bool} {blob : Bytes} {r : Except Stop Unit}
    (passes : Passes h d config shown blob a r b) (fresh : a.phase = .unopened)
    (sound : failed b.calls = false) {before : Nat} {told : Option UInt32}
    (stands : Stands d before told a) : ∃ declared, declaration b.calls = some declared ∧
      Compared declared (before + (yielded b.calls).length) r := by
  cases passes with
  | unopened opens =>
    cases opens with
    | rejected answer =>
      rw [Account.callsAborted, Account.called_calls, failedAppend] at sound
      cases (Bool.or_eq_false_iff.mp sound).2
    | panicked answer => exact absurd answer (calm.openRoot _ _ _ _)
    | late answer spent release => simp [fresh, Phase.allows] at spent
    | leaked answer free loud count => exact absurd count (calm.fileCount _ _ _ _)
  | broken opens fills release broken =>
    rw [stillClosed calm release, Session.feltNothing] at broken
    cases broken
  | @closed root o r c q w opens fills release still =>
    obtain ⟨told', opened, idle⟩ : ∃ told', Stands d before told' o ∧ o.phase = .sessionOpen := by
      have asked (w : ω) : Stands d before told
          ((a.called w .openRoot .done).entered .sessionOpen) :=
        (stands.called w rfl rfl).same rfl rfl
      cases opens with
      | unseen answer free quiet => exact ⟨_, asked _, rfl⟩
      | seen answer free loud count => exact ⟨_, (asked _).counted _ _, rfl⟩
    cases stillClosed calm release
    rw [Account.callsSessionLeft, Account.called_calls] at sound ⊢
    rw [failedAppend] at sound
    obtain ⟨declared, filled, compared⟩ := fillsCompared calm counting whole strict fills idle
      (Bool.or_eq_false_iff.mp sound).1 opened
    rw [declarationOther rfl, yieldedOther rfl]
    exact ⟨declared, filled, compared⟩

theorem driveCompared (calm : h.NeverPanics) (finite : h.Finite) (counting : d.Counting)
    {e : Enumeration} (fresh : e.phase = .unopened) (whole : e.config.searchMask = Mask.all)
    (strict : e.config.strictEntryCount = true) {blob : Bytes} {log : Log.Pipeline} {world : ω}
    {out : δ} {r : Except Stop Unit} {s : Run ω δ}
    (run : e.drive h d blob log world out = (r, s)) (sound : failed s.calls = false) :
    ∃ declared, declaration s.calls = some declared ∧
      Compared declared (d.length out + (yielded s.calls).length) r := by
  obtain ⟨r', s', run', passes⟩ := drivePasses finite d e blob log world out
  cases run.symm.trans run'
  exact passesCompared calm counting whole strict passes fresh sound ⟨rfl, rfl⟩

theorem strictCount (h : Handler ω) (e : Enumeration) (blob : Bytes) (log : Log.Pipeline)
    (world : ω) (calm : h.NeverPanics) (finite : h.Finite) (fresh : e.phase = .unopened)
    (whole : e.config.searchMask = Mask.all) (strict : e.config.strictEntryCount = true) :
    (∀ (out : Array FileEntry) r s,
      e.drive h Destination.entries blob log world out = (r, s) → failed s.calls = false →
        ∃ declared, declaration s.calls = some declared ∧
          Compared declared (out.size + (yielded s.calls).length) r) ∧
    (∀ (out : ResultSet) r s,
      e.drive h ResultSet.destination blob log world out = (r, s) → failed s.calls = false →
        ∃ declared, declaration s.calls = some declared ∧
          Compared declared (out.length + (yielded s.calls).length) r) :=
  ⟨fun _ _ _ => driveCompared calm finite Destination.entriesCounting fresh whole strict,
    fun _ _ _ => driveCompared calm finite ResultSet.counting fresh whole strict⟩

def onlyEntry : FileEntry := ⟨"a.txt", 1, 0, 1, .zero⟩

def onlyFile : Bytes :=
  (RootFile.Draft.build ⟨1, none, RootFile.noFault, [onlyEntry]⟩).toOption.getD []

def strictly : Enumeration := ⟨Config.default.withStrictEntryCount true, .unopened⟩

def oneBefore : ResultSet := .ofHost (some ⟨#[⟨none, 0, 0, 0, .zero⟩], 1⟩)

def OneFound (s : Run ω δ) : Prop :=
  failed s.calls = false ∧ declaration s.calls = some 1 ∧ (yielded s.calls).length = 1

instance (s : Run ω δ) : Decidable (OneFound s) := inferInstanceAs (Decidable (_ ∧ _ ∧ _))

theorem onlyFileParsed :
    RootFile.parse onlyFile = .ok ⟨1, RootFile.noFault, [onlyEntry]⟩ := by
  decide +kernel

theorem onlyFileFound {d : Destination δ} (start : δ) {roomy filled : δ}
    (room : d.reserve (strictly.config.initialCapacity 1) start = (.ok (), roomy))
    (push : d.push onlyEntry roomy = (.ok (), filled)) :
    OneFound (strictly.drive RootFile.handler d onlyFile .bare {} start).2 := by
  have fills : ∃ r b, Passes RootFile.handler d strictly.config
      (Log.Pipeline.bare.enabled .debug) onlyFile ⟨{}, start, .unopened, [], []⟩ r b ∧
      failed b.calls = false ∧ declaration b.calls = some 1 ∧ (yielded b.calls).length = 1 := by
    have opens : Session.Opens RootFile.handler (Log.Pipeline.bare.enabled .debug) onlyFile
        (⟨{}, start, .unopened, [], []⟩ : Account RootFile.Stats δ) (.ok _) _ :=
      RootFile.opensParsed onlyFileParsed rfl
    have searches : Searches RootFile.handler d ⟨1, RootFile.noFault, [onlyEntry]⟩ "*"
        ⟨⟨1, 0, 0, 0⟩, roomy, .sessionOpen, [(.openRoot, .done), (.fileCount, .count 1),
          (.reserve 1, .done)], [.sessionOpen]⟩ (.ok ()) _ :=
      .ended (w := ⟨1, 0, 1, 1⟩) (.begun (w := ⟨1, 0, 1, 0⟩) rfl rfl)
        (.copied (RootFile.nextSought (r := .ok (some onlyEntry)) rfl _) push
          (.exhausted (RootFile.nextSought (r := .ok none) rfl _))) rfl rfl
    by_cases few : d.length filled < UInt32.size
    · by_cases mismatch : Mismatch strictly.config 1 (UInt32.ofNat (d.length filled))
      · exact ⟨_, _, .closed (w := ⟨1, 1, 1, 1⟩) opens (.miscounted rfl room searches few mismatch)
          rfl rfl, rfl, rfl, rfl⟩
      · exact ⟨_, _, .closed (w := ⟨1, 1, 1, 1⟩) opens (.filled rfl room searches few mismatch)
          rfl rfl, rfl, rfl, rfl⟩
    · exact ⟨_, _, .closed (w := ⟨1, 1, 1, 1⟩) opens
        (.tooMany rfl room searches (Nat.not_lt.mp few)) rfl rfl, rfl, rfl, rfl⟩
  obtain ⟨r, b, passes, found⟩ := fills
  obtain ⟨s, run, rfl⟩ := driveTakes passes
  rw [run]
  exact found

theorem onlyFileCompared {d : Destination δ} (counting : d.Counting) (start : δ)
    {roomy filled : δ} (room : d.reserve (strictly.config.initialCapacity 1) start = (.ok (), roomy))
    (push : d.push onlyEntry roomy = (.ok (), filled)) : Compared 1 (d.length start + 1)
      (strictly.drive RootFile.handler d onlyFile .bare {} start).1 := by
  obtain ⟨sound, told, one⟩ := onlyFileFound start room push
  rcases run : strictly.drive RootFile.handler d onlyFile .bare {} start with ⟨r, s⟩
  rw [run] at sound told one
  obtain ⟨declared, told', compared⟩ :=
    driveCompared RootFile.neverPanics RootFile.finite counting rfl rfl rfl run sound
  cases told'.symm.trans told
  rwa [one] at compared

theorem onlyFileCounted :
    (strictly.drive RootFile.handler Destination.entries onlyFile .bare {} #[]).1 = .ok () ∧
      (strictly.drive RootFile.handler ResultSet.destination onlyFile .bare {} oneBefore).1 =
        .error (.error (.entryCountMismatch 1 2)) := by
  obtain ⟨listed, filed⟩ := strictCount RootFile.handler strictly onlyFile .bare {}
    RootFile.neverPanics RootFile.finite rfl rfl rfl
  constructor
  · obtain ⟨sound, told, one⟩ := onlyFileFound (d := Destination.entries) #[] rfl rfl
    obtain ⟨declared, told', compared⟩ := listed #[] _ _ (Prod.eta _).symm sound
    cases told'.symm.trans told
    exact compared.agreed.mpr (by rw [one]; rfl)
  · obtain ⟨sound, told, one⟩ :=
      onlyFileFound (d := ResultSet.destination) oneBefore rfl rfl
    obtain ⟨declared, told', compared⟩ := filed oneBefore _ _ (Prod.eta _).symm sound
    cases told'.symm.trans told
    rw [one] at compared
    exact compared.differs (by decide) (by decide)

theorem prefilledMiscounts :
    let driven := strictly.drive RootFile.handler Destination.entries onlyFile .bare {} #[onlyEntry]
    driven.1 = .error (.error (.entryCountMismatch 1 2)) ∧ OneFound driven.2 := by
  intro driven
  have compared : Compared 1 2 driven.1 :=
    onlyFileCompared Destination.entriesCounting #[onlyEntry] rfl rfl
  exact ⟨compared.differs (by decide) (by decide), onlyFileFound #[onlyEntry] rfl rfl⟩

end Enumeration
end RootCatalog
