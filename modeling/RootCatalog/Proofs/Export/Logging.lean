import RootCatalog.Proofs.Enumeration.Events
import RootCatalog.Proofs.Export.RootFileReply
import RootCatalog.Proofs.Log.Delivery
/-! Calls by a host under any two logging set-ups. Reply and counts of the handler do not depend on
the set-up, what a listener hears at one level is what it would hear at the lowest, less the records
below that level, and above the level of debugging it hears of nothing but a count that differs and
is only reported. Only the handler of the reference format is treated. -/
namespace RootCatalog

namespace Log.Pipeline

variable (listener : Nat)

theorem recordAbove (level : Level) (e : Event) : (hearing listener level).record e =
    ((hearing listener .trace).record e).filter (fun d => level.code ≤ d.level.code) := by
  rw [recordHearing, recordHearing]
  generalize e.level = record
  cases e.target.toList.contains '\x00' <;> cases record <;> cases level <;> rfl

theorem recordMajor (told : List Event) :
    (told.filter (·.isMajor)).filterMap (hearing listener .warn).record =
      told.filterMap (hearing listener .warn).record := by
  rw [List.filterMap_filter]
  congr 1
  funext e
  cases major : e.isMajor with
  | true => rfl
  | false =>
    have below : e.level.reaches .warn = false := by
      simpa [Event.isMajor, Level.reaches] using fun _ => major
    simp [recordHearing, below]

end Log.Pipeline

namespace Enumeration

def warning : UInt32 × UInt32 → Log.Event
  | (declared, yielded) => countEvent .warn "root handler count mismatch" declared yielded

theorem warningText (declared yielded : UInt32) : (warning (declared, yielded)).text =
    s!"root handler count mismatch declared={declared} yielded={yielded}" := by
  change "root handler count mismatch" ++ " " ++
    (("declared" ++ "=" ++ toString declared) ++ " " ++ ("yielded" ++ "=" ++ toString yielded)) =
    "root handler count mismatch declared=" ++ toString declared ++ " yielded=" ++ toString yielded
  have first : "root handler count mismatch declared=" =
      "root handler count mismatch" ++ " " ++ ("declared" ++ "=") := rfl
  have second : " yielded=" = " " ++ ("yielded" ++ "=") := rfl
  rw [first, second]
  simp only [String.append_assoc]

end Enumeration

namespace RootFile

open Enumeration (Fills counted reported warning Mismatch)

def tally (config : Config) (root : RootFile) : Option (UInt32 × UInt32) :=
  let found := (root.entries.filter (isMatch config.searchMask)).length
  if obstacle config.searchMask root.faultIndex 0 root.entries = none ∧
      ¬ (config.searchMask = Mask.all ∧ config.strictEntryCount = true ∧
        found ≠ root.declaredCount.toNat)
  then some (root.declaredCount, UInt32.ofNat found) else none

theorem countsStill : handler.CountsStill := fun _ _ => rfl

variable {config : Config} {root : RootFile} {a b : Account Stats ResultSet}

theorem fillsTally {r : Except Stop (UInt32 × UInt32)}
    (fills : Fills handler ResultSet.destination config root a r b)
    (blank : a.destination = .empty) (idle : a.phase = .sessionOpen)
    (few : root.entries.length < UInt32.size) : r.toOption = tally config root := by
  unfold tally
  cases fills with
  | uncounted count => cases count
  | @noRoom n w e d' count room =>
    obtain ⟨t, reserved, -, -⟩ := roomReserved config n blank few
    cases reserved.symm.trans room
  | unfinished count room search =>
    cases reservedFile blank idle few room search with
    | blocked first status =>
      rw [first, if_neg (by simp)]
      rfl
  | tooMany count room search many =>
    cases reservedFile blank idle few room search with
    | whole free roomy files => exact absurd roomy.size (Nat.not_lt.mpr many)
  | miscounted count room search few' mismatch =>
    cases count
    cases reservedFile blank idle few room search with
    | whole free roomy files =>
      have differs := (mismatchIff few').mp mismatch
      rw [foundSize files] at differs
      rw [if_neg fun ⟨_, agreed⟩ => agreed differs]
      rfl
  | filled count room search few' agreed =>
    cases count
    cases reservedFile blank idle few room search with
    | whole free roomy files =>
      have agrees := mt (mismatchIff few').mpr agreed
      rw [foundSize files] at agrees
      rw [if_pos ⟨free, agrees⟩, foundSize files]
      rfl

theorem countedFile (config : Config) (blob : Bytes) (log : Log.Pipeline) (stats : Stats) :
    (counted handler ResultSet.destination config blob log
      ⟨stats, .empty, .unopened, #[]⟩).1.toOption = (parse blob).toOption.bind (tally config) := by
  obtain ⟨stop | root, b, opens, opened⟩ :=
    Session.takesOpen handler blob log ⟨stats, ResultSet.empty, .unopened, [], []⟩
  · obtain ⟨s, run, -⟩ := opened.stopped ⟨stats, .empty, .unopened, #[]⟩ rfl
    rw [counted, run]
    cases opens with
    | rejected answer =>
      obtain ⟨fault, failed, -⟩ := openRejected answer
      rw [failed]
      rfl
    | panicked answer => exact absurd answer (neverPanics.openRoot _ _ _ _)
    | late answer spent release => cases spent
    | leaked answer fresh loud count => cases count
  · obtain ⟨parsed, few, kept, idle⟩ := opensFile opens
    obtain ⟨r, c, fills⟩ :=
      Enumeration.fillsSomehow finite ResultSet.destination config root b
    have released : handler.close root c.world =
        (.ok (), { c.world with closed := c.world.closed + 1 }) := rfl
    have closed := Enumeration.takesClosing (fills.takes log) released (Session.feltNothing _)
    have taken : (counted handler ResultSet.destination config blob).Takes log
        ⟨stats, .empty, .unopened, [], []⟩ r _ := opened.bind closed
    obtain ⟨s, run, -⟩ := taken ⟨stats, .empty, .unopened, #[]⟩ rfl
    rw [run, parsed]
    exact fillsTally fills kept idle few

def miscount (root : RootFile) (config : Config) : Option (UInt32 × UInt32) :=
  let found := (root.entries.filter (isMatch config.searchMask)).length
  if config.searchMask = Mask.all ∧ config.strictEntryCount = false ∧
      obstacle config.searchMask root.faultIndex 0 root.entries = none ∧
      found ≠ root.declaredCount.toNat
  then some (root.declaredCount, UInt32.ofNat found) else none

theorem reportedTally (few : root.entries.length < UInt32.size) :
    reported config (tally config root) = (root.miscount config).toList.map warning := by
  have short : (root.entries.filter (isMatch config.searchMask)).length < UInt32.size :=
    Nat.lt_of_le_of_lt (List.length_filter_le _ root.entries) few
  unfold tally miscount
  generalize root.entries.filter (isMatch config.searchMask) = found at short ⊢
  have same := indexWord short root.declaredCount
  rw [eq_comm] at same
  cases free : obstacle config.searchMask root.faultIndex 0 root.entries with
  | some x => simp [reported]
  | none =>
    by_cases whole : config.searchMask = Mask.all
    · cases strict : config.strictEntryCount <;>
        by_cases agreed : found.length = root.declaredCount.toNat <;>
        simp [reported, warning, whole, same, agreed]
    · simp [reported, whole]

end RootFile

namespace Export

open Enumeration (counted reported)

section Told

variable {ω : Type} {h : Handler ω} (calm : h.NeverPanics) (halts : ∀ c w, h.Halts c w)
  (still : h.CountsStill)

def Arguments.reported (h : Handler ω) (a : Arguments) (world : ω) : List Log.Event :=
  match a.blob, a.settings with
  | .ok blob, .ok config => Enumeration.reported config
      (counted h ResultSet.destination config blob .bare ⟨world, .empty, .unopened, #[]⟩).1.toOption
  | _, _ => []

include calm halts still

theorem tellsBody (a : Arguments) (world : ω) :
    ∃ r b told, (body h a).Tells ⟨world, .empty, .unopened⟩ r b told ∧
      told.filter (·.isMajor) = a.reported h world := by
  unfold Arguments.reported
  have given {α : Type} {r q : Except CatalogError α} (same : r = q) :
      (Step.resume (r.mapError .error) : Step ω ResultSet α).Tells
        ⟨world, .empty, .unopened⟩ (q.mapError .error) ⟨world, .empty, .unopened⟩ [] :=
    same ▸ Step.tellsResume _
  cases blob : a.blob with
  | error e => exact ⟨_, _, _, (given blob).stopped, rfl⟩
  | ok bytes =>
    cases settings : a.settings with
    | error e => exact ⟨_, _, _, (given blob).bind (given settings).stopped, rfl⟩
    | ok config =>
      obtain ⟨stop | u, b, told, tells, major⟩ :=
        Enumeration.tellsPass (d := ResultSet.destination) calm halts still config bytes
          ⟨world, .empty, .unopened⟩
      · exact ⟨_, b, _, (given blob).bind ((given settings).bind tells.stopped), major⟩
      · have handed : Step.Tells (fun log s => Step.resume (s.destination.toHost.mapError .error)
            log s) b (b.destination.toHost.mapError .error) b [] := by
          rintro log s rfl
          exact Step.tellsResume (s.destination.toHost.mapError .error) log s rfl
        refine ⟨_, b, _, (given blob).bind ((given settings).bind (tells.bind handed)), ?_⟩
        rw [List.append_nil]
        exact major

end Told

theorem bodyCalm (a : Arguments) (log : Log.Pipeline) (stats : RootFile.Stats) (p : Panic) :
    ((body RootFile.handler a) log ⟨stats, .empty, .unopened, #[]⟩).1 ≠ .error (.panic p) := by
  obtain ⟨r, b, answers⟩ :=
    answersSomehow RootFile.finite (log.enabled .debug) a ⟨stats, .empty, .unopened, [], []⟩
  obtain ⟨s, run, -⟩ := answers.takes ⟨stats, .empty, .unopened, #[]⟩ rfl
  rw [run]
  cases answers with
  | refused blob => nofun
  | unsettled blob settings => nofun
  | stopped blob settings passes =>
    rcases RootFile.passesFile passes rfl rfl with
      ⟨fault, e, -, stopped, -⟩ | ⟨root, e, -, stopped, -⟩ | ⟨root, -, finished, -⟩
    · cases stopped
      nofun
    · cases stopped
      nofun
    · cases finished
  | passed blob settings passes => cases b.destination.toHost <;> nofun

def Arguments.miscount (a : Arguments) : Option (UInt32 × UInt32) :=
  if a.Unusable then none
  else match a.configured, RootFile.parse a.given with
    | .ok config, .ok root => root.miscount config
    | _, _ => none

theorem reportedFile (a : Arguments) (stats : RootFile.Stats) :
    a.reported RootFile.handler stats = a.miscount.toList.map Enumeration.warning := by
  unfold Arguments.reported Arguments.miscount
  cases blob : a.blob with
  | error e =>
    rw [if_pos (blobRefused blob).1]
    rfl
  | ok bytes =>
    obtain ⟨usable, rfl⟩ := blobGiven blob
    rw [if_neg usable]
    cases settings : a.settings with
    | error e =>
      obtain ⟨fault, rejected, -⟩ := settingsRejected settings
      rw [rejected]
      cases RootFile.parse a.given <;> rfl
    | ok config =>
      rw [settingsRead settings]
      simp only
      rw [RootFile.countedFile]
      cases parsed : RootFile.parse a.given with
      | error fault => rfl
      | ok root =>
        obtain ⟨version, -, built⟩ := RootFile.parseExact.mp parsed
        exact RootFile.reportedTally (RootFile.buildExact.mp built).1

theorem tellsCall (a : Arguments) (stats : RootFile.Stats) : ∃ reply w, ∃ told : List Log.Event,
    (∀ log, (call RootFile.handler a log stats).1 = reply ∧
      (call RootFile.handler a log stats).2.world = w ∧
      (call RootFile.handler a log stats).2.deliveries = told.filterMap log.record) ∧
    told.filter (·.isMajor) = a.miscount.toList.map Enumeration.warning := by
  obtain ⟨r, b, told, tells, major⟩ := tellsBody RootFile.neverPanics RootFile.halts
    RootFile.countsStill a stats
  rw [reportedFile] at major
  rcases r with (e | p) | array
  · refine ⟨⟨e.status, none⟩, b.world, told ++ [failedEvent e], fun log => ?_, ?_⟩
    · obtain ⟨s, run, rfl, heard⟩ := tells log ⟨stats, .empty, .unopened, #[]⟩ rfl
      have replied : call RootFile.handler a log stats =
          (⟨e.status, none⟩, s.emit log (failedEvent e)) := by
        simp only [call, Step.contained, run, Step.caught]
      rw [replied, Run.deliveriesEmit, heard, List.filterMap_append]
      exact ⟨rfl, Run.worldEmit log _ s, rfl⟩
    · rw [List.filter_append]
      exact (List.append_nil _).trans major
  · obtain ⟨s, run, -⟩ := tells .bare ⟨stats, .empty, .unopened, #[]⟩ rfl
    exact absurd (congrArg Prod.fst run) (bodyCalm a .bare stats p)
  · refine ⟨⟨statusOk, some array⟩, b.world, told, fun log => ?_, major⟩
    obtain ⟨s, run, rfl, heard⟩ := tells log ⟨stats, .empty, .unopened, #[]⟩ rfl
    have replied : call RootFile.handler a log stats = (⟨statusOk, some array⟩, s) := by
      simp only [call, Step.contained, run, Step.caught]
    rw [replied]
    exact ⟨rfl, rfl, heard⟩

/-- The records of a call that comes after a registration of the listener. By `Stands.heard` its
pipeline depends on the level last set only. -/
def heard (a : Arguments) (stats : RootFile.Stats) (listener : Nat) (level : Log.Level) :
    List Log.Delivery :=
  (call RootFile.handler a (.hearing listener level) stats).2.deliveries

theorem loggingAside (a : Arguments) (stats : RootFile.Stats) (p q : Log.Pipeline) (listener : Nat)
    (level : Log.Level) :
    (call RootFile.handler a p stats).1 = (call RootFile.handler a q stats).1 ∧
    (call RootFile.handler a p stats).2.world = (call RootFile.handler a q stats).2.world ∧
    heard a stats listener level =
      (heard a stats listener .trace).filter (fun d => level.code ≤ d.level.code) ∧
    heard a stats listener .warn = a.miscount.toList.map fun (declared, yielded) =>
      ⟨listener, .warn, "mndx_ffi::enumeration",
        s!"root handler count mismatch declared={declared} yielded={yielded}"⟩ := by
  obtain ⟨reply, w, told, every, major⟩ := tellsCall a stats
  have hears (level : Log.Level) : heard a stats listener level =
      told.filterMap (Log.Pipeline.hearing listener level).record := (every _).2.2
  refine ⟨by rw [(every p).1, (every q).1], by rw [(every p).2.1, (every q).2.1], ?_, ?_⟩
  · rw [hears, hears, List.filter_filterMap]
    congr 1
    funext e
    exact Log.Pipeline.recordAbove listener level e
  · rw [hears, ← Log.Pipeline.recordMajor, major]
    cases a.miscount with
    | none => rfl
    | some counts =>
      have sent : (Log.Pipeline.hearing listener .warn).record (Enumeration.warning counts) =
          some ⟨listener, .warn, "mndx_ffi::enumeration", (Enumeration.warning counts).text⟩ := by
        have clean : '\x00' ∉ Enumeration.target.toList := by decide
        have passes : (Log.Level.warn.reaches .warn &&
          !Enumeration.target.toList.contains '\x00') = true := by simp [clean, Log.Level.reaches]
        exact (Log.Pipeline.recordHearing listener .warn _).trans (if_pos passes)
      change [Enumeration.warning counts].filterMap _ = [_]
      rw [List.filterMap_cons, sent, Enumeration.warningText]
      rfl

end Export
end RootCatalog
