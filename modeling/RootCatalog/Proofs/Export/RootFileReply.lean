import RootCatalog.Proofs.Export.Answer
import RootCatalog.Proofs.ResultSet.Room
import RootCatalog.Proofs.RootFile.Format
import RootCatalog.Proofs.RootFile.Search
/-! The whole reply to a host that passes a root file in the reference format: which of several
causes of failure its status names, and what array it gets otherwise. Real allocation is taken to
succeed, as everywhere. -/
namespace RootCatalog

theorem ResultSet.Roomy.mono {s : ResultSet} {n m : Nat} (roomy : s.Roomy n) (fewer : m ≤ n) :
    s.Roomy m where
  size := Nat.lt_of_le_of_lt (Nat.add_le_add_left fewer _) roomy.size
  capacity := roomy.capacity

namespace Export

def searchReply (config : Config) (root : RootFile) : Reply :=
  match RootFile.obstacle config.searchMask root.faultIndex 0 root.entries with
  | some (_, i) => ⟨if i = root.faultIndex.toNat then 3 else 5, none⟩
  | none =>
    let found := root.entries.filter (RootFile.isMatch config.searchMask)
    if config.searchMask = Mask.all ∧ config.strictEntryCount = true ∧
        found.length ≠ root.declaredCount.toNat then ⟨6, none⟩
    else ⟨0, some ⟨(found.map HostRecord.spelled).toArray, UInt32.ofNat found.length⟩⟩

end Export

namespace RootFile

open Enumeration (Copies Searches Fills Passes Mismatch roomAsked)

variable {mask : String} {faultIndex : UInt32} {n : Nat} {entries : List FileEntry}

theorem nextSeeks {c c' : handler.Cursor} {w w' : Stats} {q : Except Stop (Option FileEntry)}
    (stands : c = Cursor.mk mask faultIndex n entries)
    (next : handler.nextMatch c w = (q, c', w')) :
    ∃ r n' rest, q = raised r ∧ c' = Cursor.mk mask faultIndex n' rest ∧
      Cursor.Seeks mask faultIndex n entries r n' rest := by
  rcases sought : Cursor.seek mask faultIndex n entries with ⟨r, n', rest⟩
  rw [stands, nextSought sought] at next
  cases next
  exact ⟨r, n', rest, rfl, rfl, Cursor.seeks sought⟩

theorem raisedError {α : Type} {r : Except CatalogError α} {e : CatalogError}
    (stopped : raised r = .error (.error e)) : r = .error e := by
  cases r with
  | error e' => cases stopped; rfl
  | ok a => cases stopped

inductive Sought (mask : String) (faultIndex : UInt32) (n : Nat) (entries : List FileEntry)
    (before : List HostRecord) : Except Stop Unit → ResultSet → Prop
  | blocked {x i e set} (first : obstacle mask faultIndex n entries = some (x, i))
      (status : e.status = if i = faultIndex.toNat then 3 else 5) :
      Sought mask faultIndex n entries before (.error (.error e)) set
  | whole {set} (free : obstacle mask faultIndex n entries = none) (roomy : set.Roomy 0)
      (files : set.files.toList = before ++ (entries.filter (isMatch mask)).map .spelled) :
      Sought mask faultIndex n entries before (.ok ()) set

theorem copiesFile {c c' : handler.Cursor} {a b : Account Stats ResultSet} {r : Except Stop Unit}
    (copies : Copies handler ResultSet.destination c a r c' b)
    (stands : c = Cursor.mk mask faultIndex n entries) (few : n + entries.length < UInt32.size)
    (roomy : a.destination.Roomy entries.length) :
    Sought mask faultIndex n entries a.destination.files.toList r b.destination := by
  -- The room left for the records still to come carries the induction over the copied ones.
  induction copies generalizing n entries with
  | exhausted next =>
    obtain ⟨r, n', rest, answer, -, seeks⟩ := nextSeeks stands next
    obtain ⟨free, nothing⟩ := Cursor.seeksEnd seeks few (raisedOk answer.symm)
    exact .whole free (roomy.mono (Nat.zero_le _)) (by simp [nothing])
  | aborted next =>
    obtain ⟨r, n', rest, answer, -, seeks⟩ := nextSeeks stands next
    obtain ⟨status, x, found⟩ := Cursor.seeksFault seeks few (raisedError answer.symm)
    exact .blocked found (by rw [status, if_pos rfl])
  | panicked next => exact absurd next (neverPanics.nextMatch _ _ _ _ _)
  | @refused c a c' w x e d' next push =>
    obtain ⟨r, n', rest, answer, -, seeks⟩ := nextSeeks stands next
    obtain ⟨-, shorter, -, -, zero⟩ := Cursor.seeksFound seeks few (raisedOk answer.symm)
    have room : a.destination.Roomy (rest.length + 1) := roomy.mono shorter
    by_cases holdsZero : '\x00' ∈ x.name.toList
    · obtain ⟨i, apart, found⟩ := zero holdsZero
      cases (ResultSet.pushedZero room holdsZero).symm.trans push
      exact .blocked found (by rw [if_neg apart]; rfl)
    · obtain ⟨t, pushed, -, -⟩ := ResultSet.pushedClean room holdsZero
      cases pushed.symm.trans push
  | @copied c a c' w x d' r c'' b next push rest ih =>
    obtain ⟨r', n', tail, answer, stands', seeks⟩ := nextSeeks stands next
    obtain ⟨position, shorter, found, clean, -⟩ :=
      Cursor.seeksFound seeks few (raisedOk answer.symm)
    have room : a.destination.Roomy (tail.length + 1) := roomy.mono shorter
    by_cases holdsZero : '\x00' ∈ x.name.toList
    · cases (ResultSet.pushedZero room holdsZero).symm.trans push
    · obtain ⟨t, pushed, files, roomy'⟩ := ResultSet.pushedClean room holdsZero
      cases pushed.symm.trans push
      cases ih stands' (position ▸ few) roomy' with
      | blocked first status => exact .blocked ((clean holdsZero).trans first) status
      | whole free room' copied =>
        exact .whole ((clean holdsZero).trans free) room' (by rw [copied]; simp [files, found])

theorem searchesFile {root : RootFile} {a b : Account Stats ResultSet} {r : Except Stop Unit}
    (searches : Searches handler ResultSet.destination root mask a r b)
    (idle : a.phase = .sessionOpen) (few : root.entries.length < UInt32.size)
    (roomy : a.destination.Roomy root.entries.length) :
    Sought mask root.faultIndex 0 root.entries a.destination.files.toList r b.destination := by
  cases searches with
  | unbegun begins =>
    cases begins with
    | refused answer => cases answer
    | panicked answer => cases answer
    | late answer busy release => simp [idle, Phase.allows] at busy
  | broken begins copies release broken =>
    cases release
    rw [Session.feltNothing] at broken
    cases broken
  | ended begins copies release still =>
    cases begins with
    | begun answer free =>
      cases answer
      have outcome := copiesFile copies rfl (by rwa [Nat.zero_add]) roomy
      simpa using outcome

theorem roomReserved (config : Config) (declared : UInt32) {set : ResultSet} {n : Nat}
    (blank : set = .empty) (few : n < UInt32.size) : ∃ t,
      ResultSet.destination.reserve (config.initialCapacity declared) set = (.ok (), t) ∧
        t.files = #[] ∧ t.Roomy n := by
  subst blank
  have asked := roomAsked config declared
  exact ResultSet.reserved (ResultSet.roomyEmpty few) (by simpa [ResultSet.empty] using asked)

theorem mismatchIff {config : Config} {declared : UInt32} {n : Nat} (few : n < UInt32.size) :
    Mismatch config declared (UInt32.ofNat n) ↔
      config.searchMask = Mask.all ∧ config.strictEntryCount = true ∧ n ≠ declared.toNat := by
  have same : declared ≠ UInt32.ofNat n ↔ n ≠ declared.toNat := by
    rw [ne_comm]
    exact not_congr (indexWord few declared)
  rw [Mismatch, same]
  constructor
  · intro ⟨differs, whole, strict⟩
    exact ⟨whole, strict, differs⟩
  · intro ⟨whole, strict, differs⟩
    exact ⟨differs, whole, strict⟩

variable {config : Config} {root : RootFile} {a b : Account Stats ResultSet}

theorem foundSize {set : ResultSet} {found : List FileEntry}
    (files : set.files.toList = [] ++ found.map .spelled) :
    ResultSet.destination.length set = found.length := by
  have size := congrArg List.length files
  change set.files.size = found.length
  simpa using size

theorem reservedFile {n : UInt32} {w : Stats} {d : ResultSet} {r : Except Stop Unit}
    (blank : a.destination = .empty) (idle : a.phase = .sessionOpen)
    (few : root.entries.length < UInt32.size)
    (room : ResultSet.destination.reserve (config.initialCapacity n) a.destination = (.ok (), d))
    (search : Searches handler ResultSet.destination root config.searchMask
      ((a.called w .fileCount (.count n)).gave d (.reserve (config.initialCapacity n)) .done) r b) :
    Sought config.searchMask root.faultIndex 0 root.entries [] r b.destination := by
  obtain ⟨t, reserved, same, roomy⟩ := roomReserved config n blank few
  cases reserved.symm.trans room
  have outcome := searchesFile search idle few roomy
  rwa [Account.gave_destination, same] at outcome

theorem fillsFile {r : Except Stop (UInt32 × UInt32)}
    (fills : Fills handler ResultSet.destination config root a r b)
    (blank : a.destination = .empty) (idle : a.phase = .sessionOpen)
    (few : root.entries.length < UInt32.size) :
    (∃ e, r = .error (.error e) ∧ Export.searchReply config root = ⟨e.status, none⟩) ∨
    (∃ counts, r = .ok counts ∧ b.destination.Roomy 0 ∧ Export.searchReply config root =
      ⟨0, some ⟨b.destination.files, UInt32.ofNat b.destination.files.size⟩⟩) := by
  unfold Export.searchReply
  cases fills with
  | uncounted count => cases count
  | @noRoom n w e d' count room =>
    obtain ⟨t, reserved, -, -⟩ := roomReserved config n blank few
    cases reserved.symm.trans room
  | unfinished count room search =>
    cases reservedFile blank idle few room search with
    | @blocked x i e set first status =>
      rw [first]
      exact .inl ⟨e, rfl, by rw [status]⟩
  | tooMany count room search many =>
    cases reservedFile blank idle few room search with
    | whole free roomy files => exact absurd roomy.size (Nat.not_lt.mpr many)
  | miscounted count room search few' mismatch =>
    cases count
    cases reservedFile blank idle few room search with
    | whole free roomy files =>
      obtain ⟨mask, strict, differs⟩ := (mismatchIff few').mp mismatch
      rw [free]
      refine .inl ⟨_, rfl, if_pos ⟨mask, strict, ?_⟩⟩
      rwa [← foundSize files]
  | @filled n w d' b count room search few' agreed =>
    cases count
    cases reservedFile blank idle few room search with
    | whole free roomy files =>
      rw [free]
      refine .inr ⟨_, rfl, roomy, ?_⟩
      have agrees := mt (mismatchIff few').mpr agreed
      have size : b.destination.files.size = _ := foundSize files
      have array : b.destination.files = _ := Array.toList_inj.mp files
      rw [if_neg (by rwa [← foundSize files]), size, array]
      rfl

theorem openRejected {blob : Bytes} {w w' : Stats} {e : CatalogError}
    (answer : handler.openRoot blob w = (.error (.error e), w')) :
    ∃ fault, parse blob = .error fault ∧ e.status = 1 := by
  cases parsed : parse blob with
  | ok root => simp [handler, openCounted, parsed, raised] at answer
  | error fault =>
    simp only [handler, openCounted, parsed, raised, Prod.mk.injEq, Except.error.injEq,
      Stop.error.injEq] at answer
    exact ⟨fault, rfl, by rw [← answer.1]; rfl⟩

theorem opensFile {shown : Bool} {blob : Bytes}
    (opens : Session.Opens handler shown blob a (.ok root) b) :
    parse blob = .ok root ∧ root.entries.length < UInt32.size ∧ b.destination = a.destination ∧
      b.phase = .sessionOpen := by
  have opened {w w' : Stats} (answer : handler.openRoot blob w = (.ok root, w')) :
      parse blob = .ok root ∧ root.entries.length < UInt32.size := by
    have parsed : parse blob = .ok root :=
      (openCountedOk.mp (Prod.ext (raisedOk (Prod.mk.inj answer).1) rfl)).1
    exact ⟨parsed, parsedFew parsed⟩
  cases opens with
  | unseen answer fresh quiet => exact ⟨(opened answer).1, (opened answer).2, rfl, rfl⟩
  | seen answer fresh loud count => exact ⟨(opened answer).1, (opened answer).2, rfl, rfl⟩

theorem passesFile {shown : Bool} {blob : Bytes} {r : Except Stop Unit}
    (passes : Passes handler ResultSet.destination config shown blob a r b)
    (blank : a.destination = .empty) (fresh : a.phase = .unopened) :
    (∃ fault e, parse blob = .error fault ∧ r = .error (.error e) ∧ e.status = 1) ∨
    (∃ root e, parse blob = .ok root ∧ r = .error (.error e) ∧
      Export.searchReply config root = ⟨e.status, none⟩) ∨
    (∃ root, parse blob = .ok root ∧ r = .ok () ∧ b.destination.Roomy 0 ∧
      Export.searchReply config root =
        ⟨0, some ⟨b.destination.files, UInt32.ofNat b.destination.files.size⟩⟩) := by
  cases passes with
  | unopened opens =>
    cases opens with
    | @rejected e w answer =>
      obtain ⟨fault, failed, status⟩ := openRejected answer
      exact .inl ⟨fault, e, failed, rfl, status⟩
    | panicked answer => exact absurd answer (neverPanics.openRoot _ _ _ _)
    | late answer spent release => simp [fresh, Phase.allows] at spent
    | leaked answer fresh loud count => cases count
  | broken opens fills release broken =>
    cases release
    rw [Session.feltNothing] at broken
    cases broken
  | @closed root b r c q w opens fills release still =>
    obtain ⟨parsed, few, kept, idle⟩ := opensFile opens
    cases fillsFile fills (kept.trans blank) idle few with
    | inl stopped =>
      obtain ⟨e, rfl, reply⟩ := stopped
      exact .inr (.inl ⟨root, e, parsed, rfl, reply⟩)
    | inr finished =>
      obtain ⟨counts, rfl, roomy, reply⟩ := finished
      exact .inr (.inr ⟨root, parsed, rfl, by simpa using roomy, by simpa using reply⟩)

end RootFile

namespace Export

def Arguments.Unusable (a : Arguments) : Prop :=
  ¬ (a.filesWritable = true ∧ a.countWritable = true) ∨ (a.root = none ∧ a.rootLength ≠ 0)

instance (a : Arguments) : Decidable a.Unusable :=
  inferInstanceAs (Decidable (_ ∨ _))

def Arguments.given (a : Arguments) : Bytes := (a.root.getD []).take a.rootLength.toNat

def Arguments.configured (a : Arguments) : Except Json.Fault Config :=
  if a.config = none ∨ a.configLength = 0 then .ok .default
  else Config.ofJson ((a.config.getD []).take a.configLength.toNat)

def fileReply (a : Arguments) : Reply :=
  if a.Unusable then ⟨4, none⟩
  else match a.configured with
    | .error _ => ⟨7, none⟩
    | .ok config =>
      match RootFile.parse a.given with
      | .error _ => ⟨1, none⟩
      | .ok root => searchReply config root

variable {a : Arguments}

theorem blobRefused {e : CatalogError} (refused : a.blob = .error e) :
    a.Unusable ∧ e.status = 4 := by
  unfold Arguments.blob at refused
  split at refused
  · cases refused
    exact ⟨.inl fun ⟨files, count⟩ => by simp_all, rfl⟩
  · split at refused
    · cases refused
    · split at refused
      · cases refused
      · cases refused
        exact ⟨.inr ⟨by assumption, by assumption⟩, rfl⟩

theorem blobGiven {bytes : Bytes} (given : a.blob = .ok bytes) :
    ¬ a.Unusable ∧ bytes = a.given := by
  unfold Arguments.blob at given
  split at given
  · cases given
  · split at given
    · cases given
      simp_all [Arguments.Unusable, Arguments.given]
    · split at given
      · cases given
        simp_all [Arguments.Unusable, Arguments.given]
      · cases given

theorem settingsRejected {e : CatalogError} (rejected : a.settings = .error e) :
    ∃ fault, a.configured = .error fault ∧ e.status = 7 := by
  unfold Arguments.settings at rejected
  split at rejected
  · cases rejected
  · split at rejected
    · cases rejected
    · split at rejected
      · cases rejected
      · rename_i fault unread
        cases rejected
        refine ⟨fault, ?_, by cases fault <;> rfl⟩
        simp_all [Arguments.configured]

theorem settingsRead {config : Config} (read : a.settings = .ok config) :
    a.configured = .ok config := by
  unfold Arguments.settings at read
  split at read
  · cases read
    simp_all [Arguments.configured]
  · split at read
    · cases read
      simp_all [Arguments.configured]
    · split at read
      · cases read
        simp_all [Arguments.configured]
      · cases read

theorem rootFileReply (a : Arguments) (log : Log.Pipeline) (stats : RootFile.Stats) :
    (call RootFile.handler a log stats).1 = fileReply a := by
  obtain ⟨r, b, answers, reply, -⟩ := callAnswer RootFile.finite a log stats
  rw [reply]
  unfold fileReply
  cases answers with
  | refused blob =>
    obtain ⟨unusable, status⟩ := blobRefused blob
    rw [if_pos unusable, replyTo, status]
  | unsettled blob settings =>
    obtain ⟨usable, rfl⟩ := blobGiven blob
    obtain ⟨fault, rejected, status⟩ := settingsRejected settings
    rw [if_neg usable, rejected, replyTo, status]
  | stopped blob settings passes =>
    obtain ⟨usable, rfl⟩ := blobGiven blob
    rw [if_neg usable, settingsRead settings]
    rcases RootFile.passesFile passes rfl rfl with
      ⟨fault, e, failed, stopped, status⟩ | ⟨root, e, parsed, stopped, found⟩ |
        ⟨root, parsed, finished, -⟩
    · cases stopped
      simp only [failed, replyTo, status]
    · cases stopped
      simp only [parsed, replyTo, found]
    · cases finished
  | passed blob settings passes =>
    obtain ⟨usable, rfl⟩ := blobGiven blob
    rw [if_neg usable, settingsRead settings]
    rcases RootFile.passesFile passes rfl rfl with
      ⟨fault, e, failed, stopped, status⟩ | ⟨root, e, parsed, stopped, found⟩ |
        ⟨root, parsed, -, roomy, found⟩
    · cases stopped
    · cases stopped
    · simp only [parsed, found, ResultSet.toHostRoomy roomy]
      rfl

example : (searchReply ⟨"*.txt", true, 0⟩ ⟨9, 1, [⟨"a\x00.bin", 0, 0, 0, .zero⟩,
    ⟨"b\x00.txt", 0, 0, 0, .zero⟩]⟩).status = 3 := by decide

example : (searchReply ⟨"*", true, 0⟩ ⟨9, 1, [⟨"a\x00.bin", 0, 0, 0, .zero⟩,
    ⟨"b\x00.txt", 0, 0, 0, .zero⟩]⟩).status = 5 := by decide

end Export
end RootCatalog
