import Mathlib.Algebra.Group.Nat.Defs
import RootCatalog.Proofs.Text.Utf8
import RootCatalog.RootFile.Handler
/-! The format of root files, from both sides: what the reader takes is what the layout writes. Each
part of a record has one theorem, which says which octets it is read from; the file's theorems are
put together from them. -/
namespace RootCatalog

theorem bindOk {ε α β : Type} {x : Except ε α} {f : α → Except ε β} {b : β} :
    x >>= f = .ok b ↔ ∃ a, x = .ok a ∧ f a = .ok b := by
  cases x with
  | error e => simp [bind, Except.bind]
  | ok a => simp [bind, Except.bind]

namespace Bytes

theorem valueBound (bytes : Bytes) : toNat bytes < 256 ^ bytes.length := by
  induction bytes with
  | nil => simp [toNat]
  | cons b rest ih =>
    have := b.toNat_lt
    simp only [toNat, List.length_cons, Nat.pow_succ]
    omega

theorem valueOfOctets (n value : Nat) : toNat (ofNat n value) = value % 256 ^ n := by
  induction n generalizing value with
  | zero => simp [ofNat, toNat, Nat.mod_one]
  | succ n ih =>
    have h : (UInt8.ofNat (value % 256)).toNat = value % 256 := by simp
    rw [ofNat, toNat, h, ih, Nat.pow_succ, Nat.mul_comm (256 ^ n), Nat.mod_mul]

end Bytes

namespace RootFile

theorem takeExact {part : Part} {n : Nat} {octets front rest : Bytes} :
    take part n octets = .ok (front, rest) ↔ octets = front ++ rest ∧ front.length = n := by
  unfold take
  rw [Bytes.cutTakes]
  constructor
  · intro ok
    by_cases enough : n ≤ octets.length
    · simp only [enough, if_true, Except.ok.injEq, Prod.mk.injEq] at ok
      obtain ⟨rfl, rfl⟩ := ok
      exact ⟨(List.take_append_drop n octets).symm, by simp [enough]⟩
    · simp [enough] at ok
  · intro parts
    obtain ⟨rfl, rfl⟩ := parts
    simp

theorem wordLength (w : UInt32) : (word w).length = 4 := Bytes.lengthOfNat 4 w.toNat

theorem wordOfOctets {octets : Bytes} (four : octets.length = 4) :
    word (UInt32.ofNat (Bytes.toNat octets)) = octets := by
  have small := Bytes.valueBound octets
  rw [four] at small
  unfold word
  rw [UInt32.toNat_ofNat_of_lt' (by simpa [UInt32.size] using small), ← four]
  exact Bytes.ofNatToNat octets

theorem octetsOfWord (w : UInt32) : UInt32.ofNat (Bytes.toNat (word w)) = w := by
  have small := w.toNat_lt
  unfold word
  rw [Bytes.valueOfOctets, Nat.mod_eq_of_lt (by simpa using small), UInt32.ofNat_toNat]

theorem takeWordExact {part : Part} {octets rest : Bytes} {w : UInt32} :
    takeWord part octets = .ok (w, rest) ↔ octets = word w ++ rest := by
  unfold takeWord
  rw [bindOk]
  constructor
  · intro ⟨⟨front, rest'⟩, taken, last⟩
    obtain ⟨rfl, four⟩ := takeExact.mp taken
    cases last
    rw [wordOfOctets four]
  · intro same
    subst same
    exact ⟨(word w, rest), takeExact.mpr ⟨rfl, wordLength w⟩, by simp [octetsOfWord, pure, Except.pure]⟩

theorem takeNameExact {octets rest : Bytes} {name : String} :
    takeName octets = .ok (name, rest) ↔ (Text.utf8 name).length ≤ maxNameLength ∧
      octets = Bytes.ofNat 2 (Text.utf8 name).length ++ (Text.utf8 name ++ rest) := by
  unfold takeName
  rw [bindOk]
  constructor
  · intro ⟨⟨front, later⟩, length, more⟩
    obtain ⟨rfl, two⟩ := takeExact.mp length
    obtain ⟨⟨text, later⟩, body, last⟩ := bindOk.mp more
    obtain ⟨rfl, size⟩ := takeExact.mp body
    have small := Bytes.valueBound front
    rw [two] at small
    cases read : Text.decode text with
    | error fault => simp [read, throw, throwThe, MonadExceptOf.throw] at last
    | ok name' =>
      simp only [read, pure, Except.pure, Except.ok.injEq, Prod.mk.injEq] at last
      obtain ⟨rfl, rfl⟩ := last
      obtain rfl := Text.decodedExactly.mp read
      refine ⟨by unfold maxNameLength; omega, ?_⟩
      rw [size, ← two, Bytes.ofNatToNat]
  · intro parts
    obtain ⟨short, rfl⟩ := parts
    have length : Bytes.toNat (Bytes.ofNat 2 (Text.utf8 name).length) = (Text.utf8 name).length := by
      rw [Bytes.valueOfOctets, Nat.mod_eq_of_lt (by unfold maxNameLength at short; omega)]
    refine ⟨_, takeExact.mpr ⟨rfl, Bytes.lengthOfNat 2 _⟩, ?_⟩
    refine bindOk.mpr ⟨(Text.utf8 name, rest), takeExact.mpr ⟨rfl, length.symm⟩, ?_⟩
    simp [Text.decodeUtf8, pure, Except.pure]

theorem takeKeyExact {octets rest : Bytes} {key : ContentKey} :
    takeKey octets = .ok (key, rest) ↔ octets = key.bytes ++ rest := by
  unfold takeKey
  constructor
  · intro ok
    split at ok
    · rename_i front later taken
      cases ok
      exact (takeExact.mp taken).1
    · cases ok
  · intro same
    subst same
    have taken : take .contentKey 16 (key.bytes ++ rest) = .ok (key.bytes, rest) :=
      takeExact.mpr ⟨rfl, key.lengthEq⟩
    split
    · rename_i front later same
      rw [taken] at same
      cases same
      rfl
    · rename_i fault same
      rw [taken] at same
      cases same

theorem recordExact {e : FileEntry} {octets : Bytes} :
    record e = .ok octets ↔ (Text.utf8 e.name).length ≤ maxNameLength ∧
      octets = Bytes.ofNat 2 (Text.utf8 e.name).length ++ (Text.utf8 e.name ++ recordTail e) := by
  unfold record
  by_cases short : (Text.utf8 e.name).length ≤ maxNameLength
  · simp [short, eq_comm]
  · simp [short]

theorem takeRecordExact {octets rest : Bytes} {e : FileEntry} :
    takeRecord octets = .ok (e, rest) ↔
      ∃ written, record e = .ok written ∧ octets = written ++ rest := by
  unfold takeRecord
  constructor
  · intro ok
    obtain ⟨⟨name, r₁⟩, hn, ok⟩ := bindOk.mp ok
    obtain ⟨⟨size, r₂⟩, hs, ok⟩ := bindOk.mp ok
    obtain ⟨⟨flags, r₃⟩, hf, ok⟩ := bindOk.mp ok
    obtain ⟨⟨fileId, r₄⟩, hi, ok⟩ := bindOk.mp ok
    obtain ⟨⟨key, r₅⟩, hk, last⟩ := bindOk.mp ok
    cases last
    obtain ⟨short, rfl⟩ := takeNameExact.mp hn
    obtain rfl := takeWordExact.mp hs
    obtain rfl := takeWordExact.mp hf
    obtain rfl := takeWordExact.mp hi
    obtain rfl := takeKeyExact.mp hk
    exact ⟨_, recordExact.mpr ⟨short, rfl⟩, by simp [recordTail]⟩
  · intro parts
    obtain ⟨written, ok, rfl⟩ := parts
    obtain ⟨short, rfl⟩ := recordExact.mp ok
    refine bindOk.mpr ⟨(e.name, recordTail e ++ rest), takeNameExact.mpr ⟨short, by simp⟩, ?_⟩
    have tail : recordTail e ++ rest = word e.size ++ (word e.localeFlags ++
        (word e.fileDataId ++ (e.contentKey.bytes ++ rest))) := by
      simp only [recordTail, List.append_assoc]
    refine bindOk.mpr ⟨(e.size, _), takeWordExact.mpr tail, ?_⟩
    refine bindOk.mpr ⟨(e.localeFlags, _), takeWordExact.mpr rfl, ?_⟩
    refine bindOk.mpr ⟨(e.fileDataId, _), takeWordExact.mpr rfl, ?_⟩
    exact bindOk.mpr ⟨(e.contentKey, rest), takeKeyExact.mpr rfl, rfl⟩

theorem takeRecordsExact {read entries : List FileEntry} {n : Nat} {octets rest : Bytes} :
    takeRecords read n octets = .ok (entries, rest) ↔
      ∃ later written, entries = read.reverse ++ later ∧ later.length = n ∧
        later.mapM record = .ok written ∧ octets = written.flatten ++ rest := by
  induction n generalizing read octets with
  | zero =>
    simp only [takeRecords, Except.ok.injEq, Prod.mk.injEq]
    constructor
    · intro parts
      obtain ⟨rfl, rfl⟩ := parts
      exact ⟨[], [], by simp, rfl, rfl, rfl⟩
    · intro parts
      obtain ⟨later, written, rfl, none, ok, rfl⟩ := parts
      obtain rfl := List.length_eq_zero_iff.mp none
      cases ok
      simp
  | succ n ih =>
    unfold takeRecords
    constructor
    · intro ok
      split at ok
      · rename_i e after taken
        obtain ⟨head, first, rfl⟩ := takeRecordExact.mp taken
        obtain ⟨later, written, rfl, rfl, tail, rfl⟩ := ih.mp ok
        refine ⟨e :: later, head :: written, by simp, rfl, ?_, by simp⟩
        simp [first, tail, bind, Except.bind, pure, Except.pure]
      · cases ok
    · intro parts
      obtain ⟨later, written, rfl, count, ok, rfl⟩ := parts
      cases later with
      | nil => simp at count
      | cons e later =>
        rw [List.mapM_cons] at ok
        obtain ⟨head, first, ok⟩ := bindOk.mp ok
        obtain ⟨tail, others, last⟩ := bindOk.mp ok
        cases last
        have taken : takeRecord ((head :: tail).flatten ++ rest) = .ok (e, tail.flatten ++ rest) :=
          takeRecordExact.mpr ⟨head, first, by simp⟩
        rw [taken]
        exact ih.mpr ⟨later, tail, by simp, by simpa using count, others, rfl⟩

theorem countWord {n : Nat} (few : n < UInt32.size) : Bytes.ofNat 4 n = word (UInt32.ofNat n) := by
  unfold word
  rw [UInt32.toNat_ofNat_of_lt' (by simpa [UInt32.size] using few)]

def Draft.declared (d : Draft) : UInt32 := d.declaredCount.getD (UInt32.ofNat d.entries.length)

theorem buildExact {d : Draft} {octets : Bytes} :
    d.build = .ok octets ↔ d.entries.length < UInt32.size ∧ ∃ records,
      d.entries.mapM record = .ok records ∧
      octets = magic ++ (word d.headerVersion ++ (word d.declared ++ (word d.faultIndex ++
        (word (UInt32.ofNat d.entries.length) ++ records.flatten)))) := by
  unfold Draft.build
  by_cases few : d.entries.length < UInt32.size
  · simp only [few, true_and]
    rw [if_neg (by omega), bindOk, countWord few]
    simp [pure, Except.pure, Draft.declared, List.append_assoc, eq_comm]
  · rw [if_pos (Nat.le_of_not_lt few)]
    constructor
    · intro failed
      cases failed
    · intro ⟨few', _⟩
      exact absurd few' few

theorem parseExact {octets : Bytes} {root : RootFile} :
    parse octets = .ok root ↔ ∃ version : UInt32, version.toNat ≤ maxHeaderVersion ∧
      Draft.build ⟨version, some root.declaredCount, root.faultIndex, root.entries⟩ =
        .ok octets := by
  unfold parse
  constructor
  · intro ok
    obtain ⟨⟨front, r₁⟩, hm, ok⟩ := bindOk.mp ok
    by_cases marked : front = magic
    · simp only [marked, ne_eq, not_true_eq_false, if_false] at ok
      obtain ⟨⟨version, r₂⟩, hv, ok⟩ := bindOk.mp ok
      by_cases supported : version.toNat ≤ maxHeaderVersion
      · simp only [Nat.not_lt.mpr supported, if_false] at ok
        obtain ⟨⟨declared, r₃⟩, hd, ok⟩ := bindOk.mp ok
        obtain ⟨⟨faultIndex, r₄⟩, hf, ok⟩ := bindOk.mp ok
        obtain ⟨⟨count, r₅⟩, hc, ok⟩ := bindOk.mp ok
        obtain ⟨⟨entries, r₆⟩, hr, last⟩ := bindOk.mp ok
        by_cases nothingLeft : r₆ = []
        · simp only [nothingLeft, if_true] at last
          cases last
          obtain ⟨rfl, _⟩ := takeExact.mp hm
          obtain rfl := takeWordExact.mp hv
          obtain rfl := takeWordExact.mp hd
          obtain rfl := takeWordExact.mp hf
          obtain rfl := takeWordExact.mp hc
          obtain ⟨later, records, rfl, length, written, rfl⟩ := takeRecordsExact.mp hr
          refine ⟨version, supported, buildExact.mpr ⟨?_, records, by simpa using written, ?_⟩⟩
          · simpa [length] using count.toNat_lt
          · simp [marked, nothingLeft, length, Draft.declared]
        · simp [nothingLeft, throw, throwThe, MonadExceptOf.throw] at last
      · simp [Nat.lt_of_not_le supported, throw, throwThe, MonadExceptOf.throw, bind,
          Except.bind] at ok
    · simp [marked, throw, throwThe, MonadExceptOf.throw, bind, Except.bind] at ok
  · intro ⟨version, supported, built⟩
    obtain ⟨few, records, written, rfl⟩ := buildExact.mp built
    refine bindOk.mpr ⟨(magic, _), takeExact.mpr ⟨rfl, rfl⟩, ?_⟩
    simp only [ne_eq, not_true_eq_false, if_false]
    refine bindOk.mpr ⟨(version, _), takeWordExact.mpr rfl, ?_⟩
    simp only [Nat.not_lt.mpr supported, if_false]
    refine bindOk.mpr ⟨(root.declaredCount, _), takeWordExact.mpr rfl, ?_⟩
    refine bindOk.mpr ⟨(root.faultIndex, _), takeWordExact.mpr rfl, ?_⟩
    refine bindOk.mpr ⟨(UInt32.ofNat root.entries.length, _), takeWordExact.mpr rfl, ?_⟩
    refine bindOk.mpr ⟨(root.entries, []), takeRecordsExact.mpr ?_, rfl⟩
    refine ⟨root.entries, records, rfl, ?_, written, by simp⟩
    rw [UInt32.toNat_ofNat_of_lt' (by simpa [UInt32.size] using few)]

theorem parsedFew {octets : Bytes} {root : RootFile} (parsed : parse octets = .ok root) :
    root.entries.length < UInt32.size := by
  obtain ⟨version, -, built⟩ := parseExact.mp parsed
  exact (buildExact.mp built).1

theorem parseUnsupported {version : UInt32} {rest : Bytes}
    (unsupported : maxHeaderVersion < version.toNat) :
    parse (magic ++ (word version ++ rest)) = .error (.unsupportedVersion version.toNat) := by
  have marked : take .magic 4 (magic ++ (word version ++ rest)) = .ok (magic, word version ++ rest) :=
    takeExact.mpr ⟨rfl, rfl⟩
  have read : takeWord .headerVersion (word version ++ rest) = .ok (version, rest) :=
    takeWordExact.mpr rfl
  simp [parse, marked, read, unsupported, bind, Except.bind, throw, throwThe, MonadExceptOf.throw]

def isOverlong (e : FileEntry) : Bool := maxNameLength < (Text.utf8 e.name).length

theorem overlongIff {e : FileEntry} :
    isOverlong e = true ↔ 65535 < (Text.utf8 e.name).length := decide_eq_true_iff

theorem overlongRecords {entries : List FileEntry} {e : FileEntry}
    (found : entries.find? isOverlong = some e) :
    entries.mapM record = .error
      (.invalidEntryName s!"{(Text.utf8 e.name).length} byte name exceeds the u16 length prefix") := by
  induction entries with
  | nil => simp at found
  | cons head tail ih =>
    rw [List.find?_cons] at found
    rw [List.mapM_cons]
    by_cases long : isOverlong head = true
    · rw [long] at found
      cases found
      have : ¬ (Text.utf8 e.name).length ≤ maxNameLength := by simpa [isOverlong] using long
      simp [record, this, bind, Except.bind]
    · rw [Bool.not_eq_true] at long
      rw [long] at found
      have short : (Text.utf8 head.name).length ≤ maxNameLength := by simpa [isOverlong] using long
      simp [record, short, ih found, bind, Except.bind]

theorem recordsWritten {entries : List FileEntry} (none : entries.find? isOverlong = none) :
    ∃ records, entries.mapM record = .ok records := by
  induction entries with
  | nil => exact ⟨[], rfl⟩
  | cons head tail ih =>
    rw [List.find?_eq_none] at none
    have short : (Text.utf8 head.name).length ≤ maxNameLength := by
      simpa [isOverlong] using none head List.mem_cons_self
    obtain ⟨records, ok⟩ := ih (List.find?_eq_none.mpr fun e he => none e (List.mem_cons_of_mem _ he))
    rw [List.mapM_cons, recordExact.mpr ⟨short, rfl⟩, ok]
    exact ⟨_, rfl⟩

theorem buildOverlong {d : Draft} {e : FileEntry} (few : d.entries.length < UInt32.size)
    (found : d.entries.find? isOverlong = some e) :
    d.build = .error
      (.invalidEntryName s!"{(Text.utf8 e.name).length} byte name exceeds the u16 length prefix") := by
  unfold Draft.build
  simp only [Nat.not_le.mpr few, if_false, overlongRecords found]
  rfl

theorem buildWritten {d : Draft} (few : d.entries.length < UInt32.size)
    (none : d.entries.find? isOverlong = none) : ∃ octets, d.build = .ok octets := by
  obtain ⟨records, ok⟩ := recordsWritten none
  exact ⟨_, buildExact.mpr ⟨few, records, ok, rfl⟩⟩

theorem buildFails {d : Draft} (few : d.entries.length < UInt32.size) :
    (∃ fault, d.build = .error fault) ↔ ∃ e ∈ d.entries, 65535 < (Text.utf8 e.name).length := by
  constructor
  · intro ⟨fault, failed⟩
    cases found : d.entries.find? isOverlong with
    | none =>
      obtain ⟨octets, built⟩ := buildWritten few found
      rw [built] at failed
      cases failed
    | some e =>
      exact ⟨e, List.mem_of_find?_eq_some found, overlongIff.mp (List.find?_some found)⟩
  · intro ⟨e, member, long⟩
    cases found : d.entries.find? isOverlong with
    | none =>
      exact absurd (overlongIff.mpr long) (List.find?_eq_none.mp found e member)
    | some first => exact ⟨_, buildOverlong few found⟩

def headerVersion (octets : Bytes) : UInt32 := UInt32.ofNat (Bytes.toNat ((octets.drop 4).take 4))

theorem headerVersionOfBuild {d : Draft} {octets : Bytes} (built : d.build = .ok octets) :
    headerVersion octets = d.headerVersion := by
  obtain ⟨_, records, _, rfl⟩ := buildExact.mp built
  have front : ((magic ++ (word d.headerVersion ++ (word d.declared ++ (word d.faultIndex ++
      (word (UInt32.ofNat d.entries.length) ++ records.flatten))))).drop 4).take 4 =
      word d.headerVersion := List.take_left' (wordLength d.headerVersion)
  rw [headerVersion, front, octetsOfWord]

theorem buildDeclared {d : Draft} {octets : Bytes} :
    Draft.build { d with declaredCount := some d.declared } = .ok octets ↔ d.build = .ok octets := by
  rw [buildExact, buildExact]
  rfl

theorem openCountedOk {octets : Bytes} {s s' : Stats} {root : RootFile} :
    openCounted octets s = (.ok root, s') ↔
      parse octets = .ok root ∧ s' = { s with opened := s.opened + 1 } := by
  unfold openCounted
  cases parse octets with
  | error fault => simp
  | ok root => simp [eq_comm]

theorem openedBuild {d : Draft} {octets : Bytes} (s : Stats) (built : d.build = .ok octets)
    (supported : d.headerVersion.toNat ≤ maxHeaderVersion) :
    openCounted octets s =
      (.ok ⟨d.declared, d.faultIndex, d.entries⟩, { s with opened := s.opened + 1 }) :=
  openCountedOk.mpr ⟨parseExact.mpr ⟨d.headerVersion, supported, buildDeclared.mpr built⟩, rfl⟩

theorem refusedBuild {d : Draft} {octets : Bytes} (s : Stats) (built : d.build = .ok octets)
    (unsupported : maxHeaderVersion < d.headerVersion.toNat) :
    openCounted octets s =
      (.error (.format s!"unsupported header version {d.headerVersion.toNat}"), s) := by
  obtain ⟨_, records, _, rfl⟩ := buildExact.mp built
  unfold openCounted
  rw [parseUnsupported unsupported]
  rfl

theorem builtAgain {octets : Bytes} {root : RootFile} (ok : parse octets = .ok root) :
    (headerVersion octets).toNat ≤ maxHeaderVersion ∧
      Draft.build ⟨headerVersion octets, some root.declaredCount, root.faultIndex, root.entries⟩ =
        .ok octets := by
  obtain ⟨version, supported, built⟩ := parseExact.mp ok
  have same := headerVersionOfBuild built
  simp only at same
  rw [same]
  exact ⟨supported, built⟩

/-- Writing and reading are inverse to each other: what a draft of a supported version writes is read
back whole, and what is read is what the draft of the same contents writes. -/
theorem formatExact :
    (∀ d : Draft, d.entries.length < UInt32.size →
      ((∃ fault, d.build = .error fault) ↔ ∃ e ∈ d.entries, 65535 < (Text.utf8 e.name).length) ∧
      (∀ before e after, d.entries = before ++ e :: after →
        (∀ x ∈ before, (Text.utf8 x.name).length ≤ 65535) → 65535 < (Text.utf8 e.name).length →
        d.build = .error (.invalidEntryName
          s!"{(Text.utf8 e.name).length} byte name exceeds the u16 length prefix")) ∧
      ((∀ e ∈ d.entries, (Text.utf8 e.name).length ≤ 65535) → ∃ octets, d.build = .ok octets ∧
        ∀ s : Stats,
          (d.headerVersion.toNat ≤ 2 → openCounted octets s =
            (.ok ⟨d.declaredCount.getD (UInt32.ofNat d.entries.length), d.faultIndex, d.entries⟩,
              { s with opened := s.opened + 1 })) ∧
          (2 < d.headerVersion.toNat → ∃ text, openCounted octets s = (.error (.format text), s)))) ∧
    (∀ octets s root s', openCounted octets s = (.ok root, s') →
      (headerVersion octets).toNat ≤ 2 ∧
      Draft.build ⟨headerVersion octets, some root.declaredCount, root.faultIndex, root.entries⟩ =
        .ok octets) ∧
    (∀ octets s, (∃ root s', openCounted octets s = (.ok root, s')) ↔
      ∃ d : Draft, d.headerVersion.toNat ≤ 2 ∧ d.build = .ok octets) := by
  refine ⟨fun d few => ⟨buildFails few, ?_, ?_⟩, ?_, ?_⟩
  · intro before e after split short long
    refine buildOverlong few (List.find?_eq_some_iff_append.mpr
      ⟨overlongIff.mpr long, before, after, split, fun x member => ?_⟩)
    rw [Bool.not_eq_true', ← Bool.not_eq_true, overlongIff]
    exact Nat.not_lt.mpr (short x member)
  · intro short
    have none : d.entries.find? isOverlong = none :=
      List.find?_eq_none.mpr fun e member =>
        mt overlongIff.mp (Nat.not_lt.mpr (short e member))
    obtain ⟨octets, built⟩ := buildWritten few none
    refine ⟨octets, built, fun s => ⟨openedBuild s built, fun unsupported => ?_⟩⟩
    exact ⟨_, refusedBuild s built unsupported⟩
  · intro octets s root s' opened
    exact builtAgain (openCountedOk.mp opened).1
  · intro octets s
    constructor
    · intro ⟨root, s', opened⟩
      have again := builtAgain (openCountedOk.mp opened).1
      exact ⟨_, again.1, again.2⟩
    · intro ⟨d, supported, built⟩
      exact ⟨_, _, openedBuild s built supported⟩

theorem twoRecordFileReopened :
    ∃ octets, Draft.build ⟨2, some 7, 1, [⟨"a.txt", 1, 2, 3, .zero⟩, ⟨"", 0, 0, 9, .zero⟩]⟩ =
        .ok octets ∧
      openCounted octets {} =
        (.ok ⟨7, 1, [⟨"a.txt", 1, 2, 3, .zero⟩, ⟨"", 0, 0, 9, .zero⟩]⟩, { opened := 1 }) ∧
      Draft.build ⟨headerVersion octets, some 7, 1,
        [⟨"a.txt", 1, 2, 3, .zero⟩, ⟨"", 0, 0, 9, .zero⟩]⟩ = .ok octets := by
  have outcome := formatExact.1
    ⟨2, some 7, 1, [⟨"a.txt", 1, 2, 3, .zero⟩, ⟨"", 0, 0, 9, .zero⟩]⟩ (by decide)
  obtain ⟨octets, built, opens⟩ := outcome.2.2 (by decide)
  have opened := (opens {}).1 (by decide)
  exact ⟨octets, built, opened, (formatExact.2.1 _ _ _ _ opened).2⟩

end RootFile
end RootCatalog
