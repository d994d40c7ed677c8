import Mathlib.Data.List.Find
import RootCatalog.Config
import RootCatalog.FileEntry.Document
import RootCatalog.Proofs.ContentKey.Codec
import RootCatalog.Proofs.Json.Objects
/-! Documents of file entries and configurations. Either is read by the names of its fields, in any
order and with other members in between, and what is printed is such a document. -/
namespace RootCatalog

namespace Json

theorem asNatBelowOk {n bound : Nat} (fits : n < bound) (expected : String)
    (q : Except Fault Unit) : (Token.number (.ok (.integer n)) q).asNatBelow bound expected = .ok n :=
  if_pos ⟨Int.natCast_nonneg n, fits⟩

theorem asWord (n : UInt32) (q : Except Fault Unit) :
    (Token.number (.ok (.integer n.toNat)) q).asUInt32 = .ok n := by
  rw [Token.asUInt32, asNatBelowOk n.toNat_lt]
  exact congrArg Except.ok UInt32.ofNat_toNat

theorem asLongWord (n : UInt64) (q : Except Fault Unit) :
    (Token.number (.ok (.integer n.toNat)) q).asUInt64 = .ok n := by
  rw [Token.asUInt64, asNatBelowOk n.toNat_lt]
  exact congrArg Except.ok UInt64.ofNat_toNat

end Json

theorem wordFits (n : UInt32) : n.toNat < UInt64.size :=
  Nat.lt_trans n.toNat_lt (by decide)

namespace Config

def names : List String := ["search_mask", "strict_entry_count", "max_preallocated_entries"]

inductive Member where
  | searchMask (mask : String)
  | strictEntryCount (strict : Bool)
  | maxPreallocatedEntries (entries : UInt64)
  | other (key : String) (foreign : key ∉ names)

def Member.key : Member → String
  | .searchMask _ => "search_mask"
  | .strictEntryCount _ => "strict_entry_count"
  | .maxPreallocatedEntries _ => "max_preallocated_entries"
  | .other key _ => key

def Member.Spelled : Member → Bytes → Bytes → Prop
  | .searchMask mask => (Json.Scalar.string mask).Spelled
  | .strictEntryCount strict => (Json.Scalar.bool strict).Spelled
  | .maxPreallocatedEntries entries => (Json.Scalar.natural entries.toNat).Spelled
  | .other _ _ => Json.Written .value

def vocabulary : Json.Vocabulary Member := ⟨Member.key, Member.Spelled⟩

def replaced (c : Config) : Member → Config
  | .searchMask mask => { c with searchMask := mask }
  | .strictEntryCount strict => { c with strictEntryCount := strict }
  | .maxPreallocatedEntries entries => { c with maxPreallocatedEntries := entries }
  | .other _ _ => c

def Draft.put (d : Draft) : Member → Draft
  | .searchMask mask => { d with searchMask := some mask }
  | .strictEntryCount strict => { d with strictEntryCount := some strict }
  | .maxPreallocatedEntries entries => { d with maxPreallocatedEntries := some entries }
  | .other _ _ => d

theorem presentPut (d : Draft) (m : Member) : ∀ field ∈ form.fields,
    field.present (d.put m) = (decide (field.name = m.key) || field.present d) := by
  cases m with
  | other key foreign =>
    intro field member
    have apart : field.name ≠ key := fun same => foreign (same ▸ List.mem_map_of_mem member)
    simp [Draft.put, Member.key, apart]
  | _ => simp [form, fields, Draft.put, Member.key]

theorem reads : form.Reads vocabulary Draft.put where
  blank := by simp [form, fields, Draft.blank]
  present := presentPut
  meets m := by
    cases m with
    | searchMask mask => exact .scalar rfl id trivial fun draft => rfl
    | strictEntryCount strict => exact .scalar rfl id trivial fun draft => rfl
    | maxPreallocatedEntries entries =>
      refine .scalar rfl id entries.toNat_lt fun draft => ?_
      simp only [Json.Scalar.token, Json.asLongWord]
      rfl
    | other key foreign => exact .foreign foreign id fun draft => rfl

theorem filledPut (d : Draft) (members : List Member) :
    (members.foldl Draft.put d).filled = members.foldl replaced d.filled := by
  induction members generalizing d with
  | nil => rfl
  | cons m later ih =>
    have one : (d.put m).filled = d.filled.replaced m := by cases m <;> rfl
    rw [List.foldl_cons, ih, one, List.foldl_cons]

theorem readByName {members : List Member} {document : Bytes}
    (whole : vocabulary.Document members document)
    (distinct : Json.Distinct names (members.map Member.key)) :
    ofJson document = .ok (members.foldl replaced default) := by
  rw [ofJson, whole.written, if_neg Bool.false_ne_true, reads.readDistinct whole distinct]
  exact congrArg Except.ok (filledPut Draft.blank members)

theorem refusedByName {members : List Member} {document : Bytes}
    (whole : vocabulary.Document members document)
    (indistinct : ¬ Json.Distinct names (members.map Member.key)) :
    ∃ key, Json.Repeats names (members.map Member.key) key ∧
      ofJson document = .error (Json.RecordForm.repeated key) := by
  rw [ofJson, whole.written, if_neg Bool.false_ne_true]
  exact reads.readRepeated whole indistinct

def printed (c : Config) : List (Member × String) := [
  (.searchMask c.searchMask, Json.stringText c.searchMask),
  (.strictEntryCount c.strictEntryCount, if c.strictEntryCount then "true" else "false"),
  (.maxPreallocatedEntries c.maxPreallocatedEntries, toString c.maxPreallocatedEntries.toNat)]

theorem printedSpelled (c : Config) : ∀ p ∈ c.printed, ∀ rest,
    vocabulary.spelled p.1 (Text.utf8 p.2 ++ rest) rest := by
  simp only [printed, List.forall_mem_cons]
  exact ⟨(Json.Scalar.string _).printed, (Json.Scalar.bool _).printed,
    (Json.Scalar.natural _).printed, by simp⟩

theorem documentRead (c : Config) : ofJson (Text.utf8 c.json) = .ok c := by
  have distinct : Json.Distinct names names := by decide
  exact readByName (Json.Vocabulary.printedDocument (by simp [printed]) c.printedSpelled) distinct

end Config

namespace FileEntry

def names : List String := ["name", "size", "locale_flags", "file_data_id", "content_key"]

inductive Member where
  | name (given : String)
  | size (octets : UInt32)
  | localeFlags (flags : UInt32)
  | fileDataId (id : UInt32)
  | contentKey (key : ContentKey)
  | other (key : String) (foreign : key ∉ names)

def Member.key : Member → String
  | .name _ => "name"
  | .size _ => "size"
  | .localeFlags _ => "locale_flags"
  | .fileDataId _ => "file_data_id"
  | .contentKey _ => "content_key"
  | .other key _ => key

def Member.Spelled : Member → Bytes → Bytes → Prop
  | .name given => (Json.Scalar.string given).Spelled
  | .size octets => (Json.Scalar.natural octets.toNat).Spelled
  | .localeFlags flags => (Json.Scalar.natural flags.toNat).Spelled
  | .fileDataId id => (Json.Scalar.natural id.toNat).Spelled
  | .contentKey key => fun text rest =>
    ∃ digits, ContentKey.parse digits = .ok key ∧ (Json.Scalar.string digits).Spelled text rest
  | .other _ _ => Json.Written .value

def vocabulary : Json.Vocabulary Member := ⟨Member.key, Member.Spelled⟩

def Member.Of (e : FileEntry) : Member → Prop
  | .name given => e.name = given
  | .size octets => e.size = octets
  | .localeFlags flags => e.localeFlags = flags
  | .fileDataId id => e.fileDataId = id
  | .contentKey key => e.contentKey = key
  | .other _ _ => True

def Draft.put (d : Draft) : Member → Draft
  | .name given => { d with name := some given }
  | .size octets => { d with size := some octets }
  | .localeFlags flags => { d with localeFlags := some flags }
  | .fileDataId id => { d with fileDataId := some id }
  | .contentKey key => { d with contentKey := some key }
  | .other _ _ => d

theorem presentPut (d : Draft) (m : Member) : ∀ field ∈ form.fields,
    field.present (d.put m) = (decide (field.name = m.key) || field.present d) := by
  cases m with
  | other key foreign =>
    intro field member
    have apart : field.name ≠ key := fun same => foreign (same ▸ List.mem_map_of_mem member)
    simp [Draft.put, Member.key, apart]
  | _ => simp [form, fields, Draft.put, Member.key]

theorem reads : form.Reads vocabulary Draft.put where
  blank := by simp [form, fields, Draft.blank]
  present := presentPut
  meets m := by
    have word (n : UInt32) (taken : UInt32 → Draft) : (do
        pure (taken (← (Json.Scalar.natural n.toNat).token.asUInt32)) : Except Json.Fault Draft) =
        .ok (taken n) := by
      simp only [Json.Scalar.token, Json.asWord]
      rfl
    cases m with
    | name given => exact .scalar rfl id trivial fun draft => rfl
    | size octets =>
      exact .scalar rfl id (wordFits octets) fun draft =>
        word octets fun n => { draft with size := some n }
    | localeFlags flags =>
      exact .scalar rfl id (wordFits flags) fun draft =>
        word flags fun n => { draft with localeFlags := some n }
    | fileDataId number =>
      exact .scalar rfl id (wordFits number) fun draft =>
        word number fun n => { draft with fileDataId := some n }
    | contentKey key =>
      refine .known rfl fun spelled follows => ?_
      obtain ⟨digits, parsed, spelled⟩ := spelled
      refine ⟨_, spelled.lexed follows trivial, fun draft => ?_⟩
      simp only [Json.Scalar.token, readKey, Json.Token.asString, bind, Except.bind, parsed]
      rfl
    | other key foreign => exact .foreign foreign id fun draft => rfl

def Draft.entry (d : Draft) : FileEntry where
  name := d.name.getD ""
  size := d.size.getD 0
  localeFlags := d.localeFlags.getD 0
  fileDataId := d.fileDataId.getD 0
  contentKey := d.contentKey.getD ContentKey.zero

theorem missingField {keys : List String} {d : Draft} (taken : form.Taken keys d) :
    names.find? (· ∉ keys) = (form.fields.find? (!·.present d)).map (·.name) := by
  have same : form.fields.find? ((· ∉ keys) ∘ (·.name)) = form.fields.find? (!·.present d) := by
    refine List.find?_congr fun field member => ?_
    simp [taken field member]
  rw [← same, show names = form.fields.map (·.name) from rfl, List.find?_map]

theorem completed {keys : List String} {d : Draft} (taken : form.Taken keys d) :
    d.complete = (names.find? (· ∉ keys)).elim (.ok d.entry)
      fun missing => .error (.data s!"missing field `{missing}`") := by
  rw [missingField taken, Option.elim_map]
  obtain ⟨_ | _, _ | _, _ | _, _ | _, _ | _⟩ := d <;> rfl

theorem ofPut (d : Draft) (m : Member) : m.Of (d.put m).entry := by
  cases m <;> first | rfl | trivial

theorem ofOther {m other : Member} (apart : m.key ∈ names → other.key ≠ m.key) {d : Draft}
    (told : m.Of d.entry) : m.Of (d.put other).entry := by
  cases m with
  | other => trivial
  | _ =>
    have apart := apart (by simp [Member.key, names])
    cases other <;> first | exact told | exact absurd rfl apart

theorem ofLater {m : Member} {later : List Member}
    (apart : m.key ∈ names → m.key ∉ later.map Member.key) {d : Draft} (told : m.Of d.entry) :
    m.Of (later.foldl Draft.put d).entry := by
  induction later generalizing d with
  | nil => exact told
  | cons next later ih =>
    simp only [List.map_cons, List.mem_cons, not_or] at apart
    exact ih (fun known => (apart known).2) (ofOther (fun known => Ne.symm (apart known).1) told)

theorem ofEach {members : List Member} (distinct : Json.Distinct names (members.map Member.key))
    (d : Draft) : ∀ m ∈ members, m.Of (members.foldl Draft.put d).entry := by
  induction members generalizing d with
  | nil => simp
  | cons first later ih =>
    obtain ⟨apart, distinct⟩ := distinct.tail
    exact List.forall_mem_cons.mpr ⟨ofLater apart (ofPut d first), ih distinct (d.put first)⟩

section ByName

variable {members : List Member} {document : Bytes} (whole : vocabulary.Document members document)

include whole

theorem readByName (distinct : Json.Distinct names (members.map Member.key)) :
    ofJson document = (names.find? (· ∉ members.map Member.key)).elim
      (.ok (members.foldl Draft.put Draft.blank).entry)
      fun missing => .error (.data s!"missing field `{missing}`") := by
  have taken : form.Taken (members.map Member.key) _ := reads.taken reads.begun members
  exact (reads.readDistinct whole distinct).trans (completed taken)

theorem fullByName (distinct : Json.Distinct names (members.map Member.key))
    (full : ∀ name ∈ names, name ∈ members.map Member.key) :
    ∃ e, ofJson document = .ok e ∧ ∀ m ∈ members, m.Of e := by
  have absent : names.find? (· ∉ members.map Member.key) = none :=
    List.find?_eq_none.mpr fun name known => by simpa using full name known
  refine ⟨_, ?_, ofEach distinct Draft.blank⟩
  rw [readByName whole distinct, absent]
  rfl

theorem missingByName (distinct : Json.Distinct names (members.map Member.key)) {missing : String}
    (first : names.find? (· ∉ members.map Member.key) = some missing) :
    ofJson document = .error (.data s!"missing field `{missing}`") := by
  rw [readByName whole distinct, first]
  rfl

theorem refusedByName (indistinct : ¬ Json.Distinct names (members.map Member.key)) :
    ∃ key, Json.Repeats names (members.map Member.key) key ∧
      ofJson document = .error (Json.RecordForm.repeated key) :=
  reads.readRepeated whole indistinct

end ByName

def printed (e : FileEntry) : List (Member × String) := [
  (.name e.name, Json.stringText e.name),
  (.size e.size, toString e.size.toNat),
  (.localeFlags e.localeFlags, toString e.localeFlags.toNat),
  (.fileDataId e.fileDataId, toString e.fileDataId.toNat),
  (.contentKey e.contentKey, e.contentKey.json)]

theorem printedSpelled (e : FileEntry) : ∀ p ∈ e.printed, ∀ rest,
    vocabulary.spelled p.1 (Text.utf8 p.2 ++ rest) rest := by
  have natural (n : Nat) := (Json.Scalar.natural n).printed
  simp only [printed, List.forall_mem_cons]
  refine ⟨(Json.Scalar.string e.name).printed, natural _, natural _, natural _, ?_, by simp⟩
  exact fun rest => ⟨e.contentKey.text, ContentKey.parseText _, Json.Scalar.printed _ rest⟩

theorem documentRead (e : FileEntry) : ofJson (Text.utf8 e.json) = .ok e := by
  have distinct : Json.Distinct names names := by decide
  exact readByName (Json.Vocabulary.printedDocument (by simp [printed]) e.printedSpelled) distinct

end FileEntry

theorem documentsRead : (∀ e : FileEntry, FileEntry.ofJson (Text.utf8 e.json) = .ok e) ∧
    ∀ c : Config, Config.ofJson (Text.utf8 c.json) = .ok c :=
  ⟨FileEntry.documentRead, Config.documentRead⟩

/-- A configuration is the default one with the given fields replaced; an entry has all that its
members say. A known key that comes again is refused, and so is an entry without one of the fields:
the first of those in their order is named. -/
theorem documentsByName :
    (∀ {members : List Config.Member} {document : Bytes},
      Config.vocabulary.Document members document →
      (Json.Distinct Config.names (members.map Config.Member.key) →
        Config.ofJson document = .ok (members.foldl Config.replaced Config.default)) ∧
      (¬ Json.Distinct Config.names (members.map Config.Member.key) →
        ∃ key, Json.Repeats Config.names (members.map Config.Member.key) key ∧
          Config.ofJson document = .error (.data s!"duplicate field `{key}`"))) ∧
    ∀ {members : List FileEntry.Member} {document : Bytes},
      FileEntry.vocabulary.Document members document →
      (Json.Distinct FileEntry.names (members.map FileEntry.Member.key) →
        (∀ name ∈ FileEntry.names, name ∈ members.map FileEntry.Member.key) →
          ∃ e, FileEntry.ofJson document = .ok e ∧ ∀ m ∈ members, m.Of e) ∧
      (Json.Distinct FileEntry.names (members.map FileEntry.Member.key) → ∀ missing,
        FileEntry.names.find? (· ∉ members.map FileEntry.Member.key) = some missing →
          FileEntry.ofJson document = .error (.data s!"missing field `{missing}`")) ∧
      (¬ Json.Distinct FileEntry.names (members.map FileEntry.Member.key) →
        ∃ key, Json.Repeats FileEntry.names (members.map FileEntry.Member.key) key ∧
          FileEntry.ofJson document = .error (.data s!"duplicate field `{key}`")) := by
  constructor
  · intro members document whole
    exact ⟨Config.readByName whole, Config.refusedByName whole⟩
  · intro members document whole
    refine ⟨FileEntry.fullByName whole, ?_, FileEntry.refusedByName whole⟩
    exact fun distinct missing => FileEntry.missingByName whole distinct

/-- The octets of `{"a":[{}], "search_mask":"b"}`. -/
def nestedDocument : Bytes := [
  0x7B, 0x22, 0x61, 0x22, 0x3A, 0x5B, 0x7B, 0x7D, 0x5D, 0x2C, 0x20,
  0x22, 0x73, 0x65, 0x61, 0x72, 0x63, 0x68, 0x5F, 0x6D, 0x61, 0x73, 0x6B, 0x22, 0x3A,
  0x22, 0x62, 0x22, 0x7D]

theorem nestedValue (rest : Bytes) :
    Json.Written .value (0x5B :: 0x7B :: 0x7D :: 0x5D :: rest) rest :=
  .array (.lastItem (.item (.none _) (.emptyObject (.none _)) (.none _)))

theorem nestedWritten :
    Config.vocabulary.Document [.other "a" (by decide), .searchMask "b"] nestedDocument := by
  have named : Config.vocabulary.Member (.searchMask "b") (nestedDocument.drop 10) [0x7D] :=
    .member (.more (.inl rfl) (.none _)) (Json.charsPrinted "search_mask".toList _) (.none _) (.none _)
      (.string (Json.charsPrinted ['b'] _)) (.none _)
  refine .members (.none _) (.more ?_ (.last named)) (.none [])
  exact .member (.none _) (Json.charsPrinted ['a'] _) (.none _) (.none _) (nestedValue _) (.none _)

def someKey : ContentKey := ⟨0xAB :: List.replicate 15 0, rfl⟩

def shuffled : List (FileEntry.Member × String) := [
  (.contentKey someKey, someKey.json),
  (.fileDataId 7, "7"),
  (.other "origin" (by decide), "[\x7b\x7d]"),
  (.size 12, "12"),
  (.name "a.txt", Json.stringText "a.txt"),
  (.localeFlags 2, "2")]

def shuffledDocument : Bytes :=
  Text.utf8 (Json.objectText (shuffled.map FileEntry.vocabulary.printed))

theorem shuffledWritten :
    FileEntry.vocabulary.Document (shuffled.map (·.1)) shuffledDocument := by
  have natural (n : Nat) := (Json.Scalar.natural n).printed
  refine Json.Vocabulary.printedDocument (by simp [shuffled]) ?_
  simp only [shuffled, List.forall_mem_cons]
  refine ⟨?_, natural 7, nestedValue, natural 12, (Json.Scalar.string _).printed, natural 2, by simp⟩
  exact fun rest => ⟨someKey.text, ContentKey.parseText _, Json.Scalar.printed _ rest⟩

theorem nestedMemberPassed : Config.ofJson nestedDocument = .ok ⟨"b", false, 1048576⟩ ∧
    FileEntry.ofJson shuffledDocument = .ok ⟨"a.txt", 12, 2, 7, someKey⟩ ∧
    FileEntry.ofJson [0x7B, 0x7D] = .error (.data "missing field `name`") := by
  have empty : FileEntry.vocabulary.Document [] [0x7B, 0x7D] :=
    .empty (.none _) (.none _) (.none [])
  obtain ⟨e, read, told⟩ := (documentsByName.2 shuffledWritten).1 (by decide) (by decide)
  simp only [shuffled, List.map_cons, List.forall_mem_cons] at told
  obtain ⟨key, id, -, size, name, flags, -⟩ := told
  have same : e = ⟨"a.txt", 12, 2, 7, someKey⟩ := by
    cases e
    cases key
    cases id
    cases size
    cases name
    cases flags
    rfl
  exact ⟨(documentsByName.1 nestedWritten).1 (by decide), same ▸ read,
    (documentsByName.2 empty).2.1 (by decide) "name" rfl⟩

end RootCatalog
