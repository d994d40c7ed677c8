import RootCatalog.Proofs.Json.Values
/-! Objects whose members come in any order. A vocabulary says which members there are and how their
values are spelled; its documents are the texts with such members, and with blanks wherever two tokens
meet. A record form that reads the vocabulary takes the members up from the left, until one has a
key that an earlier one had. -/
namespace RootCatalog.Json

open Text (utf8)

structure Vocabulary (M : Type) where
  key : M → String
  spelled : M → Bytes → Bytes → Prop

def Distinct (names keys : List String) : Prop := (keys.filter (· ∈ names)).Nodup

instance (names keys : List String) : Decidable (Distinct names keys) :=
  inferInstanceAs (Decidable (List.Nodup _))

def Repeats (names keys : List String) (key : String) : Prop :=
  ∃ front back, keys = front ++ key :: back ∧ Distinct names front ∧ key ∈ names ∧ key ∈ front

theorem Repeats.indistinct {names keys : List String} {key : String}
    (repeated : Repeats names keys key) : ¬ Distinct names keys := by
  obtain ⟨front, back, rfl, -, known, earlier⟩ := repeated
  intro distinct
  rw [Distinct, List.filter_append, List.filter_cons_of_pos (by simpa using known)] at distinct
  have apart := (List.nodup_append.mp distinct).2.2
  exact apart key (List.mem_filter.mpr ⟨earlier, by simpa using known⟩) key
    List.mem_cons_self rfl

theorem Distinct.tail {names keys : List String} {key : String}
    (distinct : Distinct names (key :: keys)) : (key ∈ names → key ∉ keys) ∧ Distinct names keys := by
  by_cases known : key ∈ names
  · rw [Distinct, List.filter_cons_of_pos (by simpa using known), List.nodup_cons] at distinct
    refine ⟨fun _ earlier => distinct.1 ?_, distinct.2⟩
    exact List.mem_filter.mpr ⟨earlier, by simpa using known⟩
  · rw [Distinct, List.filter_cons_of_neg (by simpa using known)] at distinct
    exact ⟨fun named => absurd named known, distinct⟩

theorem distinctOnward {names before : List String} {key : String} (distinct : Distinct names before)
    (fresh : ¬ (key ∈ names ∧ key ∈ before)) : Distinct names (before ++ [key]) := by
  rw [Distinct, List.filter_append]
  by_cases known : key ∈ names
  · rw [List.filter_cons_of_pos (by simpa using known), List.filter_nil]
    refine List.nodup_append.mpr ⟨distinct, List.pairwise_singleton _ key, ?_⟩
    rintro other earlier _ last rfl
    rw [List.mem_singleton] at last
    exact fresh ⟨known, last ▸ (List.mem_filter.mp earlier).1⟩
  · rw [List.filter_cons_of_neg (by simpa using known), List.filter_nil, List.append_nil]
    exact distinct

namespace Vocabulary

variable {M : Type} (v : Vocabulary M)

inductive Member (m : M) : Bytes → Bytes → Prop
  | member {text name marked spaced value trail rest : Bytes}
      (before : Blanks text (0x22 :: name)) (named : Chars name (v.key m).toList marked)
      (behind : Blanks marked (0x3A :: spaced)) (gap : Blanks spaced value)
      (spelled : v.spelled m value trail) (after : Blanks trail rest) : Member m text rest

inductive Members : List M → Bytes → Bytes → Prop
  | last {m : M} {text rest : Bytes} (member : v.Member m text rest) : Members [m] text rest
  | more {m : M} {later : List M} {text text' rest : Bytes}
      (member : v.Member m text (0x2C :: text')) (others : Members later text' rest) :
      Members (m :: later) text rest

inductive Document : List M → Bytes → Prop
  | empty {document inside text : Bytes} (before : Blanks document (0x7B :: inside))
      (gap : Blanks inside (0x7D :: text)) (behind : Blanks text []) : Document [] document
  | members {ms : List M} {document inside text : Bytes}
      (before : Blanks document (0x7B :: inside)) (inner : v.Members ms inside (0x7D :: text))
      (behind : Blanks text []) : Document ms document

theorem Document.written {v : Vocabulary M} {ms : List M} {document : Bytes}
    (whole : v.Document ms document) : document.isEmpty = false := by
  have some {inside : Bytes} (before : Blanks document (0x7B :: inside)) :
      document.isEmpty = false := by cases before <;> rfl
  cases whole with
  | empty before gap behind => exact some before
  | members before inner behind => exact some before

end Vocabulary

namespace RecordForm

variable {δ α M : Type}

def names (form : RecordForm δ α) : List String := form.fields.map (·.name)

/-- How the form reads a member, where `put` is what that does to a draft: into the field with its
key, or not at all if no field has this key. -/
inductive Meets (form : RecordForm δ α) (v : Vocabulary M) (put : δ → M → δ) (m : M) : Prop
  | known {field : Field δ} (found : form.fields.find? (·.name = v.key m) = some field)
      (read : ∀ {text rest}, v.spelled m text rest → Follows rest →
        ∃ t, tokens text = t :: tokens rest ∧ ∀ draft, field.read t draft = .ok (put draft m))
  | foreign (unnamed : v.key m ∉ form.names)
      (written : ∀ {text rest}, v.spelled m text rest → Written .value text rest)
      (unchanged : ∀ draft, put draft m = draft)

structure Reads (form : RecordForm δ α) (v : Vocabulary M) (put : δ → M → δ) : Prop where
  blank : ∀ field ∈ form.fields, field.present form.blank = false
  present : ∀ draft m, ∀ field ∈ form.fields,
    field.present (put draft m) = (decide (field.name = v.key m) || field.present draft)
  meets : ∀ m, form.Meets v put m

def Taken (form : RecordForm δ α) (before : List String) (draft : δ) : Prop :=
  ∀ field ∈ form.fields, field.present draft = decide (field.name ∈ before)

def repeated (key : String) : Fault := .data s!"duplicate field `{key}`"

variable {form : RecordForm δ α} {v : Vocabulary M} {put : δ → M → δ} {m : M} {ms : List M}
  {draft : δ} {before : List String} {text rest document : Bytes}

theorem stepKey (draft : δ) (first : Bool) (key : String) :
    form.step (.key draft first) (.string (.ok key) (.ok ())) = form.takeKey draft key := by
  cases first <;> rfl

theorem takeKnown (taken : form.Taken before draft) {key : String} {field : Field δ}
    (found : form.fields.find? (·.name = key) = some field) : form.takeKey draft key =
      if key ∈ before then .error (repeated key) else .ok (.colon draft (some field)) := by
  have named : field.name = key := by simpa using List.find?_some found
  have present := taken field (List.mem_of_find?_eq_some found)
  rw [named] at present
  simp only [takeKey, found, present, decide_eq_true_eq, repeated]

theorem knownNamed {key : String} {field : Field δ}
    (found : form.fields.find? (·.name = key) = some field) : key ∈ form.names :=
  List.mem_map.mpr ⟨field, List.mem_of_find?_eq_some found, by simpa using List.find?_some found⟩

theorem Meets.scalar {s : Scalar} {field : Field δ}
    (found : form.fields.find? (·.name = v.key m) = some field)
    (spelled : ∀ {text rest}, v.spelled m text rest → s.Spelled text rest) (fits : s.Fits)
    (read : ∀ draft, field.read s.token draft = .ok (put draft m)) : form.Meets v put m :=
  .known found fun value follows => ⟨s.token, (spelled value).lexed follows fits, read⟩

theorem Reads.onward (reads : form.Reads v put) (taken : form.Taken before draft) (m : M) :
    form.Taken (before ++ [v.key m]) (put draft m) := by
  intro field member
  rw [reads.present draft m field member, taken field member]
  simp [Bool.or_comm]

theorem Reads.begun (reads : form.Reads v put) : form.Taken [] form.blank := by
  intro field member
  rw [reads.blank field member]
  rfl

theorem Reads.taken (reads : form.Reads v put) (taken : form.Taken before draft) (ms : List M) :
    form.Taken (before ++ ms.map v.key) (ms.foldl put draft) := by
  induction ms generalizing before draft with
  | nil => rwa [List.map_nil, List.append_nil]
  | cons m later ih =>
    have onward := ih (reads.onward taken m)
    rw [List.append_assoc] at onward
    exact onward

theorem goesMarked {place : Place δ α} (next : Place δ α) {b : UInt8} {t : Token}
    (mark : punctuation? b = some t) (solid : isBlank b = false)
    (stepped : form.step place t = .ok next) :
    form.goes place (b :: text) = form.goes next text :=
  goesToken (tokensMark mark solid text) stepped

theorem goesMember (reads : form.Reads v put) (member : v.Member m text rest)
    (follows : Follows rest) (taken : form.Taken before draft)
    (fresh : ¬ (v.key m ∈ form.names ∧ v.key m ∈ before)) (first : Bool) :
    form.goes (.key draft first) text = form.goes (.afterMember (put draft m)) rest := by
  cases member with
  | member blanks named behind gap spelled after =>
    rw [goesBlanks blanks]
    cases reads.meets m with
    | @known field found read =>
      have taking : form.takeKey draft (v.key m) = .ok (.colon draft (some field)) :=
        (takeKnown taken found).trans (if_neg fun earlier => fresh ⟨knownNamed found, earlier⟩)
      obtain ⟨t, here, read⟩ := read spelled (after.follows follows)
      have filled : form.step (.value draft field) t = .ok (.afterMember (put draft m)) := by
        rw [step, read]
        rfl
      rw [goesToken (tokensChars named) ((stepKey draft first _).trans taking), goesBlanks behind,
        goesMarked (.value draft field) rfl rfl rfl, goesBlanks gap, goesToken here filled,
        goesBlanks after]
    | foreign unnamed written unchanged =>
      have taking : form.takeKey draft (v.key m) = .ok (.colon draft none) := by
        have absent : form.fields.find? (·.name = v.key m) = none :=
          List.find?_eq_none.mpr fun field member same =>
            unnamed (List.mem_map.mpr ⟨field, member, by simpa using same⟩)
        rw [takeKey, absent]
      rw [goesToken (tokensChars named) ((stepKey draft first _).trans taking), goesBlanks behind,
        goesMarked (.passing draft Skim.start) rfl rfl rfl, goesBlanks gap,
        goesWritten (written spelled) (.inl rfl) (after.follows follows), unchanged]
      exact goesBlanks after

theorem goesRepeated (reads : form.Reads v put) (member : v.Member m text rest)
    (taken : form.Taken before draft) (again : v.key m ∈ form.names ∧ v.key m ∈ before)
    (first : Bool) : form.goes (.key draft first) text = .error (repeated (v.key m)) := by
  cases member with
  | member blanks named =>
    cases reads.meets m with
    | known found =>
      have refused := (takeKnown taken found).trans (if_pos again.2)
      rw [goesBlanks blanks]
      exact goesFault (tokensChars named) ((stepKey draft first _).trans refused)
    | foreign unnamed => exact absurd again.1 unnamed

theorem goesMembers (reads : form.Reads v put) (members : v.Members ms text rest)
    (follows : Follows rest) (taken : form.Taken before draft)
    (distinct : Distinct form.names before) (first : Bool) :
    (Distinct form.names (before ++ ms.map v.key) ∧ form.goes (.key draft first) text =
      form.goes (.afterMember (ms.foldl put draft)) rest) ∨
    ∃ key, Repeats form.names (before ++ ms.map v.key) key ∧
      form.goes (.key draft first) text = .error (repeated key) := by
  induction members generalizing before draft first with
  | @last m text rest member =>
    by_cases again : v.key m ∈ form.names ∧ v.key m ∈ before
    · exact .inr ⟨v.key m, ⟨before, [], rfl, distinct, again⟩,
        goesRepeated reads member taken again first⟩
    · exact .inl ⟨distinctOnward distinct again, goesMember reads member follows taken again first⟩
  | @more m later text text' rest member others ih =>
    by_cases again : v.key m ∈ form.names ∧ v.key m ∈ before
    · exact .inr ⟨v.key m, ⟨before, later.map v.key, rfl, distinct, again⟩,
        goesRepeated reads member taken again first⟩
    · have onward := ih follows (reads.onward taken m) (distinctOnward distinct again) false
      rw [List.append_assoc] at onward
      rw [goesMember reads member (markFollows (.inl rfl) _) taken again first,
        goesMarked (.key (put draft m) false) rfl rfl rfl]
      exact onward

theorem goesClosing {place : Place δ α} (behind : Blanks text [])
    (closes : form.step place .closeBrace = form.closeObject draft) :
    form.goes place (0x7D :: text) = form.complete draft := by
  have brace := tokensMark (b := 0x7D) rfl rfl text
  cases completed : form.complete draft with
  | error fault =>
    refine goesFault brace ?_
    rw [closes, closeObject, completed]
    rfl
  | ok result =>
    have closed : form.step place .closeBrace = .ok (.closed result) := by
      rw [closes, closeObject, completed]
      rfl
    rw [goesToken brace closed, goesBlanks behind, goes, tokens]
    rfl

theorem Reads.readDocument (reads : form.Reads v put) (whole : v.Document ms document) :
    (Distinct form.names (ms.map v.key) ∧ form.read document =
      form.complete (ms.foldl put form.blank)) ∨
    ∃ key, Repeats form.names (ms.map v.key) key ∧ form.read document = .error (repeated key) := by
  change (_ ∧ form.goes .opening document = _) ∨ ∃ key, _ ∧ form.goes .opening document = _
  cases whole with
  | empty before gap behind =>
    rw [goesBlanks before, goesMarked (.key form.blank true) rfl rfl rfl, goesBlanks gap,
      goesClosing behind rfl]
    exact .inl ⟨List.Pairwise.nil, rfl⟩
  | members before inner behind =>
    rw [goesBlanks before, goesMarked (.key form.blank true) rfl rfl rfl]
    rcases goesMembers reads inner (markFollows (.inr (.inr rfl)) _) reads.begun
      List.Pairwise.nil true with ⟨distinct, filled⟩ | refused
    · rw [filled, goesClosing behind rfl]
      exact .inl ⟨distinct, rfl⟩
    · exact .inr refused

theorem Reads.readDistinct (reads : form.Reads v put) (whole : v.Document ms document)
    (distinct : Distinct form.names (ms.map v.key)) : form.read document =
      form.complete (ms.foldl put form.blank) := by
  rcases reads.readDocument whole with ⟨-, filled⟩ | ⟨key, repeats, -⟩
  · exact filled
  · exact absurd distinct repeats.indistinct

theorem Reads.readRepeated (reads : form.Reads v put) (whole : v.Document ms document)
    (indistinct : ¬ Distinct form.names (ms.map v.key)) :
    ∃ key, Repeats form.names (ms.map v.key) key ∧ form.read document = .error (repeated key) := by
  rcases reads.readDocument whole with ⟨distinct, -⟩ | refused
  · exact absurd distinct indistinct
  · exact refused

end RecordForm

namespace Vocabulary

variable {M : Type} {v : Vocabulary M}

def printed (v : Vocabulary M) (member : M × String) : String × String := (v.key member.1, member.2)

theorem printedMember {m : M} {text : String} {rest : Bytes}
    (spelled : v.spelled m (utf8 text ++ rest) rest) :
    v.Member m (utf8 (stringText (v.key m) ++ ":" ++ text) ++ rest) rest := by
  rw [Text.utf8Append, Text.utf8Append, List.append_assoc, List.append_assoc, utf8StringText]
  exact .member (.none _) (charsPrinted _ _) (.none _) (.none _) spelled (.none _)

theorem printedMembers {members : List (M × String)} (some : members ≠ [])
    (spelled : ∀ p ∈ members, ∀ rest, v.spelled p.1 (utf8 p.2 ++ rest) rest) (rest : Bytes) :
    v.Members (members.map (·.1)) (utf8 (",".intercalate (members.map fun p =>
      stringText (v.key p.1) ++ ":" ++ p.2)) ++ rest) rest := by
  induction members with
  | nil => exact absurd rfl some
  | cons p later ih =>
    obtain ⟨first, others⟩ := List.forall_mem_cons.mp spelled
    cases later with
    | nil =>
      rw [List.map_singleton, List.map_singleton, String.intercalate_singleton]
      exact .last (printedMember (first rest))
    | cons next later =>
      have behind := ih (by simp) others
      simp only [List.map_cons] at behind ⊢
      rw [String.intercalate_cons_cons, Text.utf8Append, Text.utf8Append, List.append_assoc,
        List.append_assoc]
      exact .more (printedMember (first _)) behind

theorem printedDocument {members : List (M × String)} (some : members ≠ [])
    (spelled : ∀ p ∈ members, ∀ rest, v.spelled p.1 (utf8 p.2 ++ rest) rest) :
    v.Document (members.map (·.1)) (utf8 (objectText (members.map v.printed))) := by
  rw [objectText, Text.utf8Append, Text.utf8Append, List.map_map, List.append_assoc]
  exact .members (.none _) (printedMembers some spelled _) (.none _)

end Vocabulary
end RootCatalog.Json
