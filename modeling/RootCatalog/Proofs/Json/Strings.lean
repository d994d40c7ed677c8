import RootCatalog.Json.Lexer
import RootCatalog.Json.Printer
import RootCatalog.Proofs.Text.Hex
import RootCatalog.Proofs.Text.Utf8
/-! Strings of a document. `Chars` is their grammar, with the characters that a string stands for, and
`Skimmed` the wider one of strings that are only passed over: there a surrogate may stand alone and
octets need not be UTF-8. A string of either grammar is one token, whatever is behind it, and a
printed string is of the first. -/
namespace RootCatalog.Json

open Text (utf8 hexOctet HexDigit)

def Plain (b : UInt8) : Prop := b ≠ 0x22 ∧ ¬ b < 0x20 ∧ b ≠ 0x5C

theorem plainOctets {c : Char} (high : 0x20 ≤ c.toNat) (unquoted : c ≠ '"') (unslashed : c ≠ '\\') :
    ∀ b ∈ String.utf8EncodeChar c, Plain b := by
  have ascii {n : Nat} (small : n < 256) (low : 32 ≤ n) (quote : n ≠ 34) (slash : n ≠ 92) :
      Plain (UInt8.ofNat n) := by
    have value : (UInt8.ofNat n).toNat = n := UInt8.toNat_ofNat_of_lt' small
    refine ⟨?_, ?_, ?_⟩ <;> simp only [ne_eq, ← UInt8.toNat_inj, UInt8.lt_iff_toNat_lt, value] <;>
      simpa
  have quote : c.val.toNat ≠ 34 := fun same => unquoted (Char.ext (UInt32.toNat_inj.mp same))
  have slash : c.val.toNat ≠ 92 := fun same => unslashed (Char.ext (UInt32.toNat_inj.mp same))
  have high : 32 ≤ c.val.toNat := high
  unfold String.utf8EncodeChar
  generalize c.val.toNat = v at quote slash high
  simp only
  split
  · simp only [List.mem_singleton]
    rintro b rfl
    exact ascii (by omega) high quote slash
  split
  · simp only [List.mem_cons, List.not_mem_nil, or_false]
    rintro b (rfl | rfl) <;> exact ascii (by omega) (by omega) (by omega) (by omega)
  split
  · simp only [List.mem_cons, List.not_mem_nil, or_false]
    rintro b (rfl | rfl | rfl) <;> exact ascii (by omega) (by omega) (by omega) (by omega)
  · simp only [List.mem_cons, List.not_mem_nil, or_false]
    rintro b (rfl | rfl | rfl | rfl) <;> exact ascii (by omega) (by omega) (by omega) (by omega)

theorem readPlain {octets : Bytes} (plain : ∀ b ∈ octets, Plain b) (read rest : Bytes) :
    readString read (octets ++ rest) = readString (octets.reverse ++ read) rest := by
  induction octets generalizing read with
  | nil => rfl
  | cons b octets ih =>
    obtain ⟨⟨unquoted, high, unslashed⟩, plain⟩ := List.forall_mem_cons.mp plain
    rw [List.cons_append, readString.eq_def]
    simp only [if_neg unquoted, if_neg high, if_pos unslashed]
    rw [ih plain, List.reverse_cons, List.append_assoc]
    rfl

theorem skimPlain {octets : Bytes} (plain : ∀ b ∈ octets, Plain b) (count : Nat) (rest : Bytes) :
    skimString count (octets ++ rest) = skimString (count + octets.length) rest := by
  induction octets generalizing count with
  | nil => rfl
  | cons b octets ih =>
    obtain ⟨⟨unquoted, high, unslashed⟩, plain⟩ := List.forall_mem_cons.mp plain
    rw [List.cons_append, skimString.eq_def]
    simp only [if_neg unquoted, if_neg high, if_pos unslashed]
    rw [ih plain, List.length_cons, Nat.add_right_comm, Nat.add_assoc]

inductive ShortEscape : UInt8 → Char → Prop
  | quote : ShortEscape 0x22 '"'
  | backslash : ShortEscape 0x5C '\\'
  | slash : ShortEscape 0x2F '/'
  | backspace : ShortEscape 0x62 '\x08'
  | formFeed : ShortEscape 0x66 '\x0C'
  | newLine : ShortEscape 0x6E '\n'
  | carriageReturn : ShortEscape 0x72 '\r'
  | tab : ShortEscape 0x74 '\t'

inductive HexWord : Bytes → Nat → Bytes → Prop
  | digits {a b c d : UInt8} {i j k l : Nat} (rest : Bytes) (first : HexDigit a i)
      (second : HexDigit b j) (third : HexDigit c k) (fourth : HexDigit d l) :
      HexWord (a :: b :: c :: d :: rest) (((i * 16 + j) * 16 + k) * 16 + l) rest

inductive Chars : Bytes → List Char → Bytes → Prop
  | close (rest : Bytes) : Chars (0x22 :: rest) [] rest
  | plain {c : Char} {text rest : Bytes} {chars : List Char} (high : 0x20 ≤ c.toNat)
      (unquoted : c ≠ '"') (unslashed : c ≠ '\\') (more : Chars text chars rest) :
      Chars (String.utf8EncodeChar c ++ text) (c :: chars) rest
  | short {letter : UInt8} {c : Char} {text rest : Bytes} {chars : List Char}
      (escape : ShortEscape letter c) (more : Chars text chars rest) :
      Chars (0x5C :: letter :: text) (c :: chars) rest
  | unit {n : Nat} {digits text rest : Bytes} {chars : List Char} (word : HexWord digits n text)
      (whole : n < 0xD800 ∨ 0xE000 ≤ n) (more : Chars text chars rest) :
      Chars (0x5C :: 0x75 :: digits) (Char.ofNat n :: chars) rest
  | pair {n m : Nat} {digits digits' text rest : Bytes} {chars : List Char}
      (first : HexWord digits n (0x5C :: 0x75 :: digits')) (leading : 0xD800 ≤ n ∧ n < 0xDC00)
      (second : HexWord digits' m text) (trailing : 0xDC00 ≤ m ∧ m < 0xE000)
      (more : Chars text chars rest) :
      Chars (0x5C :: 0x75 :: digits)
        (Char.ofNat (0x10000 + (n - 0xD800) * 1024 + (m - 0xDC00)) :: chars) rest

inductive Skimmed : Bytes → Bytes → Prop
  | close (rest : Bytes) : Skimmed (0x22 :: rest) rest
  | plain {b : UInt8} {text rest : Bytes} (plain : Plain b) (more : Skimmed text rest) :
      Skimmed (b :: text) rest
  | short {letter : UInt8} {c : Char} {text rest : Bytes} (escape : ShortEscape letter c)
      (more : Skimmed text rest) : Skimmed (0x5C :: letter :: text) rest
  | unit {n : Nat} {digits text rest : Bytes} (word : HexWord digits n text)
      (more : Skimmed text rest) : Skimmed (0x5C :: 0x75 :: digits) rest

theorem ShortEscape.octet {letter : UInt8} {c : Char} (escape : ShortEscape letter c) :
    ∃ octet, letter ≠ 0x75 ∧ shortEscape? letter = some octet ∧
      String.utf8EncodeChar c = [octet] := by
  cases escape <;> exact ⟨_, by decide, rfl, rfl⟩

theorem HexWord.read {digits text : Bytes} {n : Nat} (word : HexWord digits n text) :
    ∃ a b c d, digits = a :: b :: c :: d :: text ∧ unit? a b c d = some n := by
  cases word with
  | @digits a b c d i j k l _ first second third fourth =>
    refine ⟨a, b, c, d, rfl, ?_⟩
    simp only [unit?, Text.hexValueIff.mpr first, Text.hexValueIff.mpr second,
      Text.hexValueIff.mpr third, Text.hexValueIff.mpr fourth]
    rfl

theorem skimmedPlain {octets : Bytes} (plain : ∀ b ∈ octets, Plain b) {text rest : Bytes}
    (more : Skimmed text rest) : Skimmed (octets ++ text) rest := by
  induction octets with
  | nil => exact more
  | cons b octets ih =>
    obtain ⟨first, later⟩ := List.forall_mem_cons.mp plain
    exact .plain first (ih later)

theorem Chars.skimmed {text rest : Bytes} {chars : List Char} (inside : Chars text chars rest) :
    Skimmed text rest := by
  induction inside with
  | close rest => exact .close rest
  | plain high unquoted unslashed more ih =>
    exact skimmedPlain (plainOctets high unquoted unslashed) ih
  | short escape more ih => exact .short escape ih
  | unit word whole more ih => exact .unit word ih
  | pair first leading second trailing more ih =>
    -- Skimming takes the two halves for two escapes.
    obtain ⟨a, b, c, d, rfl, -⟩ := first.read
    cases first with
    | digits _ i j k l => exact .unit (.digits _ i j k l) (.unit second ih)

theorem readChars {text rest : Bytes} {chars : List Char} (inside : Chars text chars rest)
    (read : Bytes) : readString read text =
      closeString ((chars.flatMap String.utf8EncodeChar).reverse ++ read) := by
  induction inside generalizing read with
  | close rest =>
    rw [readString.eq_def]
    rfl
  | plain high unquoted unslashed more ih =>
    rw [readPlain (plainOctets high unquoted unslashed), ih, List.flatMap_cons,
      List.reverse_append, List.append_assoc]
  | short escape more ih =>
    obtain ⟨octet, apart, short, spelled⟩ := escape.octet
    rw [List.flatMap_cons, spelled, List.singleton_append, List.reverse_cons, List.append_assoc,
      List.singleton_append, ← ih, readString.eq_def]
    simp [apart, short]
  | @unit n digits text rest chars word whole more ih =>
    obtain ⟨a, b, c, d, rfl, unit⟩ := word.read
    have leading : isLeading n = false := by simp [isLeading]; omega
    have trailing : isTrailing n = false := by simp [isTrailing]; omega
    rw [List.flatMap_cons, List.reverse_append, List.append_assoc, ← ih, readString.eq_def]
    simp [unit, leading, trailing, pushCode]
  | @pair n m digits digits' text rest chars first leading second trailing more ih =>
    obtain ⟨a, b, c, d, rfl, unit⟩ := first.read
    obtain ⟨a', b', c', d', rfl, unit'⟩ := second.read
    have lead : isLeading n = true := by simp [isLeading]; omega
    have apart : isTrailing n = false := by simp [isTrailing]; omega
    have trail : isTrailing m = true := by simp [isTrailing]; omega
    rw [List.flatMap_cons, List.reverse_append, List.append_assoc, ← ih, readString.eq_def]
    simp [unit, unit', lead, apart, trail, pushCode]

theorem skimEnds {text rest : Bytes} (inside : Skimmed text rest) (count : Nat) :
    ∃ n, skimString count text = .ok (count + n) ∧ text.drop n = rest := by
  induction inside generalizing count with
  | close rest =>
    refine ⟨1, ?_, rfl⟩
    rw [skimString.eq_def]
    rfl
  | @plain b text rest plain more ih =>
    obtain ⟨n, skimmed, behind⟩ := ih (count + 1)
    refine ⟨n + 1, ?_, behind⟩
    rw [← List.singleton_append, skimPlain (by simpa using plain), List.length_singleton, skimmed,
      Nat.add_assoc, Nat.add_comm 1]
  | short escape more ih =>
    obtain ⟨octet, apart, short, -⟩ := escape.octet
    obtain ⟨n, skimmed, behind⟩ := ih (count + 2)
    refine ⟨n + 2, ?_, behind⟩
    rw [skimString.eq_def]
    simp [apart, short, skimmed, Nat.add_assoc, Nat.add_comm 2]
  | unit word more ih =>
    obtain ⟨a, b, c, d, rfl, unit⟩ := word.read
    obtain ⟨n, skimmed, behind⟩ := ih (count + 6)
    refine ⟨n + 6, ?_, behind⟩
    rw [skimString.eq_def]
    simp [unit, skimmed, Nat.add_assoc, Nat.add_comm 6]

theorem tokensNext {b : UInt8} {rest : Bytes} {t : Token} {n : Nat} (solid : isBlank b = false)
    (lexed : lexeme b rest = (t, some n)) : tokens (b :: rest) = t :: tokens (rest.drop n) := by
  rw [tokens, solid, if_neg Bool.false_ne_true]
  simp only [lexed]

theorem tokensSkimmed {text rest : Bytes} (inside : Skimmed text rest) :
    tokens (0x22 :: text) = .string (readString [] text) (.ok ()) :: tokens rest := by
  obtain ⟨n, skimmed, rfl⟩ := skimEnds inside 0
  rw [Nat.zero_add] at skimmed
  have lexed : lexeme 0x22 text = (.string (readString [] text) (.ok ()), some n) := by
    rw [lexeme, show punctuation? 0x22 = none from rfl]
    simp only [if_true, skimmed]
  exact tokensNext rfl lexed

theorem tokensChars {text rest : Bytes} {s : String} (inside : Chars text s.toList rest) :
    tokens (0x22 :: text) = .string (.ok s) (.ok ()) :: tokens rest := by
  rw [tokensSkimmed inside.skimmed, readChars inside, List.append_nil, closeString,
    List.reverse_reverse, show s.toList.flatMap String.utf8EncodeChar = utf8 s from rfl,
    Text.decodeUtf8]

def escaped (c : Char) : Bytes := (escapeChar c).flatMap String.utf8EncodeChar

section Printed

variable {c : Char} {text rest : Bytes} {chars : List Char} (more : Chars text chars rest)

include more

theorem printedUnit (low : c.toNat < 0x20)
    (printed : escapeChar c = ['\\', 'u', '0', '0'] ++ Text.hexPair (UInt8.ofNat c.toNat)) :
    Chars (escaped c ++ text) (c :: chars) rest := by
  have value : (UInt8.ofNat c.toNat).toNat = c.toNat :=
    UInt8.toNat_ofNat_of_lt' (Nat.lt_trans low (by decide))
  generalize UInt8.ofNat c.toNat = b at printed value
  have octets : escaped c = [0x5C, 0x75, 0x30, 0x30, hexOctet (b.toNat / 16),
      hexOctet (b.toNat % 16)] := by
    rw [escaped, printed, List.flatMap_append, Text.pairSpelled]
    rfl
  have digit {n : Nat} (small : n < 16) : HexDigit (hexOctet n) n :=
    Text.hexValueIff.mp (Text.hexRead n small)
  have word := HexWord.digits text (digit (n := 0) (by decide)) (digit (n := 0) (by decide))
    (digit (Text.halvesSmall b).1) (digit (Text.halvesSmall b).2)
  have number : ((0 * 16 + 0) * 16 + b.toNat / 16) * 16 + b.toNat % 16 = c.toNat := by omega
  rw [number] at word
  rw [octets, ← Char.ofNat_toNat c]
  exact .unit word (.inl (by omega)) more

theorem printedNamed {n : Nat} {letter : UInt8} (named : c.toNat = n)
    (escape : ShortEscape letter (Char.ofNat n)) (printed : escaped (Char.ofNat n) = [0x5C, letter]) :
    Chars (escaped c ++ text) (c :: chars) rest := by
  rw [← Char.ofNat_toNat c, named, printed]
  exact .short escape more

theorem printedChar : Chars (escaped c ++ text) (c :: chars) rest := by
  by_cases quote : c = '"'
  · exact printedNamed more (congrArg Char.toNat quote) .quote rfl
  by_cases slash : c = '\\'
  · exact printedNamed more (congrArg Char.toNat slash) .backslash rfl
  by_cases backspace : c.toNat = 0x08
  · exact printedNamed more backspace .backspace rfl
  by_cases formFeed : c.toNat = 0x0C
  · exact printedNamed more formFeed .formFeed rfl
  by_cases newLine : c.toNat = 0x0A
  · exact printedNamed more newLine .newLine rfl
  by_cases carriageReturn : c.toNat = 0x0D
  · exact printedNamed more carriageReturn .carriageReturn rfl
  by_cases tab : c.toNat = 0x09
  · exact printedNamed more tab .tab rfl
  have onward : escapeChar c =
      if c.toNat < 0x20 then ['\\', 'u', '0', '0'] ++ Text.hexPair (UInt8.ofNat c.toNat)
      else [c] := by
    simp only [escapeChar, if_neg quote, if_neg slash, if_neg backspace, if_neg formFeed,
      if_neg newLine, if_neg carriageReturn, if_neg tab]
  by_cases low : c.toNat < 0x20
  · exact printedUnit more low (onward.trans (if_pos low))
  · rw [escaped, onward, if_neg low, List.flatMap_singleton]
    exact .plain (Nat.not_lt.mp low) quote slash more

end Printed

theorem charsPrinted (chars : List Char) (rest : Bytes) :
    Chars (chars.flatMap escaped ++ 0x22 :: rest) chars rest := by
  induction chars with
  | nil => exact .close rest
  | cons c chars ih =>
    rw [List.flatMap_cons, List.append_assoc]
    exact printedChar ih

theorem utf8StringText (s : String) (rest : Bytes) :
    utf8 (stringText s) ++ rest = 0x22 :: (s.toList.flatMap escaped ++ 0x22 :: rest) := by
  rw [stringText, Text.utf8Append, Text.utf8Append, Text.utf8OfList (s.toList.flatMap escapeChar),
    List.flatMap_assoc, List.append_assoc, List.append_assoc]
  rfl

end RootCatalog.Json
