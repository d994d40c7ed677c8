import RootCatalog.Proofs.Text.Hex
/-! The text of a content key. A key reads back from its text, and texts are in the order of their
keys. Which texts are read is told from their octets alone: thirty-two digits of either case, and
else the first octet that is none is named, even inside a character. -/
namespace RootCatalog

namespace Text

theorem asciiSpelled {c : Char} (ascii : ∀ b ∈ String.utf8EncodeChar c, b.toNat < 128) :
    String.utf8EncodeChar c = [UInt8.ofNat c.toNat] ∧ c.toNat < 128 := by
  have high {n : Nat} {rest : Bytes} (range : 128 ≤ n ∧ n < 256)
      (below : ∀ b ∈ UInt8.ofNat n :: rest, b.toNat < 128) : False := by
    have first := below _ List.mem_cons_self
    rw [UInt8.toNat_ofNat_of_lt' range.2] at first
    omega
  change String.utf8EncodeChar c = [UInt8.ofNat c.val.toNat] ∧ c.val.toNat < 128
  unfold String.utf8EncodeChar at ascii ⊢
  generalize c.val.toNat = v at ascii ⊢
  simp only at ascii ⊢
  split at ascii
  · rename_i small
    exact ⟨if_pos small, by omega⟩
  split at ascii
  · exact (high (by omega) ascii).elim
  split at ascii
  · exact (high (by omega) ascii).elim
  · exact (high (by omega) ascii).elim

theorem asciiOctets {chars : List Char}
    (ascii : ∀ b ∈ chars.flatMap String.utf8EncodeChar, b.toNat < 128) :
    (chars.flatMap String.utf8EncodeChar).map (fun b => Char.ofNat b.toNat) = chars := by
  induction chars with
  | nil => rfl
  | cons c rest ih =>
    rw [List.flatMap_cons] at ascii ⊢
    obtain ⟨first, later⟩ := List.forall_mem_append.mp ascii
    obtain ⟨spelled, small⟩ := asciiSpelled first
    have octet : (UInt8.ofNat c.toNat).toNat = c.toNat :=
      UInt8.toNat_ofNat_of_lt' (Nat.lt_trans small (by decide))
    rw [List.map_append, ih later, spelled, List.map_singleton, octet, Char.ofNat_toNat]
    rfl

end Text

namespace ContentKey

open Text (utf8 HexDigit)

theorem pairsWritten {pos : Nat} {text bytes : Bytes} (read : readPairs pos text = .ok bytes)
    (even : text.length % 2 = 0) :
    (∀ b ∈ text, ∃ n, HexDigit b n) ∧
      bytes.flatMap Text.hexPair = text.map fun b => (Char.ofNat b.toNat).toLower := by
  fun_induction readPairs pos text generalizing bytes with
  | case1 => cases read
  | case2 => cases read
  | case3 pos a b rest high first low second ih =>
    have first := Text.hexValueIff.mp first
    have second := Text.hexValueIff.mp second
    cases onward : readPairs (pos + 2) rest with
    | error e => simp [onward, bind, Except.bind] at read
    | ok tail =>
      simp only [onward, bind, Except.bind, pure, Except.pure, Except.ok.injEq] at read
      subst read
      obtain ⟨digits, written⟩ := ih onward (by simp only [List.length_cons] at even; omega)
      have firstSmall := first.below
      have secondSmall := second.below
      have small : high * 16 + low < 256 := by omega
      have byte : (UInt8.ofNat (high * 16 + low)).toNat = high * 16 + low :=
        UInt8.toNat_ofNat_of_lt' small
      have halves : (high * 16 + low) / 16 = high ∧ (high * 16 + low) % 16 = low := by
        omega
      refine ⟨?_, ?_⟩
      · simpa only [List.forall_mem_cons] using ⟨⟨high, first⟩, ⟨low, second⟩, digits⟩
      · rw [List.flatMap_cons, written, Text.hexPair, byte, halves.1, halves.2, List.map_cons,
          List.map_cons, first.written, second.written]
        rfl
  | case4 text _ short =>
    rcases text with _ | ⟨a, _ | ⟨b, rest⟩⟩
    · cases read
      exact ⟨by simp, rfl⟩
    · simp at even
    · exact absurd rfl (short a b rest)

theorem pairsFault {pos : Nat} {text : Bytes} {e : ParseError}
    (failed : readPairs pos text = .error e) :
    ∃ before b after, text = before ++ b :: after ∧ (∀ d ∈ before, ∃ n, HexDigit d n) ∧
      (¬ ∃ n, HexDigit b n) ∧ e = .invalidHex b (pos + before.length) := by
  have none {b : UInt8} (unread : Text.hexValue? b = none) : ¬ ∃ n, HexDigit b n := by
    rintro ⟨n, digit⟩
    rw [Text.hexValueIff.mpr digit] at unread
    cases unread
  fun_induction readPairs pos text generalizing e with
  | case1 pos a b rest first =>
    cases failed
    exact ⟨[], a, b :: rest, rfl, by simp, none first, rfl⟩
  | case2 pos a b rest high first second =>
    cases failed
    exact ⟨[a], b, rest, rfl, by simpa using ⟨high, Text.hexValueIff.mp first⟩, none second, rfl⟩
  | case3 pos a b rest high first low second ih =>
    cases onward : readPairs (pos + 2) rest with
    | error fault =>
      simp only [onward, bind, Except.bind, Except.error.injEq] at failed
      subst failed
      obtain ⟨before, d, after, rfl, digits, bad, rfl⟩ := ih onward
      refine ⟨a :: b :: before, d, after, rfl, ?_, bad, ?_⟩
      · simpa only [List.forall_mem_cons] using
          ⟨⟨high, Text.hexValueIff.mp first⟩, ⟨low, Text.hexValueIff.mp second⟩, digits⟩
      · rw [List.length_cons, List.length_cons, Nat.add_assoc, Nat.add_comm 2]
    | ok tail => simp [onward, bind, Except.bind, pure, Except.pure] at failed
  | case4 text _ short => cases failed

theorem parseLength {s : String} (apart : (utf8 s).length ≠ 32) :
    parse s = .error (.invalidLength (utf8 s).length) := by
  rw [parse]
  exact dif_neg apart

theorem parseOk {s : String} {key : ContentKey} (parsed : parse s = .ok key) :
    (utf8 s).length = 32 ∧ readPairs 0 (utf8 s) = .ok key.bytes := by
  unfold parse at parsed
  simp only at parsed
  split at parsed
  · rename_i long
    split at parsed
    · rename_i bytes read
      cases parsed
      exact ⟨long, read⟩
    · cases parsed
  · cases parsed

theorem parseError {s : String} {e : ParseError} (long : (utf8 s).length = 32)
    (failed : parse s = .error e) : readPairs 0 (utf8 s) = .error e := by
  unfold parse at failed
  simp only [dif_pos long] at failed
  split at failed
  · cases failed
  · rename_i fault read
    cases failed
    exact read

theorem textLowered {s : String} {key : ContentKey} (parsed : parse s = .ok key) :
    key.text = s.map Char.toLower := by
  obtain ⟨long, read⟩ := parseOk parsed
  obtain ⟨digits, written⟩ := pairsWritten read (by omega)
  have ascii : ∀ b ∈ utf8 s, b.toNat < 128 := fun b member =>
    (digits b member).elim fun _ digit => digit.below.2
  have lowered := congrArg (List.map Char.toLower) (Text.asciiOctets ascii)
  rw [List.map_map] at lowered
  rw [text, Text.hexText, written, ← String.ofList_toList (s := s.map Char.toLower),
    String.toList_map, ← lowered]
  rfl

theorem textCodec :
    (∀ key, parse key.text = .ok key) ∧
    (∀ a b : ContentKey, compare a b = .lt ↔ Text.byteOrder a.text b.text = .lt) ∧
    (∀ s, (∃ key, parse s = .ok key) ↔
      (utf8 s).length = 32 ∧ ∀ b ∈ utf8 s, ∃ n, HexDigit b n) ∧
    (∀ s key, parse s = .ok key → key.text = s.map Char.toLower) ∧
    (∀ s, (utf8 s).length ≠ 32 → parse s = .error (.invalidLength (utf8 s).length)) ∧
    (∀ s, (utf8 s).length = 32 → (¬ ∀ b ∈ utf8 s, ∃ n, HexDigit b n) →
      ∃ before b after, utf8 s = before ++ b :: after ∧ (∀ d ∈ before, ∃ n, HexDigit d n) ∧
        (¬ ∃ n, HexDigit b n) ∧ parse s = .error (.invalidHex b before.length) ∧
        (ParseError.invalidHex b before.length).message =
          "content key is not valid hex: Invalid character " ++
            Text.quotedChar (Char.ofNat b.toNat) ++ s!" at position {before.length}") := by
  refine ⟨parseText, fun a b => ?_, fun s => ⟨?_, ?_⟩, fun s key => textLowered,
    fun s => parseLength, fun s long bad => ?_⟩
  · rw [text, text, Text.hexTextOrder]
    rfl
  · rintro ⟨key, parsed⟩
    obtain ⟨long, read⟩ := parseOk parsed
    exact ⟨long, (pairsWritten read (by omega)).1⟩
  · rintro ⟨long, digits⟩
    cases parsed : parse s with
    | ok key => exact ⟨key, rfl⟩
    | error e =>
      obtain ⟨before, b, after, same, -, bad, -⟩ := pairsFault (parseError long parsed)
      exact absurd (digits b (by simp [same])) bad
  · cases parsed : parse s with
    | ok key => exact absurd (pairsWritten (parseOk parsed).2 (by omega)).1 bad
    | error e =>
      obtain ⟨before, b, after, same, digits, none, rfl⟩ := pairsFault (parseError long parsed)
      refine ⟨before, b, after, same, digits, none, ?_, rfl⟩
      rw [Nat.zero_add]

end ContentKey
end RootCatalog
