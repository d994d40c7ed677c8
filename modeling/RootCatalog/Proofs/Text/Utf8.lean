import RootCatalog.Text.Utf8.Lemmas
/-! UTF-8 has one spelling for each text: octets that `decode` accepts are the ones that `utf8`
writes. Nothing is said about where and how a refused text fails. -/
namespace RootCatalog.Text

theorem valOfNat {v : Nat} (valid : v.isValidChar) : (Char.ofNat v).val.toNat = v := by
  unfold Char.ofNat
  rw [dif_pos valid]
  rfl

theorem octetEq {b : UInt8} {n : Nat} (same : b.toNat = n) : UInt8.ofNat n = b := by
  rw [← same, UInt8.ofNat_toNat]

theorem encodeOne {b : UInt8} (lead : b.toNat < 128) :
    String.utf8EncodeChar (Char.ofNat b.toNat) = [b] := by
  have value : (Char.ofNat b.toNat).val.toNat = b.toNat := valOfNat (.inl (by omega))
  simp only [String.utf8EncodeChar, value]
  rw [if_pos (by omega), octetEq rfl]

theorem encodeTwo {b c : UInt8} (lead : 194 ≤ b.toNat ∧ b.toNat < 224)
    (second : 128 ≤ c.toNat ∧ c.toNat < 192) :
    String.utf8EncodeChar (Char.ofNat (b.toNat % 32 * 64 + c.toNat % 64)) = [b, c] := by
  have value := valOfNat (v := b.toNat % 32 * 64 + c.toNat % 64) (.inl (by omega))
  simp only [String.utf8EncodeChar, value]
  rw [if_neg (by omega), if_pos (by omega), octetEq (b := b) (by omega),
    octetEq (b := c) (by omega)]

theorem encodeThree {b c d : UInt8} (lead : 224 ≤ b.toNat ∧ b.toNat < 240)
    (second : secondAllowed b c = true) (third : isContinuation d = true) :
    String.utf8EncodeChar (Char.ofNat ((b.toNat % 16 * 64 + c.toNat % 64) * 64 + d.toNat % 64)) =
      [b, c, d] := by
  rw [secondAllowedBounds] at second
  rw [isContinuationBounds] at third
  have value := valOfNat (v := (b.toNat % 16 * 64 + c.toNat % 64) * 64 + d.toNat % 64)
    (by unfold Nat.isValidChar; omega)
  simp only [String.utf8EncodeChar, value]
  rw [if_neg (by omega), if_neg (by omega), if_pos (by omega), octetEq (b := b) (by omega),
    octetEq (b := c) (by omega), octetEq (b := d) (by omega)]

theorem encodeFour {b c d e : UInt8} (lead : 240 ≤ b.toNat ∧ b.toNat ≤ 244)
    (second : secondAllowed b c = true) (third : isContinuation d = true)
    (fourth : isContinuation e = true) :
    String.utf8EncodeChar (Char.ofNat
      (((b.toNat % 8 * 64 + c.toNat % 64) * 64 + d.toNat % 64) * 64 + e.toNat % 64)) =
      [b, c, d, e] := by
  rw [secondAllowedBounds] at second
  rw [isContinuationBounds] at third fourth
  have value := valOfNat
    (v := ((b.toNat % 8 * 64 + c.toNat % 64) * 64 + d.toNat % 64) * 64 + e.toNat % 64)
    (by unfold Nat.isValidChar; omega)
  simp only [String.utf8EncodeChar, value]
  rw [if_neg (by omega), if_neg (by omega), if_neg (by omega), octetEq (b := b) (by omega),
    octetEq (b := c) (by omega), octetEq (b := d) (by omega), octetEq (b := e) (by omega)]

theorem decodedCons {c : Char} {read chars : List Char} {octets rest : Bytes}
    (spelled : String.utf8EncodeChar c = octets)
    (later : ∃ tail, chars = (c :: read).reverse ++ tail ∧
      rest = tail.flatMap String.utf8EncodeChar) :
    ∃ tail, chars = read.reverse ++ tail ∧
      octets ++ rest = tail.flatMap String.utf8EncodeChar := by
  obtain ⟨tail, rfl, rfl⟩ := later
  exact ⟨c :: tail, by simp, by rw [List.flatMap_cons, spelled]⟩

theorem decodedFrom {pos : Nat} {read chars : List Char} {octets : Bytes}
    (ok : decodeFrom pos read octets = .ok chars) :
    ∃ tail, chars = read.reverse ++ tail ∧ octets = tail.flatMap String.utf8EncodeChar := by
  fun_induction decodeFrom pos read octets with
  | case1 pos read => cases ok; exact ⟨[], by simp, rfl⟩
  | case2 pos read b rest one ih =>
    exact decodedCons (encodeOne one) (ih ok)
  | case6 pos read b low one range c rest second two ih =>
    have lead : 194 ≤ b.toNat ∧ b.toNat < 224 := by
      simp [UInt8.lt_iff_toNat_lt] at range two
      omega
    have tail := secondAllowedBounds.mp (by simpa using second)
    exact decodedCons (encodeTwo lead ⟨tail.1, tail.2.1⟩) (ih ok)
  | case9 pos read b low one range c second two d rest third three ih =>
    have lead : 224 ≤ b.toNat ∧ b.toNat < 240 := by
      simp [UInt8.lt_iff_toNat_lt] at two three
      omega
    exact decodedCons (encodeThree lead (by simpa using second) (by simpa using third)) (ih ok)
  | case12 pos read b low one range c second two d third three e rest fourth ih =>
    have lead : 240 ≤ b.toNat ∧ b.toNat ≤ 244 := by
      simp [UInt8.lt_iff_toNat_lt] at range three
      omega
    exact decodedCons
      (encodeFour lead (by simpa using second) (by simpa using third) (by simpa using fourth))
      (ih ok)
  | _ => cases ok

theorem decodedExactly {octets : Bytes} {s : String} : decode octets = .ok s ↔ octets = utf8 s := by
  constructor
  · intro ok
    unfold decode at ok
    cases from0 : decodeFrom 0 [] octets with
    | error fault => simp [from0, Except.map] at ok
    | ok chars =>
      simp only [from0, Except.map, Except.ok.injEq] at ok
      obtain ⟨tail, same, rfl⟩ := decodedFrom from0
      simp [← ok, same, utf8]
  · intro same
    subst same
    exact decodeUtf8 s

theorem zeroSpelled {c : Char} : 0 ∈ String.utf8EncodeChar c ↔ c = '\x00' := by
  constructor
  · intro zero
    have small (n : Nat) (h : n < 256) : (0 : UInt8) = UInt8.ofNat n ↔ n = 0 := by
      rw [← UInt8.toNat_inj, UInt8.toNat_ofNat_of_lt' (by simpa using h)]
      simp [eq_comm]
    have value : c.val.toNat = 0 := by
      unfold String.utf8EncodeChar at zero
      revert zero
      simp only
      split
      · simp only [List.mem_singleton]
        rw [small _ (by omega)]
        exact id
      split
      · simp only [List.mem_cons, List.not_mem_nil, or_false]
        rw [small _ (by omega), small _ (by omega)]
        omega
      split
      · simp only [List.mem_cons, List.not_mem_nil, or_false]
        rw [small _ (by omega), small _ (by omega), small _ (by omega)]
        omega
      · simp only [List.mem_cons, List.not_mem_nil, or_false]
        rw [small _ (by omega), small _ (by omega), small _ (by omega), small _ (by omega)]
        omega
    rw [← Char.ofNat_toNat c, Char.toNat, value]
  · intro same
    subst same
    decide

theorem zeroOctet {s : String} : (utf8 s).contains 0 = true ↔ '\x00' ∈ s.toList := by
  simp [utf8, zeroSpelled]

end RootCatalog.Text
