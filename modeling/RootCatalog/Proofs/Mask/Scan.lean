import RootCatalog.Mask
/-! A scan of a name finds whether the mask matches it. A scan keeps one star, so the point is that no
earlier star would have to take more: what stands behind an earlier star up to the last one is plain,
so it uses up a fixed part of the name, and the last star can take whatever the earlier one leaves. -/
namespace RootCatalog.Mask

theorem matchesStar {mask name : List Char} :
    Matches ('*' :: mask) name ↔ ∃ k, Matches mask (name.drop k) := by
  constructor
  · intro whole
    cases whole with
    | @star _ rest dropped behind => exact ⟨dropped.length, by rwa [List.drop_left]⟩
    | letter plain => exact absurd rfl plain.1
  · rintro ⟨k, behind⟩
    have whole := @Matches.star _ _ (name.take k) behind
    rwa [List.take_append_drop] at whole

theorem matchesPlain {m : Char} {mask name : List Char} (plain : m ≠ '*') :
    Matches (m :: mask) name ↔
      ∃ c rest, name = c :: rest ∧ standsFor m c = true ∧ Matches mask rest := by
  constructor
  · intro whole
    cases whole with
    | star => exact absurd rfl plain
    | one c rest => exact ⟨c, _, rfl, rfl, rest⟩
    | letter other same rest => exact ⟨_, _, rfl, by simp [standsFor, same], rest⟩
  · rintro ⟨c, rest, spelled, fits, behind⟩
    subst spelled
    by_cases any : m = '?'
    · subst any
      exact .one c behind
    · exact .letter ⟨plain, any⟩ (by simpa [standsFor, any] using fits) behind

theorem matchesNothing {mask : List Char} : Matches mask [] ↔ mask.all (· = '*') = true := by
  induction mask with
  | nil => exact iff_of_true .nil rfl
  | cons m mask ih =>
    by_cases star : m = '*'
    · subst star
      simp [matchesStar, ih]
    · simp [matchesPlain star, star]

theorem matchesLonger {mask text : List Char} (i : Nat) : Matches ('*' :: mask) (text.drop i) ↔
    Matches mask (text.drop i) ∨ Matches ('*' :: mask) (text.drop (i + 1)) := by
  simp only [matchesStar, List.drop_drop]
  constructor
  · rintro ⟨k, behind⟩
    cases k with
    | zero => exact .inl behind
    | succ k => exact .inr ⟨k, by rwa [show i + 1 + k = i + (k + 1) by omega]⟩
  · rintro (behind | ⟨k, behind⟩)
    · exact ⟨0, behind⟩
    · exact ⟨k + 1, by rwa [show i + (k + 1) = i + 1 + k by omega]⟩

theorem matchesBehind {part mask name : List Char} (plain : '*' ∉ part)
    (whole : Matches (part ++ mask) name) : Matches mask (name.drop part.length) := by
  induction part generalizing name with
  | nil => exact whole
  | cons m part ih =>
    obtain ⟨first, others⟩ := List.ne_and_not_mem_of_not_mem_cons plain
    obtain ⟨c, rest, rfl, -, behind⟩ := (matchesPlain first.symm).mp whole
    exact ih others behind

namespace Scan

variable {name mask : Array Char}

theorem headMask {i : Nat} (left : i < mask.size) :
    mask.toList.drop i = mask[i] :: mask.toList.drop (i + 1) := by
  rw [List.drop_eq_getElem_cons (by simpa using left), Array.getElem_toList]

def maskLeft (s : Scan name mask) : List Char := mask.toList.drop s.used

def nameLeft (s : Scan name mask) : List Char := name.toList.drop s.read

def maskBehind (mask : Array Char) (star : Star) : List Char := mask.toList.drop (star.place + 1)

def Plain (s : Scan name mask) : Prop :=
  ∀ star ∈ s.star, '*' ∉ (maskBehind mask star).take (s.used - (star.place + 1))

def Promising (s : Scan name mask) : Prop := Matches s.maskLeft s.nameLeft ∨
  ∃ star ∈ s.star, Matches ('*' :: maskBehind mask star) (name.toList.drop (star.reach + 1))

theorem lastSuffices {s : Scan name mask} (plain : s.Plain) {star : Star} (last : star ∈ s.star)
    (longer : Matches ('*' :: maskBehind mask star) (name.toList.drop (star.reach + 1))) :
    ∃ k, Matches s.maskLeft (name.toList.drop (s.read + 1 + k)) := by
  obtain ⟨behind, even⟩ := s.since star last
  have fits := s.usedFits
  obtain ⟨k, whole⟩ := matchesStar.mp longer
  -- Behind the star comes a plain part, which takes as much of the name as it has characters.
  rw [← List.take_append_drop (s.used - (star.place + 1)) (maskBehind mask star)] at whole
  have left := matchesBehind (plain star last) whole
  have length : ((maskBehind mask star).take (s.used - (star.place + 1))).length =
      s.used - (star.place + 1) := by
    simp only [maskBehind, List.length_take, List.length_drop, Array.length_toList]
    omega
  rw [length, maskBehind, List.drop_drop, List.drop_drop, List.drop_drop] at left
  refine ⟨k, ?_⟩
  rwa [show star.place + 1 + (s.used - (star.place + 1)) = s.used by omega,
    show star.reach + 1 + (k + (s.used - (star.place + 1))) = s.read + 1 + k by omega] at left

/-- Where the mask ahead can take more of the name whenever it can take less, no longer run of the
last star is needed. -/
theorem promisingNow {s : Scan name mask} (plain : s.Plain)
    (grows : ∀ k, Matches s.maskLeft (name.toList.drop (s.read + 1 + k)) →
      Matches s.maskLeft s.nameLeft) : s.Promising ↔ Matches s.maskLeft s.nameLeft := by
  refine ⟨?_, .inl⟩
  rintro (now | ⟨star, last, longer⟩)
  · exact now
  · obtain ⟨k, later⟩ := lastSuffices plain last longer
    exact grows k later

theorem stuckFails {s : Scan name mask} (more : s.read < name.size) (stuck : s.Stuck more) :
    ¬ Matches s.maskLeft s.nameLeft := by
  intro whole
  rw [nameLeft, headMask more] at whole
  by_cases left : s.used < mask.size
  · rw [maskLeft, headMask left] at whole
    obtain ⟨c, rest, spelled, fits, -⟩ := (matchesPlain (stuck left).1).mp whole
    cases spelled
    rw [(stuck left).2] at fits
    cases fits
  · rw [maskLeft, List.drop_eq_nil_of_le (by simpa using Nat.le_of_not_lt left)] at whole
    cases whole

theorem plainTurn {s next : Scan name mask} (goes : s.Goes (.onward next)) (plain : s.Plain) :
    next.Plain := by
  cases goes with
  | star left here =>
    intro star last
    cases last
    simp [passStar]
  | letter more left other fits =>
    intro star last
    have grown : s.used + 1 - (star.place + 1) = s.used - (star.place + 1) + 1 := by
      have := (s.since star last).1
      omega
    have taken : (maskBehind mask star)[s.used - (star.place + 1)]? = some mask[s.used] := by
      have := (s.since star last).1
      rw [maskBehind, List.getElem?_drop,
        show star.place + 1 + (s.used - (star.place + 1)) = s.used by omega]
      simp [left]
    show '*' ∉ (maskBehind mask star).take (s.used + 1 - (star.place + 1))
    rw [grown, List.take_add_one, taken]
    simpa [other.symm] using plain star last
  | parted more stuck star last =>
    intro star' last'
    cases last'
    simp [lengthen]

theorem promisingStar {s : Scan name mask} (plain : s.Plain) (left : s.used < mask.size)
    (here : mask[s.used] = '*') : (s.passStar left).Promising ↔ s.Promising := by
  have opened : s.maskLeft = '*' :: mask.toList.drop (s.used + 1) := by
    rw [maskLeft, headMask left, here]
  have now : s.Promising ↔ Matches s.maskLeft s.nameLeft := by
    refine promisingNow plain fun k later => ?_
    rw [opened, matchesStar] at later ⊢
    obtain ⟨k', behind⟩ := later
    refine ⟨1 + k + k', ?_⟩
    rw [nameLeft, List.drop_drop]
    rwa [List.drop_drop, show s.read + 1 + k + k' = s.read + (1 + k + k') by omega] at behind
  rw [now, opened, nameLeft, matchesLonger]
  simp [Promising, passStar, maskLeft, nameLeft, maskBehind]

theorem promisingLetter {s : Scan name mask} (more : s.read < name.size)
    (left : s.used < mask.size) (plain : mask[s.used] ≠ '*')
    (fits : standsFor mask[s.used] name[s.read] = true) :
    (s.passLetter more left).Promising ↔ s.Promising := by
  have now : Matches s.maskLeft s.nameLeft ↔
      Matches (s.passLetter more left).maskLeft (s.passLetter more left).nameLeft := by
    rw [maskLeft, nameLeft, headMask left, headMask more, matchesPlain plain]
    constructor
    · rintro ⟨c, rest, spelled, _, behind⟩
      cases spelled
      exact behind
    · intro behind
      exact ⟨_, _, rfl, fits, behind⟩
  unfold Promising
  rw [now]
  exact Iff.rfl

theorem promisingLonger {s : Scan name mask} (more : s.read < name.size) (stuck : s.Stuck more)
    (star : Star) (last : star ∈ s.star) : (s.lengthen more star last).Promising ↔ s.Promising := by
  have only : s.Promising ↔
      Matches ('*' :: maskBehind mask star) (name.toList.drop (star.reach + 1)) := by
    simp [Promising, stuckFails more stuck, Option.mem_def.mp last]
  rw [only, matchesLonger]
  simp [Promising, lengthen, maskLeft, nameLeft, maskBehind]

theorem promisingTurn {s next : Scan name mask} (goes : s.Goes (.onward next)) (plain : s.Plain) :
    next.Promising ↔ s.Promising := by
  cases goes with
  | star left here => exact promisingStar plain left here
  | letter more left other fits => exact promisingLetter more left other fits
  | parted more stuck star last => exact promisingLonger more stuck star last

theorem promisingAnswer {s : Scan name mask} {matched : Bool} (goes : s.Goes (.answer matched))
    (plain : s.Plain) : matched = true ↔ s.Promising := by
  cases goes with
  | lost more stuck starless => simp [Promising, stuckFails more stuck, starless]
  | ended spent =>
    have nothing (k : Nat) : name.toList.drop (s.read + k) = [] :=
      List.drop_eq_nil_of_le (by simp [spent])
    have here : s.nameLeft = [] := nothing 0
    rw [promisingNow plain, here, matchesNothing]
    · rfl
    · intro k later
      rwa [Nat.add_assoc, nothing, ← here] at later

theorem runPromising (s : Scan name mask) (plain : s.Plain) : s.run = true ↔ s.Promising := by
  induction s using run.induct with
  | case1 s next step ih =>
    have goes := goesTurn s
    rw [step] at goes
    rw [run, step, ← promisingTurn goes plain]
    exact ih (plainTurn goes plain)
  | case2 s matched step =>
    have goes := goesTurn s
    rw [step] at goes
    rw [run, step]
    exact promisingAnswer goes plain

end Scan

theorem matchesNameExact (mask name : String) :
    matchesName mask name = true ↔ Matches mask.toList name.toList := by
  unfold matchesName
  split
  · rename_i whole
    subst whole
    exact iff_of_true rfl (matchesStar.mpr ⟨name.toList.length, by simpa using Matches.nil⟩)
  · rw [Scan.runPromising Scan.start nofun]
    simp [Scan.Promising, Scan.start, Scan.maskLeft, Scan.nameLeft]

example : matchesName "a*c" "A*b*c" = true ∧ matchesName "*ab?" "aab" = false := by decide

end RootCatalog.Mask
