/-! Search masks. A star stands for any run of characters, a question mark for one character, and
any other character for itself up to ASCII case. A name is scanned from its start. Where it parts
from the mask, the run of the last star passed is made one character longer; the stars before that
one keep the runs they have. A scan carries the proofs that its places are within the name and the
mask, and each turn leaves it less to do, so it never looks past their ends, and it comes to one. -/
namespace RootCatalog.Mask

def all : String := "*"

def sameLetter (a b : Char) : Bool := a.toLower = b.toLower

def standsFor (m c : Char) : Bool := m = '?' || sameLetter m c

structure Star where
  place : Nat
  reach : Nat
  deriving DecidableEq, Repr

/-- A scan that is past the first `read` characters of the name and the first `used` of the mask.
Since the last star it has taken a character of the name for each of the mask. -/
structure Scan (name mask : Array Char) where
  read : Nat
  used : Nat
  star : Option Star
  readFits : read ≤ name.size
  usedFits : used ≤ mask.size
  since : ∀ s ∈ star, s.place < used ∧ read + s.place + 1 = used + s.reach

inductive Turn (name mask : Array Char) where
  | onward (next : Scan name mask)
  | answer (matched : Bool)

namespace Scan

variable {name mask : Array Char}

def start : Scan name mask where
  read := 0
  used := 0
  star := none
  readFits := Nat.zero_le _
  usedFits := Nat.zero_le _
  since := by simp

def passStar (s : Scan name mask) (left : s.used < mask.size) : Scan name mask where
  read := s.read
  used := s.used + 1
  star := some ⟨s.used, s.read⟩
  readFits := s.readFits
  usedFits := left
  since := by simp; omega

def passLetter (s : Scan name mask) (more : s.read < name.size) (left : s.used < mask.size) :
    Scan name mask where
  read := s.read + 1
  used := s.used + 1
  star := s.star
  readFits := more
  usedFits := left
  since star last := by have := s.since star last; omega

def lengthen (s : Scan name mask) (more : s.read < name.size) (star : Star) (last : star ∈ s.star) :
    Scan name mask where
  read := star.reach + 1
  used := star.place + 1
  star := some ⟨star.place, star.reach + 1⟩
  readFits := by have := s.since star last; omega
  usedFits := by have := s.since star last; have := s.usedFits; omega
  since := by simp; omega

def back (s : Scan name mask) (more : s.read < name.size) : Turn name mask :=
  match last : s.star with
  | none => .answer false
  | some star => .onward (s.lengthen more star last)

def turn (s : Scan name mask) : Turn name mask :=
  if more : s.read < name.size then
    if left : s.used < mask.size then
      if mask[s.used] = '*' then .onward (s.passStar left)
      else if standsFor mask[s.used] name[s.read] then .onward (s.passLetter more left)
      else s.back more
    else s.back more
  else .answer ((mask.toList.drop s.used).all (· = '*'))

def Stuck (s : Scan name mask) (more : s.read < name.size) : Prop :=
  ∀ left : s.used < mask.size,
    mask[s.used] ≠ '*' ∧ standsFor mask[s.used] name[s.read] = false

inductive Goes (s : Scan name mask) : Turn name mask → Prop
  | star (left : s.used < mask.size) (here : mask[s.used] = '*') : Goes s (.onward (s.passStar left))
  | letter (more : s.read < name.size) (left : s.used < mask.size) (plain : mask[s.used] ≠ '*')
      (fits : standsFor mask[s.used] name[s.read] = true) : Goes s (.onward (s.passLetter more left))
  | parted (more : s.read < name.size) (stuck : s.Stuck more) (star : Star)
      (last : star ∈ s.star) : Goes s (.onward (s.lengthen more star last))
  | lost (more : s.read < name.size) (stuck : s.Stuck more) (starless : s.star = none) :
      Goes s (.answer false)
  | ended (spent : s.read = name.size) :
      Goes s (.answer ((mask.toList.drop s.used).all (· = '*')))

theorem goesBack {s : Scan name mask} (more : s.read < name.size) (stuck : s.Stuck more) :
    s.Goes (s.back more) := by
  unfold back
  split
  · rename_i starless
    exact .lost more stuck starless
  · rename_i star last
    exact .parted more stuck star last

theorem goesTurn (s : Scan name mask) : s.Goes s.turn := by
  unfold turn
  split
  · rename_i more
    split
    · rename_i left
      split
      · rename_i here
        exact .star left here
      · rename_i plain
        split
        · rename_i fits
          exact .letter more left plain fits
        · rename_i unlike
          exact goesBack more fun _ => ⟨plain, by simpa using unlike⟩
    · rename_i spent
      exact goesBack more fun left => absurd left spent
  · rename_i spent
    exact .ended (Nat.le_antisymm s.readFits (Nat.le_of_not_lt spent))

def maskAhead (s : Scan name mask) : Nat :=
  match s.star with
  | none => mask.size + 1
  | some star => mask.size - star.place

def nameAhead (s : Scan name mask) : Nat :=
  match s.star with
  | none => name.size
  | some star => name.size - star.reach

/-- What is left to do. A star to pass counts for more than any run can grow, and a character that a
run can take for more than the whole mask. -/
def weight (s : Scan name mask) : Nat :=
  (s.maskAhead * (name.size + 1) + s.nameAhead) * (mask.size + 1) + (mask.size - s.used)

theorem outweighs {a a' base b' : Nat} (b : Nat) (less : a' < a) (small : b' < base) :
    a' * base + b' < a * base + b := by
  have grown := Nat.mul_le_mul_right base less
  rw [Nat.succ_mul] at grown
  omega

theorem lighterTurn {s next : Scan name mask} (step : s.turn = .onward next) :
    next.weight < s.weight := by
  have goes := goesTurn s
  rw [step] at goes
  have rest (k : Nat) : mask.size - k < mask.size + 1 := by omega
  cases goes with
  | star left here =>
    have fewer : (s.passStar left).maskAhead < s.maskAhead := by
      cases last : s.star with
      | none =>
        simp only [maskAhead, passStar, last]
        omega
      | some star =>
        have := s.since star last
        simp only [maskAhead, passStar, last]
        omega
    have run : (s.passStar left).nameAhead < name.size + 1 := by
      simp only [nameAhead, passStar]
      omega
    exact outweighs _ (outweighs _ fewer run) (rest _)
  | letter more left plain fits =>
    have used : mask.size - (s.used + 1) < mask.size - s.used := by omega
    exact Nat.add_lt_add_left used _
  | parted more stuck star last =>
    have := s.since star last
    have same : (s.lengthen more star last).maskAhead = s.maskAhead := by
      simp only [maskAhead, lengthen, Option.mem_def.mp last]
    have longer : (s.lengthen more star last).nameAhead < s.nameAhead := by
      simp only [nameAhead, lengthen, Option.mem_def.mp last]
      omega
    unfold weight
    rw [same]
    exact outweighs _ (Nat.add_lt_add_left longer _) (rest _)

@[semireducible]
def run (s : Scan name mask) : Bool :=
  match _step : s.turn with
  | .onward next => next.run
  | .answer matched => matched
termination_by s.weight
decreasing_by exact lighterTurn _step

end Scan

def matchesName (mask name : String) : Bool :=
  if mask = all then true
  else (Scan.start : Scan name.toList.toArray mask.toList.toArray).run

inductive Matches : List Char → List Char → Prop
  | nil : Matches [] []
  | star {mask name dropped : List Char} (rest : Matches mask name) :
      Matches ('*' :: mask) (dropped ++ name)
  | one {mask name : List Char} (c : Char) (rest : Matches mask name) :
      Matches ('?' :: mask) (c :: name)
  | letter {mask name : List Char} {m c : Char} (plain : m ≠ '*' ∧ m ≠ '?')
      (same : sameLetter m c = true) (rest : Matches mask name) : Matches (m :: mask) (c :: name)

end RootCatalog.Mask
