import DrivewayWatch.Proofs.Number.Exact

/-!
# Rational numbers and infinities

Configured seconds read as exact numbers that may be infinite.  Where infinities
cancel each other out, as in their difference, the result is zero here.
-/

namespace DrivewayWatch

/-- A rational number, or an infinity on either side. -/
inductive ExtendedRational where
  | below
  | number (x : Rat)
  | above
  deriving DecidableEq

namespace ExtendedRational

def IsAtMost : ExtendedRational → ExtendedRational → Prop
  | below, _ => True
  | _, above => True
  | number x, number y => x ≤ y
  | _, _ => False

instance decidableIsAtMost (first second : ExtendedRational) :
    Decidable (IsAtMost first second) :=
  match first, second with
  | below, _ => inferInstanceAs (Decidable True)
  | number _, above => inferInstanceAs (Decidable True)
  | above, above => inferInstanceAs (Decidable True)
  | number x, number y => inferInstanceAs (Decidable (x ≤ y))
  | number _, below => inferInstanceAs (Decidable False)
  | above, below => inferInstanceAs (Decidable False)
  | above, number _ => inferInstanceAs (Decidable False)

/-- A number with the sign. -/
def sign : ExtendedRational → Rat
  | below => -1
  | number x => x
  | above => 1

/-- The infinity on the side of a number. -/
def infinity (x : Rat) : ExtendedRational :=
  if 0 < x then above else if x < 0 then below else number 0

def plus : ExtendedRational → ExtendedRational → ExtendedRational
  | number x, number y => number (x + y)
  | number _, second => second
  | first, number _ => first
  | first, second => infinity (first.sign + second.sign)

def times : ExtendedRational → ExtendedRational → ExtendedRational
  | number x, number y => number (x * y)
  | first, second => infinity (first.sign * second.sign)

def dividedBy : ExtendedRational → ExtendedRational → ExtendedRational
  | number x, number y => number (x / y)
  | first, number y => infinity (first.sign * y)
  | _, _ => number 0

def rounded : ExtendedRational → Rounded
  | below => .below
  | number x => .integer (roundRational x)
  | above => .above

end ExtendedRational

open ExtendedRational in
instance extendedScalar : Scalar ExtendedRational where
  add := plus
  sub first second := plus first (times (number (-1)) second)
  mul := times
  div := dividedBy
  lt first second := ¬ IsAtMost second first
  le := IsAtMost
  ofNat n := number n
  lesser first second := if IsAtMost first second then first else second
  greater first second := if IsAtMost first second then second else first
  round := rounded
  decidableLT := fun _ _ => inferInstance
  decidableLE := fun _ _ => inferInstance

theorem ExtendedRational.not_lt_zero_iff {amount : ExtendedRational} :
    ¬ amount < Scalar.ofNat 0 ↔ number 0 ≤ amount := by
  change ¬ ¬ IsAtMost (number (0 : Nat)) amount ↔ IsAtMost (number 0) amount
  rw [not_not, Nat.cast_zero]

/-- An integer nearest to a number.  If there are two, it is the one that lies
farther from zero. -/
structure IsNearest (x : Rat) (n : Int) : Prop where
  near : |x - n| ≤ 1 / 2
  away : |x - n| = 1 / 2 → |x| < |(n : Rat)|

theorem IsNearest.neg {x : Rat} {n : Int} (isNearest : IsNearest x n) :
    IsNearest (-x) (-n) := by
  have mirrored : |-x - ((-n : Int) : Rat)| = |x - n| := by
    rw [Int.cast_neg, ← neg_sub', abs_neg]
  constructor
  · rw [mirrored]
    exact isNearest.near
  · rw [mirrored, Int.cast_neg, abs_neg, abs_neg]
    exact isNearest.away

theorem isNearest_roundRational_of_nonneg {x : Rat} (nonneg : 0 ≤ x) :
    IsNearest x (roundRational x) := by
  rw [roundRational_of_nonneg nonneg, nearest]
  have notMore : (⌊x + 1 / 2⌋₊ : Rat) ≤ x + 1 / 2 :=
    Nat.floor_le (by linarith)
  have less : x + 1 / 2 < ⌊x + 1 / 2⌋₊ + 1 := Nat.lt_floor_add_one _
  constructor
  · rw [Int.cast_natCast, abs_le]
    constructor <;> linarith
  · rw [Int.cast_natCast]
    intro isHalf
    have floorNonneg : (0 : Rat) ≤ ⌊x + 1 / 2⌋₊ := Nat.cast_nonneg _
    rw [abs_of_nonneg nonneg, abs_of_nonneg floorNonneg]
    rcases abs_eq (by norm_num : (0 : Rat) ≤ 1 / 2) |>.mp isHalf with
      above | below
    · linarith
    · linarith

theorem isNearest_roundRational (x : Rat) : IsNearest x (roundRational x) := by
  rcases le_total 0 x with nonneg | nonpos
  · exact isNearest_roundRational_of_nonneg nonneg
  · have mirrored :=
      (isNearest_roundRational_of_nonneg (neg_nonneg.mpr nonpos)).neg
    rwa [← roundRational_neg, neg_neg] at mirrored

end DrivewayWatch
