import DrivewayWatch.Proofs.Number.Exact
import Mathlib.Data.Int.Log
import Mathlib.Tactic.Ring

/-!
# Rounding to binary floating-point numbers

A number is rounded to a multiple of a power of two that leaves 53 bits of it,
or fewer where the exponents end.  A half goes to the even neighbour.  Large
exponents have no end here.  Rounding keeps the order: among numbers with the
same last place it is a rounding to integers, and no number is rounded beyond the
least one with a later place.
-/

namespace DrivewayWatch.Binary64

/-- The natural number nearest to a number that is not negative; a half goes to
the even neighbour. -/
def halfEven (x : Rat) : Nat :=
  if x - ⌊x⌋₊ < 1 / 2 then ⌊x⌋₊
  else if x - ⌊x⌋₊ = 1 / 2 then ⌊x⌋₊ + ⌊x⌋₊ % 2
  else ⌊x⌋₊ + 1

section HalfEven

variable {x : Rat}

theorem halfEven_of_lt (below : x - ⌊x⌋₊ < 1 / 2) : halfEven x = ⌊x⌋₊ :=
  if_pos below

theorem halfEven_of_eq (half : x - ⌊x⌋₊ = 1 / 2) :
    halfEven x = ⌊x⌋₊ + ⌊x⌋₊ % 2 := by
  rw [halfEven, if_neg half.not_lt, if_pos half]

theorem halfEven_of_gt (above : 1 / 2 < x - ⌊x⌋₊) :
    halfEven x = ⌊x⌋₊ + 1 := by
  rw [halfEven, if_neg above.not_gt, if_neg above.ne']

theorem floor_le_halfEven (x : Rat) : ⌊x⌋₊ ≤ halfEven x := by
  unfold halfEven
  split_ifs <;> omega

theorem halfEven_le_floor_add_one (x : Rat) : halfEven x ≤ ⌊x⌋₊ + 1 := by
  unfold halfEven
  split_ifs <;> omega

theorem halfEven_mono : Monotone halfEven := by
  intro x y notMore
  have floors : ⌊x⌋₊ ≤ ⌊y⌋₊ := Nat.floor_mono notMore
  rcases floors.lt_or_eq with less | same
  · calc halfEven x ≤ ⌊x⌋₊ + 1 := halfEven_le_floor_add_one x
      _ ≤ ⌊y⌋₊ := less
      _ ≤ halfEven y := floor_le_halfEven y
  · -- Between two integers only the fractions matter.
    have fractions : x - ⌊x⌋₊ ≤ y - ⌊y⌋₊ := by
      rw [same]
      exact sub_le_sub_right notMore _
    rcases lt_trichotomy (x - ⌊x⌋₊) (1 / 2) with below | half | above
    · rw [halfEven_of_lt below, same]
      exact floor_le_halfEven y
    · rcases (half.symm.le.trans fractions).eq_or_lt with otherHalf | above
      · rw [halfEven_of_eq half, halfEven_of_eq otherHalf.symm, same]
      · rw [halfEven_of_eq half, halfEven_of_gt above, same]
        omega
    · rw [halfEven_of_gt above, halfEven_of_gt (above.trans_le fractions), same]

theorem halfEven_natCast (n : Nat) : halfEven n = n := by
  simp [halfEven]

end HalfEven

/-- The exponent of the last bit of a number that is kept. -/
def place (x : Rat) : Int :=
  max (Int.log 2 x - 52) (-1074)

section Place

variable {x y : Rat}

theorem two_zpow_pos (n : Int) : (0 : Rat) < 2 ^ n :=
  zpow_pos two_pos n

theorem two_zpow_add_nat (n : Int) (bits : Nat) :
    (2 : Rat) ^ (n + bits) = 2 ^ bits * 2 ^ n := by
  rw [zpow_add₀ two_ne_zero, zpow_natCast, mul_comm]

theorem place_mono (positive : 0 < x) (notMore : x ≤ y) :
    place x ≤ place y := by
  have logs := Int.log_mono_right (b := 2) positive notMore
  unfold place
  omega

/-- What is kept has no more than 53 bits. -/
theorem div_place_lt (x : Rat) : x / 2 ^ place x < 2 ^ 53 := by
  have below : x < 2 ^ (Int.log 2 x + 1) :=
    Int.lt_zpow_succ_log_self one_lt_two x
  have notBelow : Int.log 2 x + 1 ≤ place x + (53 : Nat) := by
    unfold place
    omega
  rw [div_lt_iff₀ (two_zpow_pos _), ← two_zpow_add_nat]
  exact below.trans_le (zpow_le_zpow_right₀ one_le_two notBelow)

/-- Unless the exponents end, it has all of them. -/
theorem le_div_place (positive : 0 < x) (above : -1074 < place x) :
    2 ^ 52 ≤ x / 2 ^ place x := by
  have notAbove : 2 ^ Int.log 2 x ≤ x :=
    Int.zpow_log_le_self one_lt_two positive
  have exponent : place x + (52 : Nat) = Int.log 2 x := by
    unfold place at above ⊢
    omega
  rw [le_div_iff₀ (two_zpow_pos _), ← two_zpow_add_nat, exponent]
  exact notAbove

end Place

/-- A number that is not negative, rounded. -/
def roundedMagnitude (x : Rat) : Rat :=
  halfEven (x / 2 ^ place x) * 2 ^ place x

section Magnitude

variable {x y : Rat}

theorem roundedMagnitude_zero : roundedMagnitude 0 = 0 := by
  rw [roundedMagnitude, zero_div, ← Nat.cast_zero, halfEven_natCast,
    Nat.cast_zero, zero_mul]

theorem roundedMagnitude_nonneg (x : Rat) : 0 ≤ roundedMagnitude x :=
  magnitude_nonneg _ _

theorem halfEven_place_le (x : Rat) : halfEven (x / 2 ^ place x) ≤ 2 ^ 53 := by
  rw [← halfEven_natCast (2 ^ 53)]
  exact halfEven_mono (by exact_mod_cast (div_place_lt x).le)

theorem le_halfEven_place (positive : 0 < x) (above : -1074 < place x) :
    2 ^ 52 ≤ halfEven (x / 2 ^ place x) := by
  rw [← halfEven_natCast (2 ^ 52)]
  exact halfEven_mono (by exact_mod_cast le_div_place positive above)

theorem roundedMagnitude_le (x : Rat) :
    roundedMagnitude x ≤ 2 ^ (place x + (53 : Nat)) := by
  rw [roundedMagnitude, two_zpow_add_nat]
  exact mul_le_mul_of_nonneg_right (by exact_mod_cast halfEven_place_le x)
    (two_zpow_pos _).le

theorem le_roundedMagnitude (positive : 0 < x) (above : -1074 < place x) :
    2 ^ (place x + (52 : Nat)) ≤ roundedMagnitude x := by
  rw [roundedMagnitude, two_zpow_add_nat]
  exact mul_le_mul_of_nonneg_right
    (by exact_mod_cast le_halfEven_place positive above) (two_zpow_pos _).le

theorem roundedMagnitude_mono_of_pos (positive : 0 < x) (notMore : x ≤ y) :
    roundedMagnitude x ≤ roundedMagnitude y := by
  rcases (place_mono positive notMore).lt_or_eq with earlier | same
  · have above : -1074 < place y := by
      unfold place at earlier ⊢
      omega
    calc
      roundedMagnitude x ≤ 2 ^ (place x + (53 : Nat)) := roundedMagnitude_le x
      _ ≤ 2 ^ (place y + (52 : Nat)) :=
        zpow_le_zpow_right₀ one_le_two (by omega)
      _ ≤ roundedMagnitude y :=
        le_roundedMagnitude (positive.trans_le notMore) above
  · have kept : halfEven (x / 2 ^ place x) ≤ halfEven (y / 2 ^ place x) :=
      halfEven_mono (div_le_div_of_nonneg_right notMore (two_zpow_pos _).le)
    rw [roundedMagnitude, roundedMagnitude, ← same]
    exact mul_le_mul_of_nonneg_right (Nat.cast_le.mpr kept) (two_zpow_pos _).le

theorem roundedMagnitude_mono (nonneg : 0 ≤ x) (notMore : x ≤ y) :
    roundedMagnitude x ≤ roundedMagnitude y := by
  rcases nonneg.eq_or_lt with rfl | positive
  · rw [roundedMagnitude_zero]
    exact roundedMagnitude_nonneg y
  · exact roundedMagnitude_mono_of_pos positive notMore

end Magnitude

/-- A number, rounded. -/
def rounded (x : Rat) : Rat :=
  if 0 ≤ x then roundedMagnitude x else -roundedMagnitude (-x)

theorem rounded_of_nonneg {x : Rat} (nonneg : 0 ≤ x) :
    rounded x = roundedMagnitude x :=
  if_pos nonneg

theorem rounded_neg (x : Rat) : rounded (-x) = -rounded x := by
  rcases lt_trichotomy x 0 with negative | rfl | positive
  · rw [rounded_of_nonneg (neg_nonneg.mpr negative.le), rounded,
      if_neg negative.not_ge, neg_neg]
  · rw [neg_zero, rounded_of_nonneg le_rfl, roundedMagnitude_zero, neg_zero]
  · rw [rounded_of_nonneg positive.le, rounded,
      if_neg (neg_neg_of_pos positive).not_ge, neg_neg]

/-- Rounding keeps the order. -/
theorem rounded_mono : Monotone rounded := by
  refine monotone_of_odd_of_monotoneOn_nonneg rounded_neg ?_
  intro x nonneg y nonnegToo notMore
  rw [rounded_of_nonneg nonneg, rounded_of_nonneg nonnegToo]
  exact roundedMagnitude_mono nonneg notMore

end DrivewayWatch.Binary64
