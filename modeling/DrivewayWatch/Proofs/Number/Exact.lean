import DrivewayWatch.Proofs.Number.Rational
import Mathlib.Algebra.Order.Floor.Semifield
import Mathlib.Data.Int.ConditionallyCompleteOrder
import Mathlib.Data.Rat.Floor
import Mathlib.Order.Monotone.Odd
import Mathlib.Tactic.NormNum
import Mathlib.Tactic.Positivity

/-!
# Exact values

A finite floating-point number stands for one rational number.  Its integer part
and its nearest integer are those of this number, whatever its exponent is.  To
the nearest integer also means that the order is kept.
-/

namespace DrivewayWatch

/-- The integer part of a number; the fraction is dropped whatever the sign. -/
def towardZero (x : Rat) : Int :=
  if 0 ≤ x then ⌊x⌋ else ⌈x⌉

/-- The natural number nearest to a number that is not negative. -/
def nearest (x : Rat) : Nat :=
  ⌊x + 1 / 2⌋₊

theorem nearest_mono : Monotone nearest := by
  intro x y notMore
  exact Nat.floor_mono (by linarith)

theorem nearest_natCast (n : Nat) : nearest n = n := by
  rw [nearest, Nat.floor_eq_iff (by positivity)]
  constructor <;> linarith

theorem nearest_div {divisor : Nat} (positive : 0 < divisor) (n : Nat) :
    nearest ((n : Rat) / divisor) = (2 * n + divisor) / (2 * divisor) := by
  have nonzero : (divisor : Rat) ≠ 0 := Nat.cast_ne_zero.mpr positive.ne'
  have halves : (n : Rat) / divisor + 1 / 2 =
      ((2 * n + divisor : Nat) : Rat) / (2 * divisor : Nat) := by
    push_cast
    field_simp
  rw [nearest, halves, Nat.floor_div_eq_div]

section Rational

theorem roundRational_eq (x : Rat) :
    roundRational x = Binary64.signed (x < 0) (nearest |x|) := by
  have quotient : |x| = (x.num.natAbs : Rat) / x.den := by
    rw [Rat.abs_def, Rat.divInt_eq_div]
    push_cast
    norm_num
  rw [quotient, nearest_div x.den_pos, roundRational]

theorem roundRational_of_nonneg {x : Rat} (nonneg : 0 ≤ x) :
    roundRational x = nearest x := by
  rw [roundRational_eq, abs_of_nonneg nonneg, decide_eq_false nonneg.not_gt]
  rfl

theorem roundRational_neg (x : Rat) :
    roundRational (-x) = -roundRational x := by
  rcases lt_trichotomy x 0 with negative | rfl | positive
  · rw [roundRational_of_nonneg (neg_nonneg.mpr negative.le), roundRational_eq,
      abs_of_neg negative, decide_eq_true negative, Binary64.signed, if_pos rfl,
      neg_neg]
  · rfl
  · rw [roundRational_of_nonneg positive.le, roundRational_eq, abs_neg,
      abs_of_pos positive, decide_eq_true (neg_neg_of_pos positive)]
    rfl

theorem roundRational_mono : Monotone roundRational := by
  refine monotone_of_odd_of_monotoneOn_nonneg roundRational_neg ?_
  intro x nonneg y nonnegToo notMore
  rw [roundRational_of_nonneg nonneg, roundRational_of_nonneg nonnegToo]
  exact Int.ofNat_le.mpr (nearest_mono notMore)

end Rational

namespace Binary64

/-- The number that a finite floating-point number stands for. -/
def rational? : Binary64 → Option Rat
  | notANumber => none
  | infinite _ => none
  | finite negative mantissa exponent =>
    let magnitude : Rat := mantissa * 2 ^ exponent
    some (if negative then -magnitude else magnitude)

theorem magnitude_nonneg (mantissa : Nat) (exponent : Int) :
    0 ≤ (mantissa : Rat) * 2 ^ exponent :=
  mul_nonneg (Nat.cast_nonneg _) (zpow_nonneg zero_le_two _)

/-- A magnitude with a negative exponent is a quotient. -/
theorem magnitude_of_neg {exponent : Int} (negative : ¬ 0 ≤ exponent)
    (mantissa : Nat) :
    (mantissa : Rat) * 2 ^ exponent =
      mantissa / (Nat.pow 2 (-exponent).toNat : Nat) := by
  have isPower : exponent = -((-exponent).toNat : Int) := by omega
  conv_lhs => rw [isPower]
  rw [zpow_neg, zpow_natCast, ← div_eq_mul_inv, Nat.pow_eq, Nat.cast_pow,
    Nat.cast_ofNat]

/-- A magnitude with any other exponent is an integer. -/
theorem magnitude_of_nonneg {exponent : Int} (nonneg : 0 ≤ exponent)
    (mantissa : Nat) :
    (mantissa : Rat) * 2 ^ exponent =
      (mantissa * Nat.pow 2 exponent.toNat : Nat) := by
  have isPower : exponent = (exponent.toNat : Int) := by omega
  conv_lhs => rw [isPower]
  rw [zpow_natCast, Nat.pow_eq, Nat.cast_mul, Nat.cast_pow, Nat.cast_ofNat]

/-- The nearest integer of a finite number is that of the number it stands
for. -/
theorem round_eq {number : Binary64} {x : Rat}
    (exact : number.rational? = some x) :
    number.round = .integer (roundRational x) := by
  cases number with
  | notANumber => simp [rational?] at exact
  | infinite negative => simp [rational?] at exact
  | finite negative mantissa exponent =>
      have nonneg := magnitude_nonneg mantissa exponent
      have rounded : roundRational x =
          signed negative (nearest (mantissa * 2 ^ exponent)) := by
        obtain rfl := Option.some.inj exact
        cases negative with
        | false => exact roundRational_of_nonneg nonneg
        | true =>
            rw [if_pos rfl, roundRational_neg, roundRational_of_nonneg nonneg]
            rfl
      rw [rounded, round]
      split
      · next whole => rw [magnitude_of_nonneg whole, nearest_natCast]
      · next below =>
          have scale : 0 < Nat.pow 2 (-exponent).toNat :=
            Nat.pow_pos (Nat.succ_pos 1)
          rw [magnitude_of_neg below, nearest_div scale]

theorem towardZero_signed (negative : Bool) {x : Rat} (nonneg : 0 ≤ x) :
    towardZero (if negative then -x else x) = signed negative ⌊x⌋₊ := by
  have floors : (⌊x⌋₊ : Int) = ⌊x⌋ := Int.natCast_floor_eq_floor nonneg
  rw [towardZero]
  cases negative with
  | false =>
      simp only [Bool.false_eq_true, if_false, if_pos nonneg, signed, floors]
  | true =>
      simp only [if_true, signed, floors, Int.ceil_neg]
      split
      · next nonpos =>
          obtain rfl : x = 0 := by linarith
          simp
      · rfl

/-- The integer part of a finite number is that of the number it stands for. -/
theorem truncate?_eq (number : Binary64) :
    number.truncate? = number.rational?.map towardZero := by
  cases number with
  | notANumber => rfl
  | infinite negative => rfl
  | finite negative mantissa exponent =>
      have nonneg := magnitude_nonneg mantissa exponent
      rw [rational?, Option.map_some, towardZero_signed negative nonneg,
        truncate?]
      split
      · next whole => rw [magnitude_of_nonneg whole, Nat.floor_natCast]
      · next below => rw [magnitude_of_neg below, Nat.floor_div_eq_div]

end Binary64

end DrivewayWatch
