import DrivewayWatch.Proofs.Number.Rounding
import Mathlib

/-!
# Floating-point numbers taken apart

The operations on `Float` are defined on unpacked numbers, a sign, a mantissa and
an exponent each.  Those that come of patterns of bits are canonical, and for
canonical numbers the order is that of the rational numbers they stand for.  An
operation rounds its exact result by shifting the mantissa to the right; the two
bits that it keeps behind the mantissa tell on which side of the half the exact
result is.
-/

namespace DrivewayWatch.Binary64

open Float.Model Float.Model.UnpackedFloat

section ExtendedMantissa

/-- What the bit behind the last one is worth. -/
def half (bit : Bool) : Rat :=
  if bit then 1 / 2 else 0

@[simp]
theorem half_false : half false = 0 :=
  rfl

@[simp]
theorem half_true : half true = 1 / 2 :=
  rfl

theorem half_mod_two (n : Nat) : half (n % 2 != 0) = (n % 2 : Nat) / 2 := by
  rcases Nat.mod_two_eq_zero_or_one n with even | odd
  · simp [even]
  · simp [odd]

theorem half_nonneg (bit : Bool) : 0 ≤ half bit := by
  cases bit <;> norm_num

theorem half_le (bit : Bool) : half bit ≤ 1 / 2 := by
  cases bit <;> norm_num

/-- An extended mantissa stands for the numbers that have its bits and, exactly
if the sticky one is set, something but zeros behind them. -/
def Stands (extended : ExtendedMantissa) (x : Rat) : Prop :=
  ∃ rest, x = extended.mantissa + half extended.roundBit + rest ∧
    0 ≤ rest ∧ rest < 1 / 2 ∧ (extended.stickyBit = true ↔ 0 < rest)

variable {extended : ExtendedMantissa} {x : Rat}

theorem stands_exact (n : Nat) :
    Stands (.ofMantissaAndAccuracy n .exact) n := by
  refine ⟨0, ?_, le_rfl, by norm_num, ?_⟩
  · simp [ExtendedMantissa.ofMantissaAndAccuracy]
  · simp [ExtendedMantissa.ofMantissaAndAccuracy]

theorem mantissa_ofMantissaAndAccuracy (m : Nat) (accuracy : Accuracy) :
    (ExtendedMantissa.ofMantissaAndAccuracy m accuracy).mantissa = m := by
  cases accuracy with
  | exact => rfl
  | inexact order => cases order <;> rfl

theorem Stands.bounds {m : Nat} {accuracy : Accuracy}
    (stands : Stands (.ofMantissaAndAccuracy m accuracy) x) :
    (m : Rat) ≤ x ∧ x < m + 1 := by
  obtain ⟨rest, value, nonneg, below, -⟩ := stands
  rw [mantissa_ofMantissaAndAccuracy] at value
  generalize ExtendedMantissa.roundBit _ = roundBit at value
  have roundNonneg := half_nonneg roundBit
  have roundLe := half_le roundBit
  constructor <;> linarith

theorem stands_inexact (m : Nat) {behind : Rat} (positive : 0 < behind)
    (less : behind < 1) :
    Stands (.ofMantissaAndAccuracy m (.inexact (compare behind (1 / 2))))
      (m + behind) := by
  rcases lt_trichotomy behind (1 / 2) with isLess | isHalf | isGreater
  · rw [compare_lt_iff_lt.mpr isLess]
    refine ⟨behind, ?_, positive.le, isLess, fun _ => positive, fun _ => rfl⟩
    rw [ExtendedMantissa.ofMantissaAndAccuracy, half_false, add_zero]
  · rw [compare_eq_iff_eq.mpr isHalf]
    refine ⟨0, ?_, le_rfl, by norm_num, nofun, fun absurd => absurd.false.elim⟩
    rw [ExtendedMantissa.ofMantissaAndAccuracy, half_true, add_zero, isHalf]
  · rw [compare_gt_iff_gt.mpr isGreater]
    have rest : 0 < behind - 1 / 2 := sub_pos.mpr isGreater
    refine ⟨behind - 1 / 2, ?_, rest.le, by linarith, fun _ => rest,
      fun _ => rfl⟩
    rw [ExtendedMantissa.ofMantissaAndAccuracy, half_true]
    ring

/-- The remainder of a division tells what is behind its quotient. -/
theorem stands_quotient (n : Nat) {d : Nat} (positive : 0 < d) :
    Stands (.ofMantissaAndAccuracy (n / d) (accuracyOfFraction (n % d) d))
      ((n : Rat) / d) := by
  have divisor : (0 : Rat) < d := Nat.cast_pos.mpr positive
  have quotient : (n : Rat) / d = (n / d : Nat) + (n % d : Nat) / d := by
    rw [div_eq_iff divisor.ne', add_mul, div_mul_cancel₀ _ divisor.ne']
    exact_mod_cast (Nat.div_add_mod' n d).symm
  have less : ((n % d : Nat) : Rat) / d < 1 := by
    rw [div_lt_one divisor]
    exact Nat.cast_lt.mpr (Nat.mod_lt n positive)
  rw [quotient, accuracyOfFraction]
  split_ifs with isZero
  · rw [isZero, Nat.cast_zero, zero_div, add_zero]
    exact stands_exact _
  · have some : 0 < ((n % d : Nat) : Rat) / d :=
      div_pos (Nat.cast_pos.mpr (Nat.pos_of_ne_zero isZero)) divisor
    have sameOrder : compare (2 * (n % d)) d =
        compare (((n % d : Nat) : Rat) / d) (1 / 2) := by
      have isLess : ((n % d : Nat) : Rat) / d < 1 / 2 ↔ 2 * (n % d) < d := by
        rw [div_lt_div_iff₀ divisor two_pos, one_mul, mul_comm]
        exact_mod_cast Iff.rfl
      have isHalf : ((n % d : Nat) : Rat) / d = 1 / 2 ↔ 2 * (n % d) = d := by
        rw [div_eq_div_iff divisor.ne' two_ne_zero, one_mul, mul_comm]
        exact_mod_cast Iff.rfl
      simp only [LinearOrder.compare_eq_compareOfLessAndEq,
        compareOfLessAndEq, isLess, isHalf]
    rw [sameOrder]
    exact stands_inexact _ some less

theorem Stands.shiftRightOne (stands : Stands extended x) :
    Stands extended.shiftRightOne (x / 2) := by
  obtain ⟨mantissa, roundBit, stickyBit⟩ := extended
  obtain ⟨rest, value, nonneg, below, sticky⟩ := stands
  have bits : (mantissa : Rat) =
      2 * (mantissa / 2 : Nat) + (mantissa % 2 : Nat) := by
    exact_mod_cast (Nat.div_add_mod mantissa 2).symm
  have roundNonneg := half_nonneg roundBit
  have roundLe := half_le roundBit
  refine ⟨(half roundBit + rest) / 2, ?_, by linarith, by linarith, ?_⟩
  · simp only [ExtendedMantissa.shiftRightOne, half_mod_two]
    simp only at value
    linarith
  · cases roundBit with
    | false => simpa [ExtendedMantissa.shiftRightOne] using sticky
    | true =>
        have positive : 0 < (half true + rest) / 2 := by
          rw [half_true]
          linarith
        exact ⟨fun _ => positive, fun _ => rfl⟩

theorem Stands.shiftRight (stands : Stands extended x) (bits : Nat) :
    Stands (extended >>> bits) (x / 2 ^ bits) := by
  induction bits with
  | zero =>
      rw [pow_zero, div_one]
      exact stands
  | succ bits ih =>
      rw [pow_succ, ← div_div]
      exact ih.shiftRightOne

theorem Stands.roundedMantissa_eq (stands : Stands extended x) :
    extended.roundedMantissa = halfEven x := by
  obtain ⟨mantissa, roundBit, stickyBit⟩ := extended
  obtain ⟨rest, value, nonneg, below, sticky⟩ := stands
  simp only at value sticky
  have roundNonneg := half_nonneg roundBit
  have roundLe := half_le roundBit
  have floor : ⌊x⌋₊ = mantissa := by
    have mantissaNonneg := Nat.cast_nonneg (α := Rat) mantissa
    rw [Nat.floor_eq_iff (by linarith)]
    constructor <;> linarith
  have behind : x - ⌊x⌋₊ = half roundBit + rest := by
    rw [floor, value]
    ring
  -- The two bits tell on which side of the half the number is.
  cases roundBit with
  | false =>
      have isBelow : x - ⌊x⌋₊ < 1 / 2 := by
        simpa [behind] using below
      rw [halfEven_of_lt isBelow, floor]
      cases stickyBit <;> rfl
  | true =>
      cases stickyBit with
      | false =>
          have noRest : rest = 0 := by
            simpa using nonneg.antisymm' (by simpa using sticky)
          have isHalf : x - ⌊x⌋₊ = 1 / 2 := by
            simp [behind, noRest]
          rw [halfEven_of_eq isHalf, floor]
          rfl
      | true =>
          have someRest : 0 < rest := sticky.mp rfl
          have isAbove : 1 / 2 < x - ⌊x⌋₊ := by
            simpa [behind] using someRest
          rw [halfEven_of_gt isAbove, floor]
          rfl

end ExtendedMantissa

section Shift

variable {m : Nat} {e target : Int} {accuracy : Accuracy} {x : Rat}

theorem shiftToExponent_of_ge (late : target ≤ e) :
    shiftToExponent m e .exact target = (⟨m, false, false⟩, e) := by
  have noShift : (target - e).toNat = 0 := by omega
  rw [shiftToExponent, noShift]
  exact Prod.ext rfl (add_zero e)

theorem shiftToExponent_of_le
    (stands : Stands (.ofMantissaAndAccuracy m accuracy) x)
    (early : e ≤ target) :
    (shiftToExponent m e accuracy target).2 = target ∧
      Stands (shiftToExponent m e accuracy target).1
        (x * 2 ^ e / 2 ^ target) := by
  obtain ⟨bits, rfl⟩ : ∃ bits : Nat, target = e + bits :=
    ⟨(target - e).toNat, by omega⟩
  have shift : (e + bits - e).toNat = bits := by omega
  have scaled : x * 2 ^ e / 2 ^ (e + bits) = x / 2 ^ bits := by
    rw [two_zpow_add_nat, mul_comm x, mul_comm ((2 : Rat) ^ bits),
      mul_div_mul_left _ _ (two_zpow_pos e).ne']
  rw [shiftToExponent, shift, scaled]
  exact ⟨rfl, stands.shiftRight bits⟩

/-- The first bit of a mantissa tells the magnitude. -/
theorem log_magnitude (positive : 0 < m) (notLess : (m : Rat) ≤ x)
    (below : x < m + 1) : Int.log 2 (x * 2 ^ e) = m.log2 + e := by
  have magnitudePos : 0 < x * 2 ^ e :=
    mul_pos ((Nat.cast_pos.mpr positive).trans_le notLess) (two_zpow_pos e)
  have lower : ((2 ^ m.log2 : Nat) : Rat) ≤ x :=
    (Nat.cast_le.mpr (Nat.log2_self_le positive.ne')).trans notLess
  have upper : x < (2 ^ (m.log2 + 1) : Nat) := by
    refine below.trans_le ?_
    exact_mod_cast Nat.lt_log2_self (n := m)
  push_cast at lower upper
  apply le_antisymm
  · apply Int.lt_add_one_iff.mp
    rw [← Int.lt_zpow_iff_log_lt one_lt_two magnitudePos]
    have exponent : (m.log2 : Int) + e + 1 = e + (m.log2 + 1 : Nat) := by
      push_cast
      ring
    rw [exponent, Nat.cast_ofNat, two_zpow_add_nat]
    exact mul_lt_mul_of_pos_right upper (two_zpow_pos e)
  · rw [← Int.zpow_le_iff_le_log one_lt_two magnitudePos, add_comm,
      Nat.cast_ofNat, two_zpow_add_nat]
    exact mul_le_mul_of_nonneg_right lower (two_zpow_pos e).le

theorem targetExponent_eq (positive : 0 < m) (notLess : (m : Rat) ≤ x)
    (below : x < m + 1) :
    Format.binary64.targetExponent (totalExponent m e) =
      place (x * 2 ^ e) := by
  have mantissaBits : Format.binary64.mantissaBits = 53 := rfl
  have minExponent : Format.binary64.minExponent = -1074 := rfl
  rw [Format.targetExponent, totalExponent, place,
    log_magnitude positive notLess below, mantissaBits, minExponent]
  omega

/-- No bits are wanted in front of a mantissa that has all of them. -/
theorem le_place (stands : Stands (.ofMantissaAndAccuracy m accuracy) x)
    (large : 2 ^ 52 ≤ m) : e ≤ place (x * 2 ^ e) := by
  obtain ⟨notLess, below⟩ := stands.bounds
  have bits : 52 ≤ m.log2 := (Nat.le_log2 (by omega)).mpr large
  rw [place, log_magnitude (by omega) notLess below]
  omega

end Shift

/-- Unpacked numbers as they are read from bits: the mantissa has no more than
53 bits, and it has fewer only where the exponents end. -/
def IsCanonical : UnpackedFloat → Prop
  | .finite _ mantissa exponent _ => mantissa < 2 ^ 53 ∧ -1074 ≤ exponent ∧
      (exponent = -1074 ∨ 2 ^ 52 ≤ mantissa)
  | _ => True

def isNegative : Sign → Bool
  | .negative => true
  | .positive => false

def ofUnpacked : UnpackedFloat → Binary64
  | .notANumber => notANumber
  | .infinity sign => infinite (isNegative sign)
  | .zero sign => finite (isNegative sign) 0 (-1074)
  | .finite sign mantissa exponent _ =>
      finite (isNegative sign) mantissa exponent

section Order

variable {m n : Nat} {e f : Int}

/-- The magnitude with the lesser exponent is not the greater one. -/
theorem magnitude_le (small : m < 2 ^ 53) (inRange : -1074 ≤ e)
    (full : f = -1074 ∨ 2 ^ 52 ≤ n) (order : e < f ∨ e = f ∧ m ≤ n) :
    (m : Rat) * 2 ^ e ≤ n * 2 ^ f := by
  rcases order with earlier | ⟨rfl, notMore⟩
  · have large : 2 ^ 52 ≤ n := full.resolve_left (by omega)
    have next : e + (1 : Nat) ≤ f := by omega
    calc (m : Rat) * 2 ^ e ≤ 2 ^ 53 * 2 ^ e :=
          mul_le_mul_of_nonneg_right (by exact_mod_cast small.le)
            (two_zpow_pos e).le
      _ = 2 ^ 52 * 2 ^ (e + (1 : Nat)) := by
          rw [two_zpow_add_nat]
          ring
      _ ≤ 2 ^ 52 * 2 ^ f :=
          mul_le_mul_of_nonneg_left (zpow_le_zpow_right₀ one_le_two next)
            (by positivity)
      _ ≤ n * 2 ^ f :=
          mul_le_mul_of_nonneg_right (by exact_mod_cast large)
            (two_zpow_pos f).le
  · exact mul_le_mul_of_nonneg_right (Nat.cast_le.mpr notMore)
      (two_zpow_pos e).le

theorem isLE_compare_iff :
    ((compare e f).then (compare m n)).isLE = true ↔
      e < f ∨ e = f ∧ m ≤ n := by
  rw [Ordering.isLE_then_iff_or, compare_lt_iff_lt, compare_eq_iff_eq,
    Std.isLE_compare]

theorem rational?_zero (negative : Bool) :
    (finite negative 0 e).rational? = some 0 := by
  simp [rational?]

/-- The order of unpacked numbers is that of the numbers they stand for, with
the infinities at its ends. -/
theorem le_cases {u v : UnpackedFloat} (first : IsCanonical u)
    (second : IsCanonical v) (notMore : u.le v = true) :
    ofUnpacked u = infinite true ∨ ofUnpacked v = infinite false ∨
      ∃ x y, (ofUnpacked u).rational? = some x ∧
        (ofUnpacked v).rational? = some y ∧ x ≤ y := by
  cases u with
  | notANumber => cases notMore
  | infinity sign =>
      cases sign with
      | negative => exact .inl rfl
      | positive =>
          cases v with
          | infinity sign =>
              cases sign with
              | negative => cases notMore
              | positive => exact .inr (.inl rfl)
          | _ => cases notMore
  | zero sign =>
      cases v with
      | notANumber => cases notMore
      | infinity sign =>
          cases sign with
          | negative => cases notMore
          | positive => exact .inr (.inl rfl)
      | zero _ =>
          exact .inr (.inr ⟨0, 0, rational?_zero _, rational?_zero _, le_rfl⟩)
      | finite sign n f _ =>
          cases sign with
          | negative => cases notMore
          | positive =>
              exact .inr (.inr ⟨0, _, rational?_zero _, rfl,
                magnitude_nonneg n f⟩)
  | finite sign m e _ =>
      cases v with
      | notANumber => cases sign <;> cases notMore
      | infinity other =>
          cases other with
          | negative => cases sign <;> cases notMore
          | positive => exact .inr (.inl rfl)
      | zero _ =>
          cases sign with
          | negative =>
              exact .inr (.inr ⟨_, 0, rfl, rational?_zero _,
                neg_nonpos.mpr (magnitude_nonneg m e)⟩)
          | positive => cases notMore
      | finite other n f _ =>
          refine .inr (.inr ⟨_, _, rfl, rfl, ?_⟩)
          obtain ⟨mSmall, eInRange, mFull⟩ := first
          obtain ⟨nSmall, fInRange, nFull⟩ := second
          cases sign with
          | negative =>
              cases other with
              | negative =>
                  have order : ((compare e f).then (compare m n)).swap.isLE =
                      true := notMore
                  rw [Ordering.swap_then, Int.compare_swap, Nat.compare_swap,
                    isLE_compare_iff] at order
                  exact neg_le_neg (magnitude_le nSmall fInRange mFull order)
              | positive =>
                  exact (neg_nonpos.mpr (magnitude_nonneg m e)).trans
                    (magnitude_nonneg n f)
          | positive =>
              cases other with
              | negative => cases notMore
              | positive =>
                  have order : ((compare e f).then (compare m n)).isLE = true :=
                    notMore
                  rw [isLE_compare_iff] at order
                  exact magnitude_le mSmall eInRange nFull order

end Order

section Round

variable {sign : Sign} {m : Nat} {e : Int} {accuracy : Accuracy} {x : Rat}

/-- A mantissa that is already rounded stays as it is.  Only if it has grown by a
bit it loses one again. -/
theorem shiftToTargetExponent_exact (small : m ≤ 2 ^ 53) (inRange : -1074 ≤ e) :
    (shiftToTargetExponent Format.binary64 m e .exact = (⟨m, false, false⟩, e) ∧
      m < 2 ^ 53) ∨
    (shiftToTargetExponent Format.binary64 m e .exact =
      (⟨2 ^ 52, false, false⟩, e + 1) ∧ m = 2 ^ 53) := by
  have mantissaBits : Format.binary64.mantissaBits = 53 := rfl
  have minExponent : Format.binary64.minExponent = -1074 := rfl
  rcases small.lt_or_eq with less | rfl
  · refine .inl ⟨shiftToExponent_of_ge ?_, less⟩
    have bits : m.log2 ≤ 52 := by
      rcases m.eq_zero_or_pos with rfl | positive
      · decide
      · exact Nat.lt_succ_iff.mp ((Nat.log2_lt positive.ne').mpr less)
    rw [Format.targetExponent, totalExponent, mantissaBits, minExponent]
    omega
  · refine .inr ⟨?_, rfl⟩
    have target : Format.binary64.targetExponent (totalExponent (2 ^ 53) e) =
        e + 1 := by
      have bits : Nat.log2 (2 ^ 53) = 53 := by decide +kernel
      rw [Format.targetExponent, totalExponent, mantissaBits, minExponent, bits]
      omega
    have shift : (e + 1 - e).toNat = 1 := by omega
    rw [shiftToTargetExponent, target, shiftToExponent, shift]
    rfl

theorem roundWithAccuracy_of_shifts {first second : ExtendedMantissa}
    {firstExponent secondExponent : Int}
    (shifted : shiftToTargetExponent Format.binary64 m e accuracy =
      (first, firstExponent))
    (again : shiftToTargetExponent Format.binary64 first.roundedMantissa
      firstExponent .exact = (second, secondExponent)) :
    roundWithAccuracy Format.binary64 sign m e accuracy =
      if isZero : second.mantissa = 0 then .zero sign
      else .finite sign second.mantissa secondExponent
        (Nat.pos_of_ne_zero isZero) := by
  simp only [roundWithAccuracy, shifted, again]

/-- A magnitude with a sign is rounded like the magnitude. -/
theorem rational?_rounded (negative : Bool) {n : Nat} {t : Int}
    (nonneg : 0 ≤ x) (value : (n : Rat) * 2 ^ t = roundedMagnitude x) :
    (finite negative n t).rational? =
      some (rounded (if negative then -x else x)) := by
  rw [rational?, value]
  cases negative with
  | false => rw [if_neg Bool.false_ne_true, if_neg Bool.false_ne_true,
      rounded_of_nonneg nonneg]
  | true => rw [if_pos rfl, if_pos rfl, rounded_neg, rounded_of_nonneg nonneg]

/-- What a mantissa with its accuracy stands for is rounded as a whole. -/
theorem roundWithAccuracy_eq (sign : Sign)
    (stands : Stands (.ofMantissaAndAccuracy m accuracy) x)
    (positive : 0 < m) (early : e ≤ place (x * 2 ^ e)) :
    IsCanonical (roundWithAccuracy Format.binary64 sign m e accuracy) ∧
      (ofUnpacked
        (roundWithAccuracy Format.binary64 sign m e accuracy)).rational? =
        some (rounded
          (if isNegative sign then -(x * 2 ^ e) else x * 2 ^ e)) := by
  obtain ⟨notLess, below⟩ := stands.bounds
  have shifted : shiftToTargetExponent Format.binary64 m e accuracy =
      shiftToExponent m e accuracy (place (x * 2 ^ e)) := by
    rw [shiftToTargetExponent, targetExponent_eq positive notLess below]
  obtain ⟨atPlace, shiftedStands⟩ := shiftToExponent_of_le stands early
  have kept := shiftedStands.roundedMantissa_eq
  rw [← shifted] at atPlace kept
  have first : shiftToTargetExponent Format.binary64 m e accuracy =
      ((shiftToTargetExponent Format.binary64 m e accuracy).1,
        place (x * 2 ^ e)) :=
    Prod.ext rfl atPlace
  have magnitudePos : 0 < x * 2 ^ e :=
    mul_pos ((Nat.cast_pos.mpr positive).trans_le notLess) (two_zpow_pos e)
  have inRange : -1074 ≤ place (x * 2 ^ e) := le_max_right _ _
  have small := halfEven_place_le (x * 2 ^ e)
  rcases shiftToTargetExponent_exact small inRange with
    ⟨again, less⟩ | ⟨again, full⟩
  · rw [← kept] at again
    rw [roundWithAccuracy_of_shifts first again]
    split
    · next isZero =>
        have nothing : halfEven (x * 2 ^ e / 2 ^ place (x * 2 ^ e)) = 0 :=
          kept.symm.trans isZero
        refine ⟨trivial, rational?_rounded _ magnitudePos.le ?_⟩
        rw [roundedMagnitude, nothing, Nat.cast_zero, zero_mul, zero_mul]
    · refine ⟨⟨kept ▸ less, inRange, ?_⟩,
        rational?_rounded _ magnitudePos.le ?_⟩
      · rcases inRange.eq_or_lt with last | above
        · exact .inl last.symm
        · exact .inr (kept ▸ le_halfEven_place magnitudePos above)
      · rw [roundedMagnitude, kept]
  · rw [← kept] at again
    rw [roundWithAccuracy_of_shifts first again, dif_neg (by norm_num)]
    refine ⟨⟨by norm_num, by omega, .inr le_rfl⟩,
      rational?_rounded _ magnitudePos.le ?_⟩
    rw [roundedMagnitude, full, zpow_add_one₀ two_ne_zero]
    push_cast
    ring

end Round

end DrivewayWatch.Binary64
