import DrivewayWatch.Proofs.Number.Packed

/-!
# Products and quotients of floating-point numbers

A product is computed of the mantissas as they are, a quotient of mantissas one
of which was shifted to the left until there are enough bits.  Either one is the
exact result, rounded once, as what is behind the last bit of a quotient can be
told from the remainder.
-/

namespace DrivewayWatch

namespace Binary64

open Float.Model Float.Model.UnpackedFloat

variable {u : UnpackedFloat} {x : Rat} {m n : Nat} {e f k : Int}

theorem isNegative_mul_positive (sign : Sign) :
    isNegative (sign * .positive) = isNegative sign := by
  cases sign <;> rfl

/-- A product with a positive number of full length is the exact one,
rounded. -/
theorem mul_full (canonical : IsCanonical u)
    (standsFor : (ofUnpacked u).rational? = some x) (isPositive : 0 < n)
    (full : 2 ^ 52 ≤ n) :
    IsCanonical (UnpackedFloat.mul .binary64 u
        (.finite .positive n f isPositive)) ∧
      (ofUnpacked (UnpackedFloat.mul .binary64 u
        (.finite .positive n f isPositive))).rational? =
          some (rounded (x * (n * 2 ^ f))) := by
  cases u with
  | notANumber => cases standsFor
  | infinity sign => cases standsFor
  | zero sign =>
      obtain rfl : 0 = x := by simpa [ofUnpacked, rational?] using standsFor
      refine ⟨trivial, ?_⟩
      rw [zero_mul, rounded_of_nonneg le_rfl, roundedMagnitude_zero]
      exact rational?_zero _
  | finite sign m e positive =>
      have large : 2 ^ 52 ≤ m * n :=
        full.trans (Nat.le_mul_of_pos_left n positive)
      have stands := stands_exact (m * n)
      obtain ⟨productCanonical, value⟩ :=
        roundWithAccuracy_eq (sign * .positive) stands (by omega)
          (le_place (e := e + f) stands large)
      refine ⟨productCanonical, value.trans ?_⟩
      have magnitude : ((m * n : Nat) : Rat) * 2 ^ (e + f) =
          m * 2 ^ e * (n * 2 ^ f) := by
        rw [zpow_add₀ two_ne_zero]
        push_cast
        ring
      rw [isNegative_mul_positive, magnitude, ← Option.some.inj standsFor]
      cases isNegative sign with
      | false => rfl
      | true => simp only [if_true, neg_mul]

theorem exists_magnitude (standsFor : (ofUnpacked u).rational? = some x)
    (xPositive : 0 < x) :
    ∃ m e positive, u = .finite .positive m e positive ∧ x = m * 2 ^ e := by
  cases u with
  | notANumber => cases standsFor
  | infinity sign => cases standsFor
  | zero sign =>
      rw [ofUnpacked, rational?_zero] at standsFor
      exact absurd (Option.some.inj standsFor) xPositive.ne
  | finite sign m e positive =>
      have value := Option.some.inj standsFor
      cases sign with
      | positive => exact ⟨m, e, positive, rfl, value.symm⟩
      | negative =>
          have nonpos : x ≤ 0 :=
            value.symm.trans_le (neg_nonpos.mpr (magnitude_nonneg m e))
          exact absurd xPositive nonpos.not_gt

theorem le_shifted_div {shift : Nat} (mPositive : 0 < m) (nPositive : 0 < n)
    (bits : n.log2 + 53 ≤ m.log2 + shift) : 2 ^ 52 ≤ m * 2 ^ shift / n := by
  rw [Nat.le_div_iff_mul_le nPositive]
  calc 2 ^ 52 * n ≤ 2 ^ 52 * 2 ^ (n.log2 + 1) :=
        Nat.mul_le_mul_left _ Nat.lt_log2_self.le
    _ = 2 ^ (n.log2 + 53) := by
        rw [← pow_add]
        congr 1
        omega
    _ ≤ 2 ^ (m.log2 + shift) := Nat.pow_le_pow_right two_pos bits
    _ = 2 ^ m.log2 * 2 ^ shift := pow_add 2 _ _
    _ ≤ m * 2 ^ shift :=
        Nat.mul_le_mul_right _ (Nat.log2_self_le mPositive.ne')

/-- The quotient that is computed has at least all the bits that are kept. -/
theorem divCore_normal (mPositive : 0 < m) (nPositive : 0 < n)
    (normal : -1022 < m.log2 + e - (n.log2 + f)) :
    ∃ shift : Nat, divCore Format.binary64 m e n f =
        (m * 2 ^ shift / n, e - f - shift,
          accuracyOfFraction (m * 2 ^ shift % n) n) ∧
      2 ^ 52 ≤ m * 2 ^ shift / n := by
  have mantissaBits : Format.binary64.mantissaBits = 53 := rfl
  have minExponent : Format.binary64.minExponent = -1074 := rfl
  obtain ⟨target, isTarget⟩ : ∃ target, target = min (e - f)
      (Format.binary64.targetExponent
        (totalExponent m e - totalExponent n f)) :=
    ⟨_, rfl⟩
  have target_le : target ≤ m.log2 + e - (n.log2 + f) - 53 := by
    rw [isTarget, Format.targetExponent, totalExponent, totalExponent,
      mantissaBits, minExponent]
    omega
  have early : target ≤ e - f := isTarget ▸ min_le_left _ _
  obtain ⟨shift, isShift⟩ : ∃ shift : Nat, e - f - target = shift :=
    ⟨(e - f - target).toNat, by omega⟩
  refine ⟨shift, ?_, le_shifted_div mPositive nPositive (by omega)⟩
  have atTarget : target = e - f - shift := by omega
  rw [divCore, ← isTarget, isShift, Int.toNat_natCast, Nat.shiftLeft_eq,
    atTarget]

theorem magnitude_div (shift : Nat) :
    ((m * 2 ^ shift : Nat) : Rat) / n * 2 ^ (e - f - shift) =
      m * 2 ^ e / (n * 2 ^ f) := by
  have exponents : (2 : Rat) ^ shift * 2 ^ (e - f - shift) = 2 ^ (e - f) := by
    rw [← two_zpow_add_nat, sub_add_cancel]
  rw [mul_div_mul_comm, ← zpow_sub₀ two_ne_zero, ← exponents]
  push_cast
  ring

/-- A quotient that is not too small is the exact one, rounded. -/
theorem div_normal (standsFor : (ofUnpacked u).rational? = some x)
    (notLess : 2 ^ k ≤ x) (isPositive : 0 < n)
    (normal : -1022 < k - (n.log2 + f)) :
    IsCanonical (UnpackedFloat.div .binary64 u
        (.finite .positive n f isPositive)) ∧
      (ofUnpacked (UnpackedFloat.div .binary64 u
        (.finite .positive n f isPositive))).rational? =
          some (rounded (x / (n * 2 ^ f))) := by
  have xPositive : 0 < x := (two_zpow_pos k).trans_le notLess
  obtain ⟨m, e, positive, rfl, rfl⟩ := exists_magnitude standsFor xPositive
  have log : k ≤ m.log2 + e := by
    rw [← log_magnitude positive le_rfl (lt_add_one _)]
    exact (Int.zpow_le_iff_le_log one_lt_two xPositive).mp notLess
  obtain ⟨shift, core, large⟩ :=
    divCore_normal (e := e) (f := f) positive isPositive (by omega)
  have stands := stands_quotient (m * 2 ^ shift) isPositive
  rw [UnpackedFloat.div, core, ← magnitude_div shift]
  exact roundWithAccuracy_eq (.positive / .positive) stands (by omega)
    (le_place stands large)

end Binary64

open Float.Model.UnpackedFloat in
/-- A floating-point number of full length that stands for a positive one. -/
def IsFactor (factor : Float) (k : Rat) : Prop :=
  ∃ (n : Nat) (f : Int) (positive : 0 < n),
    factor.toModel.unpack = .finite .positive n f positive ∧ 2 ^ 52 ≤ n ∧
      (n : Rat) * 2 ^ f = k

theorem IsFactor.pos {factor : Float} {k : Rat} (isFactor : IsFactor factor k) :
    0 < k := by
  obtain ⟨n, f, positive, -, -, rfl⟩ := isFactor
  exact mul_pos (Nat.cast_pos.mpr positive) (Binary64.two_zpow_pos f)

end DrivewayWatch
