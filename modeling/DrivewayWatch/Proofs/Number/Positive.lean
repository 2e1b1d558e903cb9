import DrivewayWatch.Proofs.Number.Operations

/-!
# Positive floating-point numbers

A number that is not less than a power of two is not less than it after it was
rounded either, unless bits are missing to it because it is too small.  So
positive natural numbers, and their quotients by numbers that are not too large,
do not become zero.
-/

namespace DrivewayWatch

open Float.Model Float.Model.UnpackedFloat

namespace Binary64

variable {u : UnpackedFloat} {x : Rat} {k : Int}

theorem le_rounded (normal : -1022 < k) (notLess : 2 ^ k ≤ x) :
    2 ^ k ≤ rounded x := by
  have positive : 0 < x := (two_zpow_pos k).trans_le notLess
  have log : k ≤ Int.log 2 x :=
    (Int.zpow_le_iff_le_log one_lt_two positive).mp notLess
  have above : -1074 < place x := by
    unfold place
    omega
  have exponent : k ≤ place x + (52 : Nat) := by
    unfold place
    omega
  rw [rounded_of_nonneg positive.le]
  exact (zpow_le_zpow_right₀ one_le_two exponent).trans
    (le_roundedMagnitude positive above)

/-- Whether a number is infinite or not less than a power of two. -/
def IsAtLeast (k : Int) (number : Binary64) : Prop :=
  number = infinite false ∨ ∃ x, number.rational? = some x ∧ 2 ^ k ≤ x

/-- Packing keeps numbers, or makes them infinite. -/
theorem isAtLeast_pack (canonical : IsCanonical u)
    (standsFor : (ofUnpacked u).rational? = some x) (notLess : 2 ^ k ≤ x) :
    IsAtLeast k (ofBits (UnpackedFloat.pack .binary64 u).toNat) := by
  obtain ⟨m, e, positive, rfl, rfl⟩ :=
    exists_magnitude standsFor ((two_zpow_pos k).trans_le notLess)
  rw [ofBits_pack_finite .positive positive canonical]
  split
  · exact .inl rfl
  · exact .inr ⟨_, rfl, notLess⟩

theorem isAtLeast_roundWithAccuracy {m : Nat} {e : Int} {accuracy : Accuracy}
    (stands : Stands (.ofMantissaAndAccuracy m accuracy) x) (positive : 0 < m)
    (early : e ≤ place (x * 2 ^ e)) (normal : -1022 < k)
    (notLess : 2 ^ k ≤ x * 2 ^ e) :
    IsAtLeast k (ofBits (UnpackedFloat.pack .binary64
      (roundWithAccuracy .binary64 .positive m e accuracy)).toNat) := by
  obtain ⟨canonical, value⟩ :=
    roundWithAccuracy_eq .positive stands positive early
  exact isAtLeast_pack canonical value (le_rounded normal notLess)

theorem isAtLeast_round {n : Nat} (positive : 0 < n) :
    IsAtLeast 0 (ofBits (UnpackedFloat.pack .binary64
      (UnpackedFloat.round .binary64 .positive n 0)).toNat) := by
  have target := targetExponent_eq (e := 0) positive le_rfl (lt_add_one _)
  obtain ⟨shift, isShift⟩ :
      ∃ shift, shift = (0 - place ((n : Rat) * 2 ^ (0 : Int))).toNat :=
    ⟨_, rfl⟩
  have value : ((n * 2 ^ shift : Nat) : Rat) * 2 ^ (0 - shift : Int) =
      n * 2 ^ (0 : Int) := by
    have powers :
        (2 : Rat) ^ shift * 2 ^ (0 - shift : Int) = 2 ^ (0 : Int) := by
      rw [← two_zpow_add_nat, sub_add_cancel]
    rw [← powers]
    push_cast
    ring
  rw [UnpackedFloat.round, decreaseExponent, target, ← isShift,
    Nat.shiftLeft_eq]
  refine isAtLeast_roundWithAccuracy (stands_exact (n * 2 ^ shift))
    (by positivity) ?_ (by norm_num) ?_
  · rw [value]
    omega
  · rw [value, zpow_zero, mul_one]
    exact_mod_cast positive

theorem isAtLeast_ofScientific {n : Nat} (positive : 0 < n) :
    IsAtLeast 0 (ofBits (UnpackedFloat.pack .binary64
      (UnpackedFloat.ofScientific .binary64 n 0)).toNat) := by
  have inRange : ¬ (0 : Int) < -(2 ^ 11 + n.log2) := by omega
  have mantissa : n <<< 53 * 10 ^ 0 = n * 2 ^ 53 := by
    rw [pow_zero, mul_one, Nat.shiftLeft_eq]
  have large : 2 ^ 52 ≤ n <<< 53 * 10 ^ 0 := by omega
  have stands := stands_exact (n <<< 53 * 10 ^ 0)
  have value : ((n <<< 53 * 10 ^ 0 : Nat) : Rat) * 2 ^ (-53 + 0 : Int) = n := by
    rw [mantissa]
    push_cast
    rw [mul_assoc]
    norm_num
  rw [UnpackedFloat.ofScientific, dif_neg positive.ne', if_neg (by decide),
    if_neg inRange, if_pos le_rfl, UnpackedFloat.mul]
  have notLess : 2 ^ (0 : Int) ≤
      ((n <<< 53 * 10 ^ 0 : Nat) : Rat) * 2 ^ (-53 + 0 : Int) := by
    rw [value, zpow_zero]
    exact_mod_cast positive
  exact isAtLeast_roundWithAccuracy stands
    (Nat.lt_of_lt_of_le (by norm_num) large) (le_place stands large)
    (by norm_num) notLess

theorem eq_infinity (isInfinite : ofUnpacked u = infinite false) :
    u = .infinity .positive := by
  cases u with
  | infinity sign => cases sign <;> first | rfl | cases isInfinite
  | _ => cases isInfinite

theorem isAtLeast_infinity :
    IsAtLeast k
      (ofBits (UnpackedFloat.pack .binary64 (.infinity .positive)).toNat) :=
  .inl (ofBits_pack_infinity .positive)

theorem ofFloat_eq (number : Float) :
    ofFloat number = ofUnpacked number.toModel.unpack :=
  (ofUnpacked_unpack _).symm

end Binary64

open Binary64

section Arithmetic

variable {amount factor : Float} {k j : Int} {c : Rat}

theorem isAtLeast_mul (isAtLeast : IsAtLeast k (ofFloat amount))
    (isFactor : IsFactor factor c) (notLess : 2 ^ j ≤ c)
    (normal : -1022 < k + j) :
    IsAtLeast (k + j) (ofFloat (amount * factor)) := by
  obtain ⟨n, f, positive, unpacked, full, rfl⟩ := isFactor
  change IsAtLeast (k + j) (ofBits (UnpackedFloat.pack .binary64
    (UnpackedFloat.mul .binary64 amount.toModel.unpack
      factor.toModel.unpack)).toNat)
  rw [ofFloat_eq] at isAtLeast
  rw [unpacked]
  rcases isAtLeast with isInfinite | ⟨x, standsFor, lower⟩
  · rw [eq_infinity isInfinite]
    exact isAtLeast_infinity
  · obtain ⟨canonical, value⟩ :=
      mul_full (isCanonical_unpack _) standsFor positive full
    refine isAtLeast_pack canonical value (le_rounded normal ?_)
    rw [zpow_add₀ two_ne_zero]
    exact mul_le_mul lower notLess (two_zpow_pos j).le
      ((two_zpow_pos k).le.trans lower)

theorem isAtLeast_div (isAtLeast : IsAtLeast k (ofFloat amount))
    (isFactor : IsFactor factor c) (notMore : c ≤ 2 ^ j)
    (normal : -1022 < k - j) :
    IsAtLeast (k - j) (ofFloat (amount / factor)) := by
  have cPositive := isFactor.pos
  obtain ⟨n, f, positive, unpacked, full, rfl⟩ := isFactor
  change IsAtLeast (k - j) (ofBits (UnpackedFloat.pack .binary64
    (UnpackedFloat.div .binary64 amount.toModel.unpack
      factor.toModel.unpack)).toNat)
  have log : n.log2 + f ≤ j := by
    rw [← log_magnitude positive le_rfl (lt_add_one _),
      ← Int.log_zpow (R := Rat) one_lt_two j, Nat.cast_ofNat]
    exact Int.log_mono_right cPositive notMore
  rw [ofFloat_eq] at isAtLeast
  rw [unpacked]
  rcases isAtLeast with isInfinite | ⟨x, standsFor, lower⟩
  · rw [eq_infinity isInfinite]
    exact isAtLeast_infinity
  · obtain ⟨canonical, value⟩ :=
      div_normal (f := f) standsFor lower positive (by omega)
    refine isAtLeast_pack canonical value (le_rounded normal ?_)
    rw [zpow_sub₀ two_ne_zero]
    exact div_le_div₀ ((two_zpow_pos k).le.trans lower) lower cPositive notMore

theorem isAtLeast_ofUInt64 {n : Nat} (positive : 0 < n) (small : n < 2 ^ 64) :
    IsAtLeast 0 (ofFloat n.toUInt64.toFloat) := by
  change IsAtLeast 0 (ofBits (UnpackedFloat.pack .binary64
    (UnpackedFloat.ofNat .binary64 n.toUInt64.toNat)).toNat)
  have kept : n.toUInt64.toNat = n := UInt64.toNat_ofNat_of_lt small
  have isGreater : compare (n : Int) 0 = .gt :=
    compare_gt_iff_gt.mpr (Int.natCast_pos.mpr positive)
  rw [kept, UnpackedFloat.ofNat, UnpackedFloat.ofInt,
    UnpackedFloat.normalize, isGreater]
  exact isAtLeast_round positive

/-- Positive natural numbers are not less than one. -/
theorem isAtLeast_ofNat {n : Nat} (positive : 0 < n) :
    IsAtLeast 0 (ofFloat (Float.ofNat n)) := by
  have one : IsFactor (Float.ofBits 0x3FF0000000000000) 1 :=
    ⟨2 ^ 52, -52, by norm_num, rfl, le_rfl, by norm_num⟩
  -- Up to 53 bits a word is converted and multiplied by one, beyond them the
  -- number itself is rounded.
  by_cases small : n < 2 ^ 53
  · have product : Float.ofNat n =
        n.toUInt64.toFloat * Float.ofBits 0x3FF0000000000000 :=
      dif_pos ⟨small, Nat.zero_le 22⟩
    rw [product]
    exact isAtLeast_mul (j := 0) (isAtLeast_ofUInt64 positive (by omega)) one
      (by norm_num) (by norm_num)
  · have product : Float.ofNat n = .ofModel (Float.Model.ofScientific n 0) :=
      dif_neg (fun inside => small inside.1)
    rw [product]
    exact isAtLeast_ofScientific positive

theorem pos_of_isAtLeast (isAtLeast : IsAtLeast k (ofFloat amount)) :
    0.0 < amount := by
  apply decide_eq_true
  rw [ofFloat_eq] at isAtLeast
  change (UnpackedFloat.zero .positive).lt amount.toModel.unpack = true
  rcases isAtLeast with isInfinite | ⟨x, standsFor, lower⟩
  · rw [eq_infinity isInfinite]
    rfl
  · obtain ⟨m, e, positive, unpacked, -⟩ :=
      exists_magnitude standsFor ((two_zpow_pos k).trans_le lower)
    rw [unpacked]
    rfl

/-- Milliseconds that are not zero are not zero in seconds. -/
theorem seconds_pos {milliseconds : Int} (positive : 0 < milliseconds) :
    0.0 < Float.ofInt milliseconds / 1000.0 := by
  have thousand : IsFactor 1000.0 1000 :=
    ⟨1000 * 2 ^ 43, -43, by norm_num, rfl, by norm_num, by norm_num⟩
  obtain ⟨n, rfl⟩ := Int.eq_ofNat_of_zero_le positive.le
  have isAtLeast : IsAtLeast 0 (ofFloat (Float.ofInt n)) :=
    isAtLeast_ofNat (Int.natCast_pos.mp positive)
  exact pos_of_isAtLeast
    (isAtLeast_div (j := 10) isAtLeast thousand (by norm_num) (by norm_num))

end Arithmetic

end DrivewayWatch
