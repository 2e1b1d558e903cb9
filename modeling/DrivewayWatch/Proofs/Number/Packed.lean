import DrivewayWatch.Proofs.Number.Unpacked

/-!
# Floating-point numbers in bits

What is read from bits is canonical, and canonical numbers are read as they were
packed.  Only a number whose exponent is too large for its field comes back as
an infinity.
-/

namespace DrivewayWatch.Binary64

open Float.Model Float.Model.UnpackedFloat

theorem exponentBias_binary64 : Format.binary64.exponentBias = 1023 :=
  rfl

theorem toNat_leading (bits : BitVec Format.binary64.numBits) :
    (1#1 ++ unpackMantissa bits).toNat =
      2 ^ 52 + (unpackMantissa bits).toNat := by
  have mantissaBelow : (unpackMantissa bits).toNat < 2 ^ 52 :=
    (unpackMantissa bits).isLt
  rw [BitVec.toNat_append, ← Nat.shiftLeft_add_eq_or_of_lt mantissaBelow]
  rfl

theorem isCanonical_unpack (bits : BitVec Format.binary64.numBits) :
    IsCanonical (UnpackedFloat.unpack Format.binary64 bits) := by
  have mantissaBelow : (unpackMantissa bits).toNat < 2 ^ 52 :=
    (unpackMantissa bits).isLt
  unfold UnpackedFloat.unpack
  simp only [exponentBias_binary64]
  split_ifs with isLast isInfinite isFirst isZero
  · trivial
  · trivial
  · trivial
  · have noExponent : (unpackExponent bits).toNat = 0 := by
      rw [isFirst]
      rfl
    refine ⟨by omega, ?_, .inl ?_⟩ <;> omega
  · have someExponent : (unpackExponent bits).toNat ≠ 0 := fun noExponent =>
      isFirst (BitVec.eq_of_toNat_eq noExponent)
    have leading := toNat_leading bits
    refine ⟨?_, ?_, .inr ?_⟩ <;> omega

/-- The number that the three fields of a pattern of bits spell. -/
theorem ofBits_fields {sign exponent mantissa : Nat}
    (exponentBelow : exponent < 2 ^ 11) (mantissaBelow : mantissa < 2 ^ 52) :
    ofBits ((sign * 2 ^ 11 + exponent) * 2 ^ 52 + mantissa) =
      if exponent == 2047 then
        if mantissa == 0 then infinite (sign == 1) else notANumber
      else if exponent == 0 then finite (sign == 1) mantissa (-1074)
      else finite (sign == 1) (leadingBit + mantissa) (exponent - 1075) := by
  have signField : ((sign * 2 ^ 11 + exponent) * 2 ^ 52 + mantissa) / signBit =
      sign := by
    unfold signBit
    omega
  have exponentField :
      ((sign * 2 ^ 11 + exponent) * 2 ^ 52 + mantissa) / leadingBit % 2048 =
        exponent := by
    unfold leadingBit
    omega
  have mantissaField :
      ((sign * 2 ^ 11 + exponent) * 2 ^ 52 + mantissa) % leadingBit =
        mantissa := by
    unfold leadingBit
    omega
  simp only [ofBits, signField, exponentField, mantissaField]

theorem toNat_unpackFields (bits : BitVec Format.binary64.numBits) :
    bits.toNat = ((unpackSign bits).toNat * 2 ^ 11 +
      (unpackExponent bits).toNat) * 2 ^ 52 + (unpackMantissa bits).toNat := by
  have signField : (unpackSign bits).toNat = bits.toNat >>> 63 % 2 ^ 1 := by
    rw [unpackSign, BitVec.toNat_cast]
    rfl
  have exponentField :
      (unpackExponent bits).toNat = bits.toNat >>> 52 % 2 ^ 11 := by
    rw [unpackExponent, BitVec.toNat_cast]
    rfl
  have mantissaField : (unpackMantissa bits).toNat = bits.toNat % 2 ^ 52 := by
    rw [unpackMantissa, BitVec.toNat_cast]
    rfl
  have below : bits.toNat < 2 ^ 64 := bits.isLt
  rw [signField, exponentField, mantissaField, Nat.shiftRight_eq_div_pow,
    Nat.shiftRight_eq_div_pow]
  omega

theorem isNegative_ofBitVec (bit : BitVec 1) :
    isNegative (Sign.ofBitVec bit) = (bit.toNat == 1) := by
  revert bit
  decide

/-- What is taken apart is what is read from the bits. -/
theorem ofUnpacked_unpack (bits : BitVec Format.binary64.numBits) :
    ofUnpacked (UnpackedFloat.unpack Format.binary64 bits) =
      ofBits bits.toNat := by
  have lastField : unpackExponent bits = -1#11 ↔
      (unpackExponent bits).toNat = 2047 := by
    rw [← BitVec.toNat_inj]
    rfl
  have firstField : unpackExponent bits = 0#11 ↔
      (unpackExponent bits).toNat = 0 := by
    rw [← BitVec.toNat_inj]
    rfl
  have noMantissa : unpackMantissa bits = 0#52 ↔
      (unpackMantissa bits).toNat = 0 := by
    rw [← BitVec.toNat_inj]
    rfl
  rw [toNat_unpackFields bits, ofBits_fields (unpackExponent bits).isLt
    (unpackMantissa bits).isLt, ← isNegative_ofBitVec]
  unfold UnpackedFloat.unpack
  simp only [exponentBias_binary64, beq_iff_eq]
  by_cases isLast : unpackExponent bits = -1#11
  · rw [if_pos isLast, if_pos (lastField.mp isLast)]
    by_cases isInfinite : unpackMantissa bits = 0#52
    · rw [if_pos isInfinite, if_pos (noMantissa.mp isInfinite)]
      rfl
    · rw [if_neg isInfinite, if_neg (mt noMantissa.mpr isInfinite)]
      rfl
  · rw [if_neg isLast, if_neg (mt lastField.mpr isLast)]
    by_cases isFirst : unpackExponent bits = 0#11
    · rw [if_pos isFirst, if_pos (firstField.mp isFirst)]
      have exponent : ((unpackExponent bits).toNat : Int) -
          ((1023 : Nat) + (52 : Nat)) + 1 = -1074 := by
        rw [firstField.mp isFirst]
        rfl
      by_cases isZero : unpackMantissa bits = 0#52
      · rw [dif_pos isZero, noMantissa.mp isZero]
        rfl
      · rw [dif_neg isZero]
        exact congrArg _ exponent
    · rw [if_neg isFirst, if_neg (mt firstField.mpr isFirst), ofUnpacked,
        toNat_leading]
      rfl

theorem ofBits_packComponents (sign : Sign)
    (exponent : BitVec Format.binary64.exponentBits)
    (mantissa : BitVec Format.binary64.mantissaBitsWithoutImplicit) :
    ofBits (packComponents Format.binary64 sign exponent mantissa).toNat =
      if exponent.toNat == 2047 then
        if mantissa.toNat == 0 then infinite (isNegative sign) else notANumber
      else if exponent.toNat == 0 then
        finite (isNegative sign) mantissa.toNat (-1074)
      else finite (isNegative sign) (leadingBit + mantissa.toNat)
        (exponent.toNat - 1075) := by
  have signBit : (sign.toBitVec.toNat == 1) = isNegative sign := by
    cases sign <;> rfl
  have bits : (packComponents Format.binary64 sign exponent mantissa).toNat =
      (sign.toBitVec.toNat * 2 ^ 11 + exponent.toNat) * 2 ^ 52 +
        mantissa.toNat := by
    rw [packComponents, BitVec.toNat_append, BitVec.toNat_append,
      ← Nat.shiftLeft_add_eq_or_of_lt exponent.isLt,
      ← Nat.shiftLeft_add_eq_or_of_lt mantissa.isLt, Nat.shiftLeft_eq,
      Nat.shiftLeft_eq]
  rw [bits, ofBits_fields exponent.isLt mantissa.isLt, signBit]

theorem ofBits_packedInfinity (sign : Sign) :
    ofBits (packedInfinity Format.binary64 sign).toNat =
      infinite (isNegative sign) := by
  rw [packedInfinity, ofBits_packComponents]
  rfl

theorem ofBits_pack_zero (sign : Sign) :
    ofBits (UnpackedFloat.pack Format.binary64 (.zero sign)).toNat =
      finite (isNegative sign) 0 (-1074) := by
  rw [UnpackedFloat.pack, packedZero, ofBits_packComponents]
  rfl

theorem ofBits_pack_infinity (sign : Sign) :
    ofBits (UnpackedFloat.pack Format.binary64 (.infinity sign)).toNat =
      infinite (isNegative sign) :=
  ofBits_packedInfinity sign

theorem pack_finite (sign : Sign) (m : Nat) (e : Int) (positive : 0 < m)
    {field : Nat} (isField : (e + 1023 + 52).toNat = field) :
    UnpackedFloat.pack Format.binary64 (.finite sign m e positive) =
      if 2 ^ 11 ≤ field + 1 then packedInfinity Format.binary64 sign
      else if m.log2 + 1 = 53 then
        packComponents Format.binary64 sign (BitVec.ofNat _ field)
          (BitVec.ofNat _ m)
      else packComponents Format.binary64 sign 0 (BitVec.ofNat _ m) := by
  rw [← isField]
  rfl

theorem ofBits_pack_finite (sign : Sign) {m : Nat} {e : Int} (positive : 0 < m)
    (canonical : IsCanonical (.finite sign m e positive)) :
    ofBits (UnpackedFloat.pack Format.binary64
        (.finite sign m e positive)).toNat =
      if 972 ≤ e then infinite (isNegative sign)
      else finite (isNegative sign) m e := by
  obtain ⟨small, inRange, full⟩ := canonical
  obtain ⟨field, isField⟩ : ∃ field, (e + 1023 + 52).toNat = field := ⟨_, rfl⟩
  rw [pack_finite sign m e positive isField]
  by_cases overflows : 972 ≤ e
  · have isLarge : 2 ^ 11 ≤ field + 1 := by omega
    rw [if_pos overflows, if_pos isLarge, ofBits_packedInfinity]
  · have isSmall : ¬ 2 ^ 11 ≤ field + 1 := by omega
    rw [if_neg overflows, if_neg isSmall]
    by_cases isNormal : m.log2 + 1 = 53
    · have large : 2 ^ 52 ≤ m := by
        have hasBits : m.log2 = 52 := Nat.succ.inj isNormal
        exact hasBits ▸ Nat.log2_self_le positive.ne'
      have fieldKept : (BitVec.ofNat 11 field).toNat = field :=
        Nat.mod_eq_of_lt (by omega)
      have bitsKept : (BitVec.ofNat 52 m).toNat = m - 2 ^ 52 := by
        rw [BitVec.toNat_ofNat]
        omega
      have restored : leadingBit + (m - 2 ^ 52) = m := by
        unfold leadingBit
        omega
      have exponent : (field : Int) - 1075 = e := by omega
      have notLast : (field == 2047) = false := beq_false_of_ne (by omega)
      have notFirst : (field == 0) = false := beq_false_of_ne (by omega)
      rw [if_pos isNormal, ofBits_packComponents, fieldKept, bitsKept, notLast,
        notFirst, restored, exponent]
      rfl
    · have less : m < 2 ^ 52 := by
        have bits := (Nat.log2_lt positive.ne').mpr small
        exact (Nat.log2_lt positive.ne').mp (by omega)
      have last : e = -1074 := full.resolve_right (by omega)
      have bitsKept : (BitVec.ofNat 52 m).toNat = m :=
        Nat.mod_eq_of_lt less
      rw [if_neg isNormal, ofBits_packComponents, bitsKept, last]
      rfl

end DrivewayWatch.Binary64
