import DrivewayWatch.Bytes.Hex
import Mathlib.Tactic.Common
import Mathlib.Tactic.IntervalCases

/-!
# Hexadecimal digits written and read

The digits that are written for bytes read back as these bytes.  So no two texts
of bytes have the same digits.
-/

namespace DrivewayWatch.Hex

/-- The digits of sixteen numbers are found by trying each. -/
theorem digitValue?_digit {n : Nat} (isSmall : n < 16) :
    digitValue? (digit n) = some n := by
  interval_cases n <;> rfl

/-- A byte is the number that its two digits spell. -/
theorem ofNat_digits (byte : UInt8) :
    UInt8.ofNat (byte.toNat / 16 * 16 + byte.toNat % 16) = byte := by
  rw [Nat.div_add_mod', UInt8.ofNat_toNat]

@[simp]
theorem decode_encode (bytes : Bytes) : decode (encode bytes) = some bytes := by
  induction bytes with
  | nil => rfl
  | cons byte bytes ih =>
      have high : byte.toNat / 16 < 16 := by
        have := byte.toNat_lt
        omega
      have low : byte.toNat % 16 < 16 := Nat.mod_lt _ (by decide)
      have written : encode (byte :: bytes) =
          digit (byte.toNat / 16) :: digit (byte.toNat % 16) :: encode bytes :=
        rfl
      rw [written, decode, digitValue?_digit high, digitValue?_digit low, ih]
      exact congrArg (fun first => some (first :: bytes)) (ofNat_digits byte)

end DrivewayWatch.Hex
