import DrivewayWatch.Number.Scalar
import Mathlib.Algebra.Order.Field.Rat
import Mathlib.Tactic.Linarith

/-!
# Rational scalars

Coordinates, thresholds and configured seconds read as exact numbers.  A
quotient by zero is zero here, so it exceeds no threshold that is not negative.
-/

namespace DrivewayWatch

/-- The integer nearest to a rational number; a half goes away from zero. -/
def roundRational (x : Rat) : Int :=
  Binary64.signed (x < 0) ((2 * x.num.natAbs + x.den) / (2 * x.den))

instance rationalScalar : Scalar Rat where
  ofNat n := n
  lesser := min
  greater := max
  round x := .integer (roundRational x)
  decidableLT := fun _ _ => inferInstance
  decidableLE := fun _ _ => inferInstance

end DrivewayWatch
