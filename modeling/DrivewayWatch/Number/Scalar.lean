import DrivewayWatch.Number.Binary64

/-!
# Scalars

Coordinates, thresholds and configured seconds are scalars: the program computes with binary
floating-point numbers, and the same definitions read over exact numbers describe the geometry they
approximate.
-/

namespace DrivewayWatch

/-- The operations on coordinates and thresholds that tracking needs. -/
class Scalar (K : Type) extends Add K, Sub K, Mul K, Div K, LT K, LE K where
  ofNat : Nat → K
  lesser : K → K → K
  greater : K → K → K
  round : K → Rounded
  decidableLT : (a b : K) → Decidable (a < b)
  decidableLE : (a b : K) → Decidable (a ≤ b)

instance scalarDecidableLT {K : Type} [Scalar K] (a b : K) : Decidable (a < b) :=
  Scalar.decidableLT a b

instance scalarDecidableLE {K : Type} [Scalar K] (a b : K) : Decidable (a ≤ b) :=
  Scalar.decidableLE a b

/-- The lesser of two numbers; one that is not a number gives way to the other. -/
def lesserFloat (a b : Float) : Float :=
  if b < a || a.isNaN then b else a

/-- The greater of two numbers; one that is not a number gives way to the other. -/
def greaterFloat (a b : Float) : Float :=
  if a < b || a.isNaN then b else a

instance floatScalar : Scalar Float where
  ofNat := Float.ofNat
  lesser := lesserFloat
  greater := greaterFloat
  round := roundFloat
  decidableLT := fun _ _ => inferInstance
  decidableLE := fun _ _ => inferInstance

end DrivewayWatch
