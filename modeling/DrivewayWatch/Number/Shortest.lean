import DrivewayWatch.Number.Binary64
import DrivewayWatch.Number.Decimal

/-!
# The shortest decimal text of a floating-point number

Among all decimals that are read back as the same number, the one with the fewest digits is
written; among those, the one nearest to the exact value.  `Interval` holds the reals that round to
the number, and `Grid.hit?` looks for a point of a decimal grid in it.  All arithmetic is on
natural numbers.
-/

namespace DrivewayWatch.Shortest

/-- The reals that round to one positive number, as fractions over the common denominator
`scale`.  The ends belong to the interval if `closed`. -/
structure Interval where
  low : Nat
  value : Nat
  high : Nat
  scale : Nat
  closed : Bool

/-- The reals that round to `mantissa * 2 ^ exponent`.  The gap below a power of two is half the
gap above it, except at the smallest exponent. -/
def interval (mantissa : Nat) (exponent : Int) : Interval :=
  let narrow := mantissa == Binary64.leadingBit && exponent != -1074
  let up := Nat.pow 2 exponent.toNat
  let scale := 4 * Nat.pow 2 (-exponent).toNat
  { low := (4 * mantissa - if narrow then 1 else 2) * up
    value := 4 * mantissa * up
    high := (4 * mantissa + 2) * up
    scale
    closed := mantissa % 2 == 0 }

namespace Interval

/-- Whether `numerator / denominator` lies in the interval. -/
def holds (range : Interval) (numerator denominator : Nat) : Bool :=
  let point := numerator * range.scale
  if range.closed then range.low * denominator ≤ point && point ≤ range.high * denominator
  else range.low * denominator < point && point < range.high * denominator

/-- The point of the grid of multiples of `10 ^ power` that lies in the interval, nearest to its
value, given as a multiple. -/
def hit? (range : Interval) (power : Int) : Option Nat :=
  let up := Nat.pow 10 power.toNat
  let down := Nat.pow 10 (-power).toNat
  -- The value is `value / scale`; in steps of the grid it is `value * down / (scale * up)`.
  let below := range.value * down / (range.scale * up)
  let above := below + 1
  let inside := fun n => n != 0 && range.holds (n * up) down
  match inside below, inside above with
  | true, true =>
    if 2 * (range.value * down) < (2 * below + 1) * (range.scale * up) then some below
    else some above
  | true, false => some below
  | false, true => some above
  | false, false => none

end Interval

/-- The power of ten of the first digit of a positive fraction, found by trying. -/
def leadingPower (numerator denominator : Nat) : Int :=
  if denominator ≤ numerator then ((Decimal.digits (numerator / denominator)).length : Int) - 1
  else -((Decimal.digits ((denominator - 1) / numerator)).length : Int)

/-- Tries grids from `power` on downwards and takes the first hit. -/
def search (range : Interval) (power : Int) : Nat → Nat × Int
  | 0 => (range.value / range.scale, 0)
  | tries + 1 =>
    match range.hit? power with
    | some multiple => (multiple, power)
    | none => search range (power - 1) tries

/-- The shortest decimal `multiple * 10 ^ power` that is read back as `mantissa * 2 ^ exponent`. -/
def decimal (mantissa : Nat) (exponent : Int) : Nat × Int :=
  let range := interval mantissa exponent
  search range (leadingPower range.value range.scale + 1) 20

/-- `multiple * 10 ^ power` without an exponent. -/
def positional (multiple : Nat) (power : Int) : List Char :=
  let digits := Decimal.digits multiple
  if 0 ≤ power then digits ++ List.replicate power.toNat '0'
  else
    let places := (-power).toNat
    let filled := List.replicate (places + 1 - digits.length) '0' ++ digits
    let whole := filled.take (filled.length - places)
    whole ++ '.' :: filled.drop (filled.length - places)

/-- The shortest text of a number, always without an exponent. -/
def text (x : Float) : String :=
  let signed := fun (negative : Bool) (body : List Char) =>
    String.ofList (if negative then '-' :: body else body)
  match Binary64.ofFloat x with
  | .notANumber => "NaN"
  | .infinite negative => signed negative "inf".toList
  | .finite negative mantissa exponent =>
    if mantissa == 0 then signed negative ['0']
    else
      let (multiple, power) := decimal mantissa exponent
      signed negative (positional multiple power)

end DrivewayWatch.Shortest
