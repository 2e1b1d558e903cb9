import DrivewayWatch.Number.Binary64
import DrivewayWatch.Number.Decimal

/-!
# The floating-point number nearest to a fraction

`nearest` rounds an exact fraction to the closest binary floating-point number, a tie to the even
one.  A quotient of 53 bits is found by shifting, rounded once, and packed into the bit pattern; a
carry into the next power of two packs itself.  The readers of decimal texts rest on it.
-/

namespace DrivewayWatch.Nearest

/-- The quotient rounded to the nearest integer, a tie to the even one. -/
def divideToEven (numerator denominator : Nat) : Nat :=
  let quotient := numerator / denominator
  let twice := 2 * (numerator % denominator)
  if twice < denominator then quotient
  else if denominator < twice then quotient + 1
  else quotient + quotient % 2

/-- `numerator / denominator` over a power of two, as a fraction. -/
def shifted (numerator denominator : Nat) (exponent : Int) : Nat × Nat :=
  (numerator * Nat.pow 2 (-exponent).toNat, denominator * Nat.pow 2 exponent.toNat)

/-- The exponent for which the quotient has 53 bits, but never less than the smallest one. -/
def exponentOf (numerator denominator : Nat) : Int :=
  let guess : Int := (Nat.log2 numerator : Int) - Nat.log2 denominator - 52
  let (high, low) := shifted numerator denominator guess
  max (-1074) (if high / low < Binary64.leadingBit then guess - 1 else guess)

/-- The bit pattern of the number nearest to a positive fraction. -/
def bits (numerator denominator : Nat) : Nat :=
  let exponent := exponentOf numerator denominator
  let (high, low) := shifted numerator denominator exponent
  min Binary64.infinityBits
    ((exponent + 1074).toNat * Binary64.leadingBit + divideToEven high low)

/-- The number with a sign and the bits of a magnitude. -/
def ofMagnitude (negative : Bool) (magnitude : Nat) : Float :=
  Float.ofBits (UInt64.ofNat (magnitude + if negative then Binary64.signBit else 0))

def zero (negative : Bool) : Float :=
  ofMagnitude negative 0

def infinity (negative : Bool) : Float :=
  ofMagnitude negative Binary64.infinityBits

/-- The number nearest to a fraction, with a sign. -/
def ofFraction (negative : Bool) (numerator denominator : Nat) : Float :=
  if numerator == 0 then zero negative
  else ofMagnitude negative (bits numerator denominator)

/-- How far from the point a decimal may begin or end before it is too large or too small for any
floating-point number. -/
def reach : Int := 400

/-- The number nearest to `digits * 10 ^ exponent`, with a sign. -/
def ofDecimal (negative : Bool) (digits : Nat) (exponent : Int) : Float :=
  let places : Int := (Decimal.digits digits).length
  if digits == 0 || exponent + places < -reach then zero negative
  else if reach < exponent + places then infinity negative
  else ofFraction negative (digits * Nat.pow 10 exponent.toNat) (Nat.pow 10 (-exponent).toNat)

end DrivewayWatch.Nearest

namespace DrivewayWatch.Decimal

/-- The exponent that an optional `e` with an optional sign and digits introduces. -/
def exponent? : List Char → Option Int
  | [] => some 0
  | e :: rest => if e = 'e' ∨ e = 'E' then int? rest else none

/-- The number that a text without a sign denotes: digits with or without a point among or around
them, and an optional exponent. -/
def unsignedFloat? (negative : Bool) (text : List Char) : Option Float := do
  let whole := text.takeWhile isDigit
  let afterWhole := text.dropWhile isDigit
  let (fraction, rest) := match afterWhole with
    | '.' :: afterPoint => (afterPoint.takeWhile isDigit, afterPoint.dropWhile isDigit)
    | _ => ([], afterWhole)
  let digits ← nat? (whole ++ fraction)
  let exponent ← exponent? rest
  return Nearest.ofDecimal negative digits (exponent - fraction.length)

/-- The special values that are written as words. -/
def wordFloat? (negative : Bool) (text : List Char) : Option Float :=
  let word := String.ofList (text.map Char.toLower)
  if word = "nan" then some (0.0 / 0.0)
  else if word = "inf" ∨ word = "infinity" then some (Nearest.infinity negative)
  else none

/-- The floating-point number that a text denotes. -/
def float? (text : List Char) : Option Float :=
  let (negative, unsigned) := match text with
    | '-' :: rest => (true, rest)
    | '+' :: rest => (false, rest)
    | _ => (false, text)
  (wordFloat? negative unsigned).or (unsignedFloat? negative unsigned)

end DrivewayWatch.Decimal
