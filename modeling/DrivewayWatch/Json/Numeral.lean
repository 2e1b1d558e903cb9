import DrivewayWatch.Number.Decimal
import DrivewayWatch.Number.Word

/-!
# Numbers in documents

A numeral is kept as it is written until its value is asked for.  An integer of 64 bits denotes
itself; every other numeral denotes a floating-point number, computed from at most twenty leading
digits and one multiplication or division by a power of ten.  A numeral too large for that denotes
nothing.
-/

namespace DrivewayWatch.Json

/-- A numeral as it is written. -/
structure Numeral where
  negative : Bool
  whole : List Char
  fraction : Option (List Char)
  exponent : Option (Bool × List Char)
  deriving Repr, DecidableEq

/-- What a numeral denotes: a nonnegative integer below `2 ^ 64`, a negative one of 64 bits, or a
floating-point number. -/
inductive Number where
  | natural (n : Nat)
  | negative (n : Int)
  | real (x : Float)
  deriving Repr

namespace Numeral

def spanDigits (text : List Char) : List Char × List Char :=
  (text.takeWhile Decimal.isDigit, text.dropWhile Decimal.isDigit)

/-- Reads the exponent that an `e` introduces. -/
def exponentOf? : List Char → Option (Option (Bool × List Char))
  | [] => some none
  | e :: rest =>
    if e = 'e' ∨ e = 'E' then
      let (negative, digits) := match rest with
        | '-' :: digits => (true, digits)
        | '+' :: digits => (false, digits)
        | digits => (false, digits)
      if digits.isEmpty || !digits.all Decimal.isDigit then none
      else some (some (negative, digits))
    else none

/-- Reads a numeral.  There is no plus sign in front, no leading zero before another digit, and a
point has digits on both sides. -/
def read? (text : List Char) : Option Numeral := do
  let (negative, unsigned) := match text with
    | '-' :: rest => (true, rest)
    | _ => (false, text)
  let (whole, afterWhole) := spanDigits unsigned
  if whole.isEmpty || (whole.length > 1 && whole.head? == some '0') then none
  else match afterWhole with
    | '.' :: afterPoint =>
      let (fraction, rest) := spanDigits afterPoint
      if fraction.isEmpty then none
      else return ⟨negative, whole, some fraction, ← exponentOf? rest⟩
    | rest => return ⟨negative, whole, none, ← exponentOf? rest⟩

/-- The largest leading digits that are kept exactly. -/
def limit : Nat := Word.greatestNat

/-- Appends digits to a number as long as it stays within the limit, and counts the digits that
are left over. -/
def accumulate (value : Nat) : List Char → Nat × Nat
  | [] => (value, 0)
  | c :: rest =>
    let next := value * 10 + (Decimal.digitValue? c).getD 0
    if next ≤ limit then accumulate next rest else (value, rest.length + 1)

/-- The largest value of an exponent that is computed with. -/
def exponentLimit : Int := 2147483647

/-- Moves an exponent into the range that is computed with. -/
def clampExponent (exponent : Int) : Int :=
  max (-exponentLimit - 1) (min exponentLimit exponent)

def power (exponent : Nat) : Float :=
  Float.ofScientific 1 false exponent

/-- `value * 10 ^ exponent` by one multiplication, or by one division or two if the exponent is
negative; nothing if the product is infinite. -/
def scale? (value : Nat) (exponent : Int) : Option Float :=
  let start := Float.ofNat value
  if value == 0 then some start
  else if 308 < exponent then none
  else if 0 ≤ exponent then
    let product := start * power exponent.toNat
    if product.isInf then none else some product
  else if -308 ≤ exponent then some (start / power (-exponent).toNat)
  else if -616 ≤ exponent then some (start / power 308 / power (-exponent - 308).toNat)
  else some 0.0

/-- The floating-point number that a numeral denotes, without its sign. -/
def magnitude? (numeral : Numeral) : Option Float :=
  let (whole, dropped) := accumulate 0 numeral.whole
  let (value, leftOver) := accumulate whole (numeral.fraction.getD [])
  let places := (numeral.fraction.getD []).length - leftOver
  let start : Int := (dropped : Int) - places
  match numeral.exponent with
  | none => scale? value start
  | some (negative, digits) =>
    let given : Int := (Decimal.readFrom? 0 digits).getD 0
    if exponentLimit < given then if value != 0 && !negative then none else some 0.0
    else scale? value (clampExponent (if negative then start - given else start + given))

def value? (numeral : Numeral) : Option Number :=
  let integer := (Decimal.readFrom? 0 numeral.whole).getD 0
  if numeral.fraction.isNone && numeral.exponent.isNone && integer ≤ limit &&
      !(numeral.negative && (integer == 0 || !Word.isSigned (-integer))) then
    some (if numeral.negative then .negative (-(integer : Int)) else .natural integer)
  else do
    let magnitude ← numeral.magnitude?
    return .real (if numeral.negative then -magnitude else magnitude)

end Numeral

namespace Number

def toFloat : Number → Float
  | natural n => Float.ofNat n
  | negative n => -(Float.ofNat n.natAbs)
  | real x => x

def integer? : Number → Option Int
  | natural n => some n
  | negative n => some n
  | real _ => none

end Number

end DrivewayWatch.Json
