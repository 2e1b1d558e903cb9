import DrivewayWatch.Number.Word

/-!
# Exact values of binary floating-point numbers

A finite `Float` is an integer times a power of two.  Here it is taken apart into these two
numbers, and rounded to integers without any further rounding error.
-/

namespace DrivewayWatch

/-- What a binary floating-point number stands for: `±mantissa * 2 ^ exponent` if it is finite. -/
inductive Binary64 where
  | notANumber
  | infinite (negative : Bool)
  | finite (negative : Bool) (mantissa : Nat) (exponent : Int)
  deriving Repr, DecidableEq

namespace Binary64

def signBit : Nat := 9223372036854775808

/-- The bit in front of the 52 bits of the fraction. -/
def leadingBit : Nat := 4503599627370496

/-- The pattern of infinity: the 11 bits of the exponent are set. -/
def infinityBits : Nat := 2047 * leadingBit

def ofBits (bits : Nat) : Binary64 :=
  let negative := bits / signBit == 1
  let biased : Nat := bits / leadingBit % 2048
  let fraction : Nat := bits % leadingBit
  if biased == 2047 then if fraction == 0 then infinite negative else notANumber
  else if biased == 0 then finite negative fraction (-1074)
  else finite negative (leadingBit + fraction) ((biased : Int) - 1075)

def ofFloat (x : Float) : Binary64 :=
  ofBits x.toBits.toNat

def signed (negative : Bool) (n : Nat) : Int :=
  if negative then -(n : Int) else n

end Binary64

/-- The nearest integer of a number that may be out of every range. -/
inductive Rounded where
  | integer (n : Int)
  | above
  | below
  | undefined
  deriving Repr, DecidableEq

namespace Binary64

/-- The nearest integer; a half goes away from zero. -/
def round : Binary64 → Rounded
  | notANumber => .undefined
  | infinite negative => if negative then .below else .above
  | finite negative mantissa exponent =>
    if 0 ≤ exponent then .integer (signed negative (mantissa * Nat.pow 2 exponent.toNat))
    else
      let scale := Nat.pow 2 (-exponent).toNat
      .integer (signed negative ((2 * mantissa + scale) / (2 * scale)))

/-- The integer part of a finite number; the fraction is dropped whatever the sign. -/
def truncate? : Binary64 → Option Int
  | notANumber => none
  | infinite _ => none
  | finite negative mantissa exponent =>
    if 0 ≤ exponent then some (signed negative (mantissa * Nat.pow 2 exponent.toNat))
    else some (signed negative (mantissa / Nat.pow 2 (-exponent).toNat))

end Binary64

/-- The integer nearest to a floating-point number. -/
def roundFloat (x : Float) : Rounded :=
  (Binary64.ofFloat x).round

/-- The integer part of a finite floating-point number. -/
def truncateFloat? (x : Float) : Option Int :=
  (Binary64.ofFloat x).truncate?

/-- The integer part of a floating-point number, moved to the nearest integer of 64 bits; zero for
what is not a number. -/
def saturateFloat (x : Float) : Int :=
  match Binary64.ofFloat x with
  | .notANumber => 0
  | .infinite negative => if negative then Word.least else Word.greatest
  | number => max Word.least (min Word.greatest (number.truncate?.getD 0))

end DrivewayWatch
