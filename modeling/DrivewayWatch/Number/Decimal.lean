import DrivewayWatch.Number.Word

/-!
# Integers in decimal notation

Writing an integer with the digits `0` to `9`, and reading one back.  A reader accepts one sign of
either kind in front and any number of leading zeros; it accepts no blanks and no separators.
-/

namespace DrivewayWatch.Decimal

/-- The digit that stands for a number below ten. -/
def digit (n : Nat) : Char :=
  Char.ofNat ('0'.toNat + n)

def digitValue? (c : Char) : Option Nat :=
  if '0' ≤ c ∧ c ≤ '9' then some (c.toNat - '0'.toNat) else none

/-- Whether a character is one of the ten digits. -/
def isDigit (c : Char) : Bool :=
  (digitValue? c).isSome

/-- The digits of a number, the most significant one first. -/
def digits (n : Nat) : List Char :=
  if n < 10 then [digit n] else digits (n / 10) ++ [digit (n % 10)]
termination_by n
decreasing_by omega

/-- A number in decimal notation, with a minus sign if it is negative. -/
def ofInt (n : Int) : List Char :=
  if n < 0 then '-' :: digits n.natAbs else digits n.natAbs

/-- A number in decimal notation, as a string. -/
def text (n : Int) : String :=
  String.ofList (ofInt n)

/-- Appends the digits of a text to the number read so far. -/
def readFrom? (value : Nat) : List Char → Option Nat
  | [] => some value
  | c :: rest => do readFrom? (value * 10 + (← digitValue? c)) rest

/-- The number that a nonempty text of digits denotes. -/
def nat? : List Char → Option Nat
  | [] => none
  | c :: rest => readFrom? 0 (c :: rest)

/-- The integer that an optional sign and at least one digit denote. -/
def int? : List Char → Option Int
  | '+' :: rest => (nat? rest).map Int.ofNat
  | '-' :: rest => (nat? rest).map fun n => -Int.ofNat n
  | text => (nat? text).map Int.ofNat

/-- The signed 64-bit integer that a text denotes. -/
def int64? (text : List Char) : Option Int :=
  (int? text).filter Word.isSigned

/-- The unsigned 64-bit integer that a text without a minus sign denotes. -/
def nat64? (text : List Char) : Option Nat :=
  let unsigned := match text with
    | '+' :: rest => rest
    | _ => text
  (nat? unsigned).filter fun n => Word.isUnsigned n

/-- The digits of a number, filled up with zeros in front to at least `width` places. -/
def padded (width n : Nat) : List Char :=
  let shown := digits n
  List.replicate (width - shown.length) '0' ++ shown

end DrivewayWatch.Decimal
