import DrivewayWatch.Number.Nearest
import DrivewayWatch.Time.Duration

/-!
# Durations as text

A duration is spelled by numbers with units from hours down to nanoseconds, and by a minus sign in
front.  The reader accepts fractions and exponents, cuts every part to whole nanoseconds, and stops
where no further part begins.  The writer uses hours, minutes and seconds from one second on, and
one smaller unit below that.
-/

namespace DrivewayWatch.Duration

/-- How a number at the front of a text goes on. -/
inductive NumberFront where
  | number (value : Float) (rest : List Char)
  | absent
  | broken

def specialFront (text : List Char) : NumberFront :=
  let word := String.ofList ((text.take 3).map Char.toLower)
  if word = "nan" then .number (0.0 / 0.0) (text.drop 3)
  else if word = "inf" then .number (Nearest.infinity false) (text.drop 3)
  else .absent

/-- The digits and the point of a number in front. -/
def mantissaLength (text : List Char) : Nat :=
  let whole := (text.takeWhile Decimal.isDigit).length
  match text.drop whole with
  | '.' :: afterPoint =>
    let fraction := (afterPoint.takeWhile Decimal.isDigit).length
    if whole + fraction == 0 then 0 else whole + 1 + fraction
  | _ => whole

/-- The length of an exponent in front: zero if there is none, no answer if it has no digits. -/
def exponentLength? : List Char → Option Nat
  | e :: rest =>
    if e == 'e' || e == 'E' then
      let (sign, digits) := match rest with
        | '+' :: digits => (1, digits)
        | '-' :: digits => (1, digits)
        | digits => (0, digits)
      match (digits.takeWhile Decimal.isDigit).length with
      | 0 => none
      | length => some (1 + sign + length)
    else some 0
  | [] => some 0

def numberFront (text : List Char) : NumberFront :=
  let (sign, unsigned) := match text with
    | '+' :: rest => (1, rest)
    | '-' :: rest => (1, rest)
    | _ => (0, text)
  match mantissaLength unsigned with
  | 0 => specialFront text
  | mantissa =>
    match exponentLength? (unsigned.drop mantissa) with
    | none => .broken
    | some exponent =>
      let length := sign + mantissa + exponent
      match Decimal.float? (text.take length) with
      | some value => .number value (text.drop length)
      | none => .absent

/-- Reads a unit: its length in nanoseconds and what follows it. -/
def unit? : List Char → Option (Nat × List Char)
  | 'm' :: 's' :: rest => some (1000000, rest)
  | 'u' :: 's' :: rest => some (1000, rest)
  | 'n' :: 's' :: rest => some (1, rest)
  | 'h' :: rest => some (3600000000000, rest)
  | 'm' :: rest => some (60000000000, rest)
  | 's' :: rest => some (1000000000, rest)
  | _ => none

/-- Adds up the parts at the front of a text; `count` tells how many have been read. -/
def parts? (count : Nat) (total : Int) (text : List Char) : Option Int :=
  let stop := if count == 0 then none else some total
  match numberFront text with
  | .broken => none
  | .absent => stop
  | .number value afterNumber =>
    match unit? afterNumber with
    | none => stop
    | some (unit, rest) =>
      if rest.length < text.length then
        parts? (count + 1) (total + saturateFloat (value * Float.ofNat unit)) rest
      else stop
termination_by text.length

def read? (text : String) : Option Duration :=
  let (negative, unsigned) := match text.toList with
    | '-' :: rest => (true, rest)
    | text => (false, text)
  if unsigned = ['0'] then some ⟨0⟩
  else (parts? 0 0 unsigned).map fun total => ⟨if negative then -total else total⟩

/-- `amount / 10 ^ places` with as many decimals as it needs. -/
def decimalText (amount places : Nat) : List Char :=
  let scale := Nat.pow 10 places
  let fraction := (Decimal.padded places (amount % scale)).reverse.dropWhile (· == '0')
  let shown := if amount % scale == 0 then [] else '.' :: fraction.reverse
  Decimal.digits (amount / scale) ++ shown

def unsignedText (nanoseconds : Nat) : List Char :=
  if nanoseconds == 0 then "0s".toList
  else if nanoseconds < 1000 then Decimal.digits nanoseconds ++ "ns".toList
  else if nanoseconds < 1000000 then decimalText nanoseconds 3 ++ [Char.ofNat 0xB5, 's']
  else if nanoseconds < 1000000000 then decimalText nanoseconds 6 ++ "ms".toList
  else
    let minutes := nanoseconds / 60000000000
    let seconds := decimalText (nanoseconds % 60000000000) 9 ++ ['s']
    if minutes == 0 then seconds
    else if minutes < 60 then Decimal.digits minutes ++ 'm' :: seconds
    else Decimal.digits (minutes / 60) ++ 'h' :: Decimal.digits (minutes % 60) ++ 'm' :: seconds

def text (duration : Duration) : String :=
  let unsigned := unsignedText duration.nanoseconds.natAbs
  String.ofList (if duration.nanoseconds < 0 then '-' :: unsigned else unsigned)

end DrivewayWatch.Duration
