import DrivewayWatch.Number.Decimal
import DrivewayWatch.Number.Word
import DrivewayWatch.Text.Blank
import DrivewayWatch.Time.Instant

/-!
# Reading instants

Two readers for a date, a time of day and an offset from Universal Time.  `strict?` accepts exactly
the form of the Internet date-time standard.  `lenient?` also accepts blanks around the parts,
fields with fewer digits, signed years of any length, the letters `UTC`, and offsets without a
colon.  Both check the calendar, and both accept the second 60 in any minute: it becomes a leap
second.
-/

namespace DrivewayWatch

/-- An instant together with the offset of the local time it was given in, in seconds. -/
structure ZonedInstant where
  instant : Instant
  offset : Int
  deriving Repr, DecidableEq

namespace Reading

open Text

/-- The parts of a date and time as they are written. -/
structure Fields where
  year : Int
  month : Nat
  day : Nat
  hour : Nat
  minute : Nat
  second : Nat
  nanosecond : Nat
  offset : Int

/-- The instant that the fields describe, if every field is in its range. -/
def Fields.instant? (fields : Fields) : Option ZonedInstant :=
  let date : Date := ⟨fields.year, fields.month, fields.day⟩
  if date.isValid && fields.hour ≤ 23 && fields.minute ≤ 59 && fields.second ≤ 60 &&
      fields.offset.natAbs < 86400 then
    let leap := fields.second == 60
    let seconds := fields.hour * 3600 + fields.minute * 60 + if leap then 59 else fields.second
    let instant : Instant :=
      { second := date.toDays * 86400 + seconds - fields.offset
        nanosecond := fields.nanosecond + if leap then 1000000000 else 0 }
    if instant.isKept then some ⟨instant, fields.offset⟩ else none
  else none

/-- Takes at least `least` and at most `most` digits from the front and reads them as a number,
which has to fit 64 bits. -/
def number? (least most : Nat) (text : List Char) : Option (Nat × List Char) :=
  let taken := (text.take most).takeWhile Decimal.isDigit
  if taken.length < least then none
  else do
    let value ← Decimal.readFrom? 0 taken
    if Word.isSigned value then some (value, text.drop taken.length) else none

def mark? (expected : Char) : List Char → Option (List Char)
  | c :: rest => if c = expected then some rest else none
  | [] => none

/-- Takes the letter or the blank between a date and a time. -/
def separator? : List Char → Option (List Char)
  | c :: rest => if c = 'T' ∨ c = 't' ∨ c = ' ' then some rest else none
  | [] => none

/-- Reads the digits of a fraction of a second as nanoseconds; digits after the ninth are
dropped. -/
def fraction? (text : List Char) : Option (Nat × List Char) := do
  let (value, rest) ← number? 1 9 text
  let places := text.length - rest.length
  return (value * Nat.pow 10 (9 - places), rest.dropWhile Decimal.isDigit)

/-- Reads a fraction of a second if a point begins one. -/
def optionalFraction? : List Char → Option (Nat × List Char)
  | '.' :: rest => fraction? rest
  | text => some (0, text)

/-- Reads the sign of an offset; a typographic minus sign is one as well. -/
def sign? : List Char → Option (Bool × List Char)
  | c :: rest =>
    if c = '+' then some (false, rest)
    else if c = '-' ∨ c = Char.ofNat 0x2212 then some (true, rest)
    else none
  | [] => none

/-- Reads an offset in seconds: `Z`, or hours and minutes that `divider?` separates. -/
def offset? (divider? : List Char → Option (List Char)) (text : List Char) :
    Option (Int × List Char) :=
  match text with
  | 'Z' :: rest => some (0, rest)
  | 'z' :: rest => some (0, rest)
  | _ => do
    let (negative, afterSign) ← sign? text
    let (hours, afterHours) ← number? 2 2 afterSign
    let (minutes, rest) ← number? 2 2 (← divider? afterHours)
    if 59 < minutes then none
    else
      let seconds : Int := hours * 3600 + minutes * 60
      some (if negative then -seconds else seconds, rest)

/-- Reads a year: four digits at most, or any number of them after a sign. -/
def year? : List Char → Option (Int × List Char)
  | '-' :: rest => (number? 1 rest.length rest).map fun (year, rest) => (-(year : Int), rest)
  | '+' :: rest => (number? 1 rest.length rest).map fun (year, rest) => ((year : Int), rest)
  | text => (number? 1 4 text).map fun (year, rest) => ((year : Int), rest)

/-- Reads one or two digits, with blanks in front of them. -/
def shortNumber? (text : List Char) : Option (Nat × List Char) :=
  number? 1 2 (trimFront text)

/-- Takes a given character, with blanks in front of it. -/
def looseMark? (expected : Char) (text : List Char) : Option (List Char) :=
  mark? expected (trimFront text)

/-- Takes the letters `UTC` in any case from the front. -/
def universal? : List Char → Option (List Char)
  | a :: b :: c :: rest =>
    if a.toUpper = 'U' ∧ b.toUpper = 'T' ∧ c.toUpper = 'C' then some rest else none
  | _ => none

def looseDivider? (text : List Char) : Option (List Char) :=
  some (text.dropWhile fun c => c == ':' || isBlank c)

/-- Reads an offset, or the letters `UTC`, in the lenient form. -/
def looseOffset? (text : List Char) : Option (Int × List Char) :=
  match universal? text with
  | some rest => some (0, rest)
  | none => offset? looseDivider? text

def lenient? (text : List Char) : Option ZonedInstant := do
  let (year, rest) ← year? (trimFront text)
  let (month, rest) ← shortNumber? (← looseMark? '-' rest)
  let (day, rest) ← shortNumber? (← looseMark? '-' rest)
  let (hour, rest) ← shortNumber? (← separator? rest)
  let (minute, rest) ← shortNumber? (← looseMark? ':' rest)
  let (second, rest) ← shortNumber? (← looseMark? ':' rest)
  let (nanosecond, rest) ← optionalFraction? rest
  let (offset, rest) ← looseOffset? (trimFront rest)
  if (trimFront rest).isEmpty then
    Fields.instant? { year, month, day, hour, minute, second, nanosecond, offset }
  else none

def strict? (text : List Char) : Option ZonedInstant := do
  let (year, rest) ← number? 4 4 text
  let (month, rest) ← number? 2 2 (← mark? '-' rest)
  let (day, rest) ← number? 2 2 (← mark? '-' rest)
  let (hour, rest) ← number? 2 2 (← separator? rest)
  let (minute, rest) ← number? 2 2 (← mark? ':' rest)
  let (second, rest) ← number? 2 2 (← mark? ':' rest)
  let (nanosecond, rest) ← optionalFraction? rest
  let (offset, rest) ← offset? (mark? ':') rest
  if rest.isEmpty then
    Fields.instant? { year, month, day, hour, minute, second, nanosecond, offset }
  else none

end Reading

end DrivewayWatch
