import DrivewayWatch.Number.Decimal
import DrivewayWatch.Time.Reading

/-!
# Writing instants

A date has at least four digits in its year and a sign when the year has no four digits; a time of
day has as many places after the point as it needs, in groups of three.  A leap second is written
as the second 60.
-/

namespace DrivewayWatch

namespace Printing

def date (date : Date) : List Char :=
  let year :=
    if 0 ≤ date.year ∧ date.year ≤ 9999 then Decimal.padded 4 date.year.toNat
    else (if date.year < 0 then '-' else '+') :: Decimal.padded 4 date.year.natAbs
  year ++ '-' :: Decimal.padded 2 date.month ++ '-' :: Decimal.padded 2 date.day

/-- The fraction of a second in as few groups of three places as it needs. -/
def fraction (nanosecond : Nat) : List Char :=
  if nanosecond == 0 then []
  else if nanosecond % 1000000 == 0 then '.' :: Decimal.padded 3 (nanosecond / 1000000)
  else if nanosecond % 1000 == 0 then '.' :: Decimal.padded 6 (nanosecond / 1000)
  else '.' :: Decimal.padded 9 nanosecond

/-- A time of day with colons between its parts. -/
def timeOfDay (secondOfDay nanosecond : Nat) : List Char :=
  let second := secondOfDay % 60 + nanosecond / 1000000000
  Decimal.padded 2 (secondOfDay / 3600) ++ ':' :: Decimal.padded 2 (secondOfDay / 60 % 60) ++
    ':' :: Decimal.padded 2 second ++ fraction (nanosecond % 1000000000)

/-- An offset from Universal Time as a sign, hours and minutes. -/
def offset (seconds : Int) : List Char :=
  (if seconds < 0 then '-' else '+') :: Decimal.padded 2 (seconds.natAbs / 3600) ++
    ':' :: Decimal.padded 2 (seconds.natAbs / 60 % 60)

/-- The date and the time of day of an instant on a clock with an offset, with `divider` between
them. -/
def clock (instant : Instant) (offset : Int) (divider : Char) : List Char :=
  let local_ := instant.second + offset
  date (Date.ofDays (local_ / 86400)) ++
    divider :: timeOfDay (local_ % 86400).toNat instant.nanosecond

end Printing

/-- The date and time of an instant in Universal Time, in words for a reader. -/
def Instant.text (instant : Instant) : String :=
  String.ofList (Printing.clock instant 0 ' ' ++ " UTC".toList)

/-- A local time in the form of the Internet date-time standard. -/
def ZonedInstant.text (zoned : ZonedInstant) : String :=
  String.ofList (Printing.clock zoned.instant zoned.offset 'T' ++ Printing.offset zoned.offset)

end DrivewayWatch
