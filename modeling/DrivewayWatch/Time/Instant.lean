import DrivewayWatch.Time.Calendar
import DrivewayWatch.Time.Duration

/-!
# Instants

An instant is a second of Universal Time and a fraction of it.  A leap second has no number of its
own: it is the second before it with a fraction of one second or more.  `Timeline` names what the
rest of the program asks of instants, so that the same definitions can be read over plain numbers.
-/

namespace DrivewayWatch

/-- What can be asked of points in time: which of two is earlier, how much time lies between them,
and which point lies a duration later.  `inSeconds?` has no answer where the later point is beyond
all points that can be named. -/
class Timeline (T : Type) extends LT T where
  since : T → T → Duration
  later : T → Duration → T
  inSeconds? : T → Int → Option T
  decidableLT : (a b : T) → Decidable (a < b)

instance timelineDecidableLT {T : Type} [Timeline T] (a b : T) : Decidable (a < b) :=
  Timeline.decidableLT a b

/-- A point in time: a second since the beginning of 1970 and the nanoseconds that have passed in
it, at least `10 ^ 9` of them during a leap second. -/
structure Instant where
  second : Int
  nanosecond : Nat
  deriving Repr, DecidableEq

namespace Instant

/-- The instant that lies a number of microseconds after the beginning of 1970. -/
def ofMicroseconds (n : Int) : Instant :=
  ⟨n / 1000000, (n % 1000000).toNat * 1000⟩

/-- The whole microseconds from the beginning of 1970. -/
def toMicroseconds (instant : Instant) : Int :=
  instant.second * 1000000 + instant.nanosecond / 1000

def isBefore (a b : Instant) : Bool :=
  a.second < b.second || (a.second == b.second && a.nanosecond < b.nanosecond)

/-- The second of the day, counted from midnight. -/
def secondOfDay (instant : Instant) : Int :=
  instant.second % 86400

def isLeap (instant : Instant) : Bool :=
  1000000000 ≤ instant.nanosecond

/-- The time from one instant to a later one.  A leap second counts in full if only one of the two
instants lies in it and its second of the day is the lesser one. -/
def since (later earlier : Instant) : Duration :=
  let extra : Int :=
    if earlier.secondOfDay < later.secondOfDay then if earlier.isLeap then 1 else 0
    else if later.secondOfDay < earlier.secondOfDay then if later.isLeap then -1 else 0
    else 0
  ⟨(later.second - earlier.second + extra) * 1000000000 +
    ((later.nanosecond : Int) - earlier.nanosecond)⟩

/-- Adds a whole number of seconds and a fraction of either sign, away from leap seconds. -/
def carry (second : Int) (nanosecond : Int) : Instant :=
  ⟨second + nanosecond / 1000000000, (nanosecond % 1000000000).toNat⟩

/-- The instant that lies a duration later.  A step that leaves a leap second forwards starts from
the second that the leap second belongs to, one that leaves it backwards from the next. -/
def later (instant : Instant) (duration : Duration) : Instant :=
  let seconds := duration.nanoseconds.tdiv 1000000000
  let fraction := duration.nanoseconds.tmod 1000000000
  if instant.isLeap then
    if 0 < seconds ∨ (0 < fraction ∧ 2000000000 - fraction ≤ instant.nanosecond) then
      carry (instant.second + seconds) ((instant.nanosecond : Int) - 1000000000 + fraction)
    else if seconds < 0 then
      carry (instant.second + 1 + seconds) ((instant.nanosecond : Int) - 1000000000 + fraction)
    else
      ⟨instant.second, ((instant.nanosecond : Int) + fraction).toNat⟩
  else carry (instant.second + seconds) (instant.nanosecond + fraction)

def latest : Instant :=
  ⟨(Date.toDays ⟨Date.lastYear, 12, 31⟩ + 1) * 86400 - 1, 999999999⟩

def earliest : Instant :=
  ⟨Date.toDays ⟨Date.firstYear, 1, 1⟩ * 86400, 0⟩

/-- Whether an instant lies in the range that is kept. -/
def isKept (instant : Instant) : Bool :=
  !(instant.isBefore earliest) && !(latest.isBefore instant)

/-- The instant that lies a number of seconds later, if it is one that is kept. -/
def inSeconds? (instant : Instant) (seconds : Int) : Option Instant :=
  let found := instant.later (.seconds seconds)
  if found.isKept then some found else none

instance : LT Instant := ⟨fun a b => isBefore a b = true⟩

instance : Timeline Instant where
  since := since
  later := later
  inSeconds? := inSeconds?
  decidableLT := fun a b => inferInstanceAs (Decidable (isBefore a b = true))

end Instant

end DrivewayWatch
