import DrivewayWatch.Number.Scalar
import DrivewayWatch.Number.Word

/-!
# Durations

A duration is a signed number of nanoseconds.  Configured seconds become durations by rounding;
seconds too large for the rounding's 64-bit range become the longest duration there is.
-/

namespace DrivewayWatch

/-- A signed span of time. -/
structure Duration where
  nanoseconds : Int
  deriving Repr, DecidableEq

namespace Duration

instance : LT Duration := ⟨fun a b => a.nanoseconds < b.nanoseconds⟩

instance : LE Duration := ⟨fun a b => a.nanoseconds ≤ b.nanoseconds⟩

instance (a b : Duration) : Decidable (a < b) :=
  inferInstanceAs (Decidable (a.nanoseconds < b.nanoseconds))

instance (a b : Duration) : Decidable (a ≤ b) :=
  inferInstanceAs (Decidable (a.nanoseconds ≤ b.nanoseconds))

def seconds (n : Int) : Duration :=
  ⟨n * 1000000000⟩

/-- The duration of a whole number of milliseconds. -/
def milliseconds (n : Int) : Duration :=
  ⟨n * 1000000⟩

/-- The duration of a whole number of microseconds. -/
def microseconds (n : Int) : Duration :=
  ⟨n * 1000⟩

/-- The longest duration: the largest signed 64-bit number of milliseconds. -/
def longest : Duration :=
  milliseconds Word.greatest

def shortest : Duration :=
  milliseconds (-Word.greatest)

/-- The whole milliseconds of a duration; the rest is dropped whatever the sign. -/
def toMilliseconds (duration : Duration) : Int :=
  duration.nanoseconds.tdiv 1000000

/-- Configured seconds as a duration of whole microseconds.  What does not fit 64 bits becomes the
longest duration or its opposite. -/
def ofSeconds {K : Type} [Scalar K] (amount : K) : Duration :=
  match Scalar.round (amount * Scalar.ofNat 1000000) with
  | .integer n =>
    if Word.least ≤ n ∧ n ≤ Word.greatest then microseconds n
    else if n < 0 then shortest else longest
  | .above => longest
  | .below => shortest
  | .undefined => microseconds 0

/-- Configured seconds as a duration of whole milliseconds.  What does not fit 64 bits, and the
lowest 64-bit number itself, become the longest duration on the side that rounding saturates
to. -/
def ofSecondsInMilliseconds {K : Type} [Scalar K] (amount : K) : Duration :=
  match Scalar.round (amount * Scalar.ofNat 1000) with
  | .integer n =>
    if Word.least < n ∧ n ≤ Word.greatest then milliseconds n else longest
  | .above => longest
  | .below => longest
  | .undefined => milliseconds 0

end Duration

end DrivewayWatch
