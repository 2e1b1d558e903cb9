import DrivewayWatch.Number.Nearest
import DrivewayWatch.Number.Binary64
import DrivewayWatch.Time.Duration

/-!
# Timeouts

How long a request may take.  Configured seconds are kept between zero and an hour and rounded to
the nearest nanosecond, a tie to the even one.
-/

namespace DrivewayWatch.Timeout

def limitSeconds : Nat := 3600

/-- Whether configured seconds are a timeout: more than none, and not above the limit. -/
def isValid (seconds : Float) : Bool :=
  0.0 < seconds && seconds ≤ Float.ofNat limitSeconds

/-- The nanoseconds nearest to a number of seconds that lies within the limit. -/
def nanoseconds (seconds : Float) : Nat :=
  match Binary64.ofFloat seconds with
  | .finite _ mantissa exponent =>
    Nearest.divideToEven (mantissa * 1000000000 * Nat.pow 2 exponent.toNat)
      (Nat.pow 2 (-exponent).toNat)
  | _ => 0

/-- The timeout of configured seconds; none at all for what is not a number. -/
def ofSeconds (seconds : Float) : Duration :=
  if seconds.isNaN || seconds ≤ 0.0 then ⟨0⟩
  else if Float.ofNat limitSeconds < seconds then .seconds limitSeconds
  else ⟨nanoseconds seconds⟩

/-- The timeout of a sign of life that is due at every tick: a second less than the time between two
ticks, in whole seconds, but at least one. -/
def forTick (tickSeconds : Float) : Duration :=
  let whole := (tickSeconds - 1.0).floor
  ofSeconds (if 1.0 < whole then whole else 1.0)

end DrivewayWatch.Timeout
