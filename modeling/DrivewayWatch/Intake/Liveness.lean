import DrivewayWatch.Time.Instant

/-!
# Liveness

While detections come in, a report is due from time to time.  It tells how many frames were decoded
since the last report and, from the second one on, how many that is in a second.
-/

namespace DrivewayWatch.Intake

/-- How much time lies between two reports at least, when the last report was due, and how many
frames were decoded since. -/
structure Liveness (T : Type) where
  interval : Duration
  lastReport : Option T
  frames : Nat
  deriving Repr, DecidableEq

/-- A report: how many frames were decoded, and in how much time if there was a report before. -/
structure LivenessReport where
  frames : Nat
  elapsed : Option Duration
  deriving Repr, DecidableEq

/-- The frames in a second.  The time counts in whole milliseconds. -/
def LivenessReport.framesPerSecond (report : LivenessReport) : Option Float :=
  report.elapsed.map fun elapsed =>
    Float.ofNat report.frames / (Float.ofInt elapsed.toMilliseconds / 1000.0)

namespace Liveness

variable {T : Type}

def start {K : Type} [Scalar K] (intervalSeconds : K) : Liveness T :=
  { interval := .ofSecondsInMilliseconds intervalSeconds, lastReport := none, frames := 0 }

def countFrame (liveness : Liveness T) : Liveness T :=
  { liveness with frames := liveness.frames + 1 }

variable [Timeline T]

/-- The report that is due at a time.  The first one is always due, a later one when more than the
interval has passed. -/
def due? (liveness : Liveness T) (now : T) : Option LivenessReport :=
  match liveness.lastReport with
  | none => some ⟨liveness.frames, none⟩
  | some last =>
    let elapsed := Timeline.since now last
    if liveness.interval < elapsed then some ⟨liveness.frames, some elapsed⟩ else none

/-- Looks at the clock: if a report is due, it is given and counting begins again. -/
def tick (liveness : Liveness T) (now : T) : Liveness T × Option LivenessReport :=
  match liveness.due? now with
  | some report => ({ liveness with lastReport := some now, frames := 0 }, some report)
  | none => (liveness, none)

end Liveness

end DrivewayWatch.Intake
