import DrivewayWatch.Json.Decode
import DrivewayWatch.Number.Scalar

/-!
# Settings of the intake

How often a report is due while detections come in, and whom to tell at every report.
-/

namespace DrivewayWatch.Intake

open Json

/-- The time between two reports in seconds, and the address of a health check. -/
structure Settings (K : Type) where
  tickSeconds : K
  pingUrl : Option String
  deriving Repr, DecidableEq

namespace Settings

/-- The settings that are used where none are given. -/
def standard : Settings Float :=
  { tickSeconds := 30.0, pingUrl := none }

def ofDocument? (document : Document) : Option (Settings Float) := do
  match ← document.fields? ["liveness_tick_s", "healthcheck_ping_url"] with
  | [tickSeconds, pingUrl] =>
    return { tickSeconds := ← Document.orDefault standard.tickSeconds (·.float?) tickSeconds
             pingUrl := ← Document.orDefault none (·.optional? (·.text?)) pingUrl }
  | _ => none

/-- The least number of seconds between two reports. -/
def leastTickSeconds : Nat := 5

/-- The greatest number of seconds between two reports: those of a day. -/
def greatestTickSeconds : Nat := 86400

/-- Whether the time between two reports is in its range. -/
def hasValidTick {K : Type} [Scalar K] (settings : Settings K) : Bool :=
  Scalar.ofNat leastTickSeconds ≤ settings.tickSeconds &&
    settings.tickSeconds ≤ Scalar.ofNat greatestTickSeconds

end Settings

end DrivewayWatch.Intake
