import DrivewayWatch.Json.Decode
import DrivewayWatch.Time.Duration

/-!
# Settings of tracking

How long a track waits for its next detection, how much a detection has to overlap to join it, and
which tracks are announced.
-/

namespace DrivewayWatch

open Json

/-- What is wrong with the settings of tracking, or with the work done by them. -/
inductive TrackingError where
  | overlapOutOfRange
  | negativePruneAge
  | invalidRule (expression : String)
  | encodingFailed
  deriving Repr, DecidableEq

namespace TrackingError

def message : TrackingError → String
  | overlapOutOfRange => "Configuration error: tracker.track_connect_min_overlap must be in [0, 1]"
  | negativePruneAge =>
    "Configuration error: tracker.inactive_track_prune_s must not be negative"
  | invalidRule expression => "Invalid track rule '" ++ expression ++ "'"
  | encodingFailed => "Image encoding failed"

end TrackingError

/-- How detections are put together to tracks. -/
structure TrackerSettings (K : Type) where
  pruneSeconds : K
  minOverlap : K
  deriving Repr, DecidableEq

namespace TrackerSettings

/-- The settings that are used where none are given. -/
def standard : TrackerSettings Float :=
  { pruneSeconds := 1.0, minOverlap := 0.2 }

def ofDocument? (document : Document) : Option (TrackerSettings Float) := do
  match ← document.fields? ["inactive_track_prune_s", "track_connect_min_overlap"] with
  | [pruneSeconds, minOverlap] =>
    return { pruneSeconds := ← Document.orDefault standard.pruneSeconds (·.float?) pruneSeconds
             minOverlap := ← Document.orDefault standard.minOverlap (·.float?) minOverlap }
  | _ => none

variable {K : Type} [Scalar K]

/-- How old the last detection of a track may not become. -/
def pruneAge (settings : TrackerSettings K) : Duration :=
  Duration.ofSeconds settings.pruneSeconds

/-- The first thing that is wrong with the settings. -/
def fault? (settings : TrackerSettings K) : Option TrackingError :=
  if ¬(Scalar.ofNat 0 ≤ settings.minOverlap ∧ settings.minOverlap ≤ Scalar.ofNat 1) then
    some .overlapOutOfRange
  else if settings.pruneSeconds < Scalar.ofNat 0 then some .negativePruneAge
  else none

end TrackerSettings

/-- Which tracks are announced.  A minimum for a classification replaces the general one. -/
structure CriteriaSettings (K : Type) where
  allowed : Option (List String)
  blocked : Option (List String)
  minSeconds : K
  minSecondsOf : List (String × K)
  rule : Option String
  deriving Repr, DecidableEq

namespace CriteriaSettings

/-- The criteria that are used where none are given. -/
def standard : CriteriaSettings Float :=
  { allowed := none, blocked := none, minSeconds := 1.0, minSecondsOf := [], rule := none }

def ofDocument? (document : Document) : Option (CriteriaSettings Float) := do
  match ← document.fields? ["classification_allowlist", "classification_blocklist",
      "min_track_length_s", "min_track_length_s_per_classification", "track_cel"] with
  | [allowed, blocked, minSeconds, minSecondsOf, rule] =>
    let names := Document.optional? (Document.list? (·.text?))
    return { allowed := ← Document.orDefault none names allowed
             blocked := ← Document.orDefault none names blocked
             minSeconds := ← Document.orDefault standard.minSeconds (·.float?) minSeconds
             minSecondsOf := ← Document.orDefault [] (·.entries? (·.float?)) minSecondsOf
             rule := ← Document.orDefault none (·.optional? (·.text?)) rule }
  | _ => none

variable {K : Type} [Scalar K]

/-- How long a track of a classification has to be. -/
def minLength (settings : CriteriaSettings K) (classification : String) : Duration :=
  Duration.ofSeconds ((settings.minSecondsOf.lookup classification).getD settings.minSeconds)

end CriteriaSettings

end DrivewayWatch
