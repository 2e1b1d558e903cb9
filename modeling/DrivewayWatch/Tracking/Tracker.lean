import DrivewayWatch.Counter
import DrivewayWatch.Notification
import DrivewayWatch.Tracking.Criteria

/-!
# The tracker

The tracker takes detections in order of arrival.  A detection first removes the tracks that have
waited too long for one, then joins the track that it overlaps best, or begins a new one.  The
first time a confirmed track passes the criteria, it is announced.

Time is told by the detections alone, so a sequence of detections determines everything.
-/

namespace DrivewayWatch.Tracker

variable {K T : Type}

def arrivalEvent : String := "arrived in driveway"

/-- What comes of one detection: the live tracks in order of creation, the notification that is
due, and what is counted. -/
structure Outcome (K T : Type) where
  tracks : List (Track K T)
  arrival : Option (Arrival T)
  counts : List Counter

/-- The outcomes while nobody takes arrivals: the first arrival is lost, and nothing follows it. -/
def untaken : List (Outcome K T) → List (Outcome K T)
  | [] => []
  | outcome :: outcomes =>
    if outcome.arrival.isSome then [{ outcome with arrival := none }]
    else outcome :: untaken outcomes

/-- The tracks that have not waited too long when a detection arrives. -/
def prune [Timeline T] (age : Duration) (detection : Detection K T) (tracks : List (Track K T)) :
    List (Track K T) :=
  tracks.filter fun track => decide (Timeline.since detection.time track.lastTime < age)

variable [Scalar K]

/-- How much a detection has to overlap to join a track: half as much again if the classifications
differ. -/
def neededOverlap (settings : TrackerSettings K) (track : Track K T) (detection : Detection K T) :
    K :=
  if track.classification = detection.classification then settings.minOverlap
  else settings.minOverlap * (Scalar.ofNat 3 / Scalar.ofNat 2)

/-- The overlap of a detection with the recent boxes of a track. -/
def overlapWith (track : Track K T) (detection : Detection K T) : K :=
  track.recentBox.overlap detection.box

/-- The place and the overlap of the best match so far and after one more track.  A later track
has to overlap more. -/
def better (settings : TrackerSettings K) (detection : Detection K T) (best : Option (Nat × K))
    (place : Nat) (track : Track K T) : Option (Nat × K) :=
  let overlap := overlapWith track detection
  let wins := match best with
    | none => true
    | some (_, bestOverlap) => decide (bestOverlap < overlap)
  if decide (neededOverlap settings track detection < overlap) && wins then some (place, overlap)
  else best

/-- The best match among the tracks from a place on. -/
def matchFrom (settings : TrackerSettings K) (detection : Detection K T)
    (best : Option (Nat × K)) (place : Nat) : List (Track K T) → Option (Nat × K)
  | [] => best
  | track :: others =>
    matchFrom settings detection (better settings detection best place track) (place + 1) others

/-- The place of the track that a detection joins: of those that it overlaps enough the one that it
overlaps most, and of several such the oldest. -/
def bestMatch? (settings : TrackerSettings K) (tracks : List (Track K T))
    (detection : Detection K T) : Option Nat :=
  (matchFrom settings detection none 0 tracks).map (·.1)

def announce (encode : Frame → Option Bytes) (track : Track K T) : Arrival T :=
  { time := track.firstTime
    classification := track.classification
    event := arrivalEvent
    id := track.id
    photo := encode track.bestFrame
    description := none }

/-- Puts a detection into the track at a place, or into a new one if there is no place. -/
def place (tracks : List (Track K T)) (detection : Detection K T) : Option Nat → List (Track K T)
  | some index => tracks.modify index (·.append detection)
  | none => tracks ++ [Track.start detection]

def isDue [Timeline T] (criteria : Criteria K T) (track : Track K T) : Bool :=
  track.isConfirmed && !track.isNotified && criteria.decide track == .pass

/-- Takes one detection.  `encode` turns a frame into a photo, if it can. -/
def step [Timeline T] (settings : TrackerSettings K) (criteria : Criteria K T)
    (encode : Frame → Option Bytes) (tracks : List (Track K T)) (detection : Detection K T) :
    Outcome K T :=
  let kept := prune settings.pruneAge detection tracks
  let matched := bestMatch? settings kept detection
  let placed := place kept detection matched
  let index := matched.getD kept.length
  let created := match matched with
    | some _ => []
    | none => [Counter.trackCreated detection.classification]
  match placed[index]? with
  | none => ⟨placed, none, created⟩
  | some track =>
    if isDue criteria track then
      { tracks := placed.modify index Track.notified
        arrival := some (announce encode track)
        counts := created ++ [.notificationTriggered track.classification] }
    else ⟨placed, none, created⟩

/-- Takes detections one after another, and returns what came of each. -/
def run [Timeline T] (settings : TrackerSettings K) (criteria : Criteria K T)
    (encode : Frame → Option Bytes) (tracks : List (Track K T)) :
    List (Detection K T) → List (Outcome K T)
  | [] => []
  | detection :: others =>
    let outcome := step settings criteria encode tracks detection
    outcome :: run settings criteria encode outcome.tracks others

end DrivewayWatch.Tracker
