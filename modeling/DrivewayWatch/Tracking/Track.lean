import DrivewayWatch.Detection

/-!
# Tracks

A track collects the detections of one object in order of arrival.  Besides them it keeps the id of
the first one, the frame on which the object covered most, whether any detection was confirmed, and
whether the track was announced.  A track has at least one detection.
-/

namespace DrivewayWatch

/-- The detections of one object. -/
structure Track (K T : Type) where
  id : String
  first : Detection K T
  rest : List (Detection K T)
  bestFrame : Frame
  bestCoverage : K
  isConfirmed : Bool
  isNotified : Bool
  deriving Repr, DecidableEq

/-- Counts a label: one more if it is in the list, else it joins the list at the end. -/
def addVote (votes : List (String × Nat)) (label : String) : List (String × Nat) :=
  match votes with
  | [] => [(label, 1)]
  | (seen, count) :: others =>
    if seen = label then (seen, count + 1) :: others else (seen, count) :: addVote others label

/-- The label with most votes among a leader and the rest; the one that stands earlier wins a
tie. -/
def leading (leader : String × Nat) : List (String × Nat) → String × Nat
  | [] => leader
  | vote :: others => leading (if leader.2 < vote.2 then vote else leader) others

/-- What a rule sees of one detection. -/
structure Sighting (K T : Type) where
  time : T
  classification : String
  box : Box K
  deriving Repr, DecidableEq

/-- What a rule sees of a track: everything but pictures and identifiers. -/
structure TrackView (K T : Type) where
  sightings : List (Sighting K T)
  firstTime : T
  lastTime : T
  firstBox : Box K
  lastBox : Box K
  averageBox : Box K
  totalBox : Box K
  classification : String
  length : Duration
  deriving Repr, DecidableEq

namespace Track

variable {K T : Type}

def detections (track : Track K T) : List (Detection K T) :=
  track.first :: track.rest

def last (track : Track K T) : Detection K T :=
  track.rest.getLast?.getD track.first

def size (track : Track K T) : Nat :=
  track.rest.length + 1

def firstTime (track : Track K T) : T :=
  track.first.time

def lastTime (track : Track K T) : T :=
  track.last.time

def firstBox (track : Track K T) : Box K :=
  track.first.box

def lastBox (track : Track K T) : Box K :=
  track.last.box

def boxes (track : Track K T) : List (Box K) :=
  track.detections.map (·.box)

/-- The votes that the detections give to their classifications. -/
def votes (track : Track K T) : List (String × Nat) :=
  track.detections.foldl (fun votes detection => addVote votes detection.classification) []

/-- The most common classification; the one seen first wins a tie. -/
def classification (track : Track K T) : String :=
  match track.votes with
  | [] => ""
  | vote :: others => (leading vote others).1

/-- The time between the first and the last detection. -/
def length [Timeline T] (track : Track K T) : Duration :=
  Timeline.since track.lastTime track.firstTime

/-- The same track, marked as announced. -/
def notified (track : Track K T) : Track K T :=
  { track with isNotified := true }

variable [Scalar K]

def start (detection : Detection K T) : Track K T :=
  { id := detection.id
    first := detection
    rest := []
    bestFrame := detection.frame
    bestCoverage := detection.box.area
    isConfirmed := detection.isConfirmed
    isNotified := false }

/-- The track with one more detection.  Its frame becomes the best one if its box covers more than
any box before. -/
def append (track : Track K T) (detection : Detection K T) : Track K T :=
  let coverage := detection.box.area
  let isBetter := decide (track.bestCoverage < coverage)
  { track with
    rest := track.rest ++ [detection]
    bestFrame := if isBetter then detection.frame else track.bestFrame
    bestCoverage := if isBetter then coverage else track.bestCoverage
    isConfirmed := track.isConfirmed || detection.isConfirmed }

def averageBox (track : Track K T) : Box K :=
  (Box.mean? track.boxes).getD track.firstBox

def totalBox (track : Track K T) : Box K :=
  (Box.enclosing? track.boxes).getD track.firstBox

/-- The average of the last two boxes of a list that begins with `first`. -/
def lastTwoAverage (first : Box K) : List (Box K) → Box K
  | [] => first
  | [second] => first.average second
  | second :: third :: others => lastTwoAverage second (third :: others)

/-- The average of the last two boxes, or the only box. -/
def recentBox (track : Track K T) : Box K :=
  lastTwoAverage track.firstBox (track.rest.map (·.box))

def view [Timeline T] (track : Track K T) : TrackView K T :=
  { sightings := track.detections.map fun detection =>
      ⟨detection.time, detection.classification, detection.box⟩
    firstTime := track.firstTime
    lastTime := track.lastTime
    firstBox := track.firstBox
    lastBox := track.lastBox
    averageBox := track.averageBox
    totalBox := track.totalBox
    classification := track.classification
    length := track.length }

end Track

/-- The movement from the first box to the last. -/
def TrackView.movement {T : Type} (view : TrackView Float T) : Movement :=
  Movement.between view.firstBox.center view.lastBox.center

end DrivewayWatch
