import DrivewayWatch.Text.CaseMap
import DrivewayWatch.Time.Printing
import DrivewayWatch.Text.Utf8

/-!
# Notifications

A notification announces that an object arrived, or acknowledges a mute command.  Here is what it
says: its title, its message, its tag, and the line that stands for it where notifications are only
printed.
-/

namespace DrivewayWatch

open Text

/-- Announces an object.  Its id names the track that it belongs to and the photo that it shows. -/
structure Arrival (T : Type) where
  time : T
  classification : String
  event : String
  id : String
  photo : Option Bytes
  description : Option String
  deriving Repr, DecidableEq

/-- Acknowledges a command, and repeats the key of the photo that it was given with. -/
inductive Feedback where
  | muted (key : String) (seconds : Option Int)
  | unmuted (key : String)
  deriving Repr, DecidableEq

/-- Something to tell the owner. -/
inductive Notification (T : Type) where
  | arrival (arrival : Arrival T)
  | feedback (feedback : Feedback)
  deriving Repr, DecidableEq

namespace Arrival

variable {T : Type}

/-- The classification and the event as one sentence. -/
def title (arrival : Arrival T) : String :=
  CaseMap.capitalized (arrival.classification ++ " " ++ arrival.event)

/-- The description if there is one, else the title. -/
def message (arrival : Arrival T) : String :=
  match arrival.description with
  | some description =>
    if description.isEmpty then arrival.title
    else CaseMap.capitalized ("Likely: " ++ description ++ ".")
  | none => arrival.title

/-- The short code of the picture shown with the notification. -/
def tag (arrival : Arrival T) : String :=
  if arrival.classification = "car" then "blue_car"
  else if arrival.classification = "truck" then "truck"
  else if arrival.classification = "person" then "walking"
  else "camera_flash"

def describedAs (arrival : Arrival T) (description : String) : Arrival T :=
  { arrival with description := some description }

def announcement (arrival : Arrival T) : String :=
  CaseMap.capitalized arrival.classification ++ " " ++ arrival.event

end Arrival

def Arrival.printedLine (arrival : Arrival Instant) : String :=
  "***NOTIFICATION*** at " ++ arrival.time.text ++ ": " ++ arrival.announcement

namespace Feedback

def title : String := "driveway-monitor"

def message : Feedback → String
  | muted _ _ => "Notifications muted."
  | unmuted _ => "Notifications unmuted."

/-- The short code of the picture shown with an acknowledgement. -/
def tag : Feedback → String
  | muted _ _ => "mute"
  | unmuted _ => "loud_sound"

end Feedback

namespace Notification

variable {T : Type}

def title : Notification T → String
  | arrival a => a.title
  | feedback _ => Feedback.title

def message : Notification T → String
  | arrival a => a.message
  | feedback f => f.message

/-- The short code of the picture shown with a notification. -/
def tag : Notification T → String
  | arrival a => a.tag
  | feedback f => f.tag

end Notification

end DrivewayWatch
