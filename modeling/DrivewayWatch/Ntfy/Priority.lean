import DrivewayWatch.Text.Blank
import DrivewayWatch.Text.CaseMap

/-!
# Priorities and picture links

The names under which the push service ntfy knows the priority of a message, and the two ways to
link a picture to it.  Names are read in any case and with blanks around them; a number stays a
number and is not turned into the name that means the same.
-/

namespace DrivewayWatch.Ntfy

/-- The priority of a message. -/
inductive Priority where
  | one
  | min
  | two
  | low
  | three
  | default
  | four
  | high
  | five
  | max
  | urgent
  deriving Repr, DecidableEq

namespace Priority

def name : Priority → String
  | one => "1"
  | min => "min"
  | two => "2"
  | low => "low"
  | three => "3"
  | default => "default"
  | four => "4"
  | high => "high"
  | five => "5"
  | max => "max"
  | urgent => "urgent"

def all : List Priority :=
  [one, min, two, low, three, default, four, high, five, max, urgent]

end Priority

/-- How a picture is linked to a message. -/
inductive PictureLink where
  | attach
  | click
  deriving Repr, DecidableEq

namespace PictureLink

def name : PictureLink → String
  | attach => "attach"
  | click => "click"

def all : List PictureLink :=
  [attach, click]

end PictureLink

/-- A name as it is compared: without blanks around it and in lower case. -/
def normalized (text : String) : String :=
  Text.CaseMap.lowercase (Text.trimmed text)

/-- The priority that a text names, or the name that is none. -/
def Priority.read (text : String) : Except String Priority :=
  match all.find? (·.name = normalized text) with
  | some priority => .ok priority
  | none => .error (normalized text)

/-- The way to link a picture that a text names, or the name that is none. -/
def PictureLink.read (text : String) : Except String PictureLink :=
  match all.find? (·.name = normalized text) with
  | some link => .ok link
  | none => .error (normalized text)

end DrivewayWatch.Ntfy
