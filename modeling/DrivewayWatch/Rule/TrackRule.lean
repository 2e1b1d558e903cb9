import DrivewayWatch.Rule.Evaluation
import DrivewayWatch.Tracking.Criteria

/-!
# Rules about tracks

A rule is an expression over the variable `track`.  It judges a track if its value is a truth value.
-/

namespace DrivewayWatch.Rule

/-- A map whose keys are texts, at a place of the view. -/
def record (path : List String) (entries : List (String × Value)) : Value :=
  .map (entries.map fun entry => (.string entry.1, entry.2)) (some path)

def pointValue (path : List String) (point : Point Float) : Value :=
  record path [("x", .float point.x), ("y", .float point.y)]

def boxValue (path : List String) (box : Box Float) : Value :=
  record path [("a", pointValue ("a" :: path) box.a), ("b", pointValue ("b" :: path) box.b),
    ("w", .float box.width), ("h", .float box.height),
    ("center", pointValue ("center" :: path) box.center), ("area", .float box.area)]

/-- An instant as a value, on the clock of Universal Time. -/
def timeValue (instant : Instant) : Value :=
  .timestamp ⟨instant, 0⟩

def sightingValue (path : List String) (sighting : Sighting Float Instant) : Value :=
  record path [("t", timeValue sighting.time), ("classification", .string sighting.classification),
    ("box", boxValue ("box" :: path) sighting.box)]

def movementValue (path : List String) (movement : Movement) : Value :=
  record path [("direction", .float movement.direction), ("length", .float movement.length)]

def sightingsValue (path : List String) (sightings : List (Sighting Float Instant)) : Value :=
  .list (sightings.mapIdx fun index sighting =>
    sightingValue (Decimal.text index :: path) sighting) (some path)

def trackValue (view : TrackView Float Instant) : Value :=
  record [] [("predictions", sightingsValue ["predictions"] view.sightings),
    ("first_t", timeValue view.firstTime), ("last_t", timeValue view.lastTime),
    ("first_box", boxValue ["first_box"] view.firstBox),
    ("last_box", boxValue ["last_box"] view.lastBox),
    ("average_box", boxValue ["average_box"] view.averageBox),
    ("total_box", boxValue ["total_box"] view.totalBox),
    ("classification", .string view.classification), ("length_t", .duration view.length),
    ("movement_vector", movementValue ["movement_vector"] view.movement)]

def judge (expression : Expression) (view : TrackView Float Instant) : Except Fault Bool := do
  match ← expression.evaluate [("track", trackValue view)] with
  | .bool holds => return holds
  | value => .error (.notBoolean value.type)

def compile (text : String) : Except TrackingError (Judgement Float Instant) :=
  match Expression.read? text with
  | some expression => .ok (judge expression)
  | none => .error (.invalidRule text)

end DrivewayWatch.Rule
