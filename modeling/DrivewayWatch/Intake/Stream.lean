import DrivewayWatch.Intake.Liveness
import DrivewayWatch.Intake.Record
import DrivewayWatch.Intake.Settings
import DrivewayWatch.Text.Lines

/-!
# The stream of detections

Records arrive line by line.  A line that is blank, or that yields no detection, is skipped.  A
record uses the frame that was decoded last if both give the same number for it, and else brings
its own.  After every line the clock is looked at, and a report that is due pings the health check.

The stream ends with its last line, with a line that is no text, or when nobody takes detections any
more.
-/

namespace DrivewayWatch.Intake

/-- A line of the stream, the time when it is read, and the id of the detection that it may
yield. -/
structure Line where
  bytes : Bytes
  time : Instant
  id : String

/-- The frame that was decoded last, under the number of its record, and the liveness. -/
structure State where
  current : Option (Option Nat × Frame)
  liveness : Liveness Instant

def State.start {K : Type} [Scalar K] (settings : Settings K) : State :=
  ⟨none, .start settings.tickSeconds⟩

/-- The frame that was decoded last, if it has the number of a record. -/
def State.frame? (state : State) (number : Option Nat) : Option Frame :=
  match state.current, number with
  | some (some current, frame), some number => if current = number then some frame else none
  | _, _ => none

/-- The frame of a record, and the state once it is known. -/
def frameFor (state : State) (record : Record) : Except RecordFault (Frame × State) :=
  match state.frame? record.frame with
  | some frame => .ok (frame, state)
  | none =>
    match record.image with
    | none => .error .noPicture
    | some image =>
      match frameOf image with
      | .error fault => .error fault
      | .ok frame =>
        .ok (frame,
          { current := some (record.frame, frame), liveness := state.liveness.countFrame })

/-- The detection that a record yields.  A record without a time counts as taken when it is
read. -/
def detectionOf (state : State) (record : Record) (time : Instant) (id : String) :
    Except RecordFault (Detection Float Instant × State) :=
  match frameFor state record with
  | .error fault => .error fault
  | .ok (frame, state) =>
    .ok ({ id
           time := record.time.getD time
           modelId := record.modelId
           classification := record.classification
           isConfirmed := record.isConfirmed
           box := record.box
           frame }, state)

/-- What a line comes to. -/
inductive LineResult where
  | blank
  | detection (detection : Detection Float Instant) (state : State)
  | skipped (fault : RecordFault)

def resultOf (state : State) (text : List Char) (time : Instant) (id : String) : LineResult :=
  let content := Text.trim text
  if content.isEmpty then .blank
  else
    match Record.read? content with
    | none => .skipped .unreadable
    | some record =>
      match detectionOf state record time id with
      | .error fault => .skipped fault
      | .ok (detection, state) => .detection detection state

/-- The detection of a line, if it has one. -/
def LineResult.detection? : LineResult → Option (Detection Float Instant)
  | detection found _ => some found
  | _ => none

def LineResult.stateFrom (state : State) : LineResult → State
  | detection _ next => next
  | _ => state

/-- Looks at the clock, and names the health check that is to be pinged. -/
def tick {K : Type} (settings : Settings K) (state : State) (now : Instant) :
    State × Option String :=
  match state.liveness.tick now with
  | (liveness, some _) => ({ state with liveness }, settings.pingUrl)
  | (liveness, none) => ({ state with liveness }, none)

/-- What one line brings: the state after it, its detection, and the health check to ping. -/
structure Step where
  state : State
  detection : Option (Detection Float Instant)
  ping : Option String

/-- Reads a line, if it is text. -/
def step {K : Type} (settings : Settings K) (state : State) (line : Line) : Option Step :=
  (Text.Utf8.decode line.bytes).map fun text =>
    let result := resultOf state text line.time line.id
    let (next, ping) := tick settings (result.stateFrom state) line.time
    ⟨next, result.detection?, ping⟩

/-- Why a stream ended. -/
inductive Ending where
  | complete
  | noText
  | unheard
  deriving Repr, DecidableEq

/-- What came of a stream: its detections, the health checks that were pinged, and why it ended. -/
structure Outcome where
  detections : List (Detection Float Instant)
  pings : List String
  ending : Ending

def Outcome.ended (ending : Ending) : Outcome :=
  ⟨[], [], ending⟩

def Outcome.after (outcome : Outcome) (step : Step) : Outcome :=
  { outcome with
    detections := step.detection.toList ++ outcome.detections
    pings := step.ping.toList ++ outcome.pings }

/-- How many detections are still taken after a line. -/
def stillHeard (step : Step) (heard : Option Nat) : Option Nat :=
  if step.detection.isSome then heard.map (· - 1) else heard

/-- Reads a stream.  `heard` is how many detections are taken, if not all. -/
def run {K : Type} (settings : Settings K) (heard : Option Nat) (state : State) :
    List Line → Outcome
  | [] => .ended .complete
  | line :: lines =>
    match step settings state line with
    | none => .ended .noText
    | some step =>
      if step.detection.isSome ∧ heard = some 0 then .ended .unheard
      else (run settings (stillHeard step heard) step.state lines).after step

end DrivewayWatch.Intake
