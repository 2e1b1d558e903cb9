import DrivewayWatch.Configuration
import DrivewayWatch.Dispatch
import DrivewayWatch.HealthPing
import DrivewayWatch.Image.Jpeg.Writing
import DrivewayWatch.Intake.Stream
import DrivewayWatch.Tracking.Tracker

/-!
# Watching

The whole program, line by line: a line of the stream may hold a detection, a detection may be what
a track still lacked to be announced, and an announcement is printed or dispatched.

Once dispatching has ended, nobody takes announcements.  The next one ends tracking; then nobody
takes detections, and the next one ends the run, which has not failed.
-/

namespace DrivewayWatch.Watch

/-- What a run is to do.  Announcements are printed, or else dispatched. -/
structure Plan where
  configuration : Configuration
  criteria : Criteria Float Instant
  prints : Bool

def Plan.make (configuration : Configuration) (prints : Bool) : Except Failure Plan :=
  configuration.readyCriteria.map fun criteria => { configuration, criteria, prints }

def Plan.dispatching (plan : Plan) : Dispatch.Settings Float :=
  ⟨plan.configuration.ntfy, plan.configuration.description⟩

/-- What is remembered between two lines: nothing of the tracks once tracking has ended, and whether
dispatching goes on. -/
structure State where
  intake : Intake.State
  tracks : Option (List (Track Float Instant))
  dispatch : Dispatch.State Instant
  goesOn : Bool

def State.start (plan : Plan) : State :=
  ⟨.start plan.configuration.intake, some [], .start, true⟩

/-- What a line brought: an arrival, how it was dispatched, the health check that was pinged, and
what is counted. -/
structure Effect where
  arrival : Option (Arrival Instant)
  report : Option (Dispatch.Report Instant)
  ping : Option String
  counts : List Counter

/-- The line to print for what was brought, if there is one. -/
def Effect.printedLine (effect : Effect) : Option String :=
  effect.arrival.map (·.printedLine)

/-- Takes a detection, if there is one. -/
def track (plan : Plan) (tracks : List (Track Float Instant)) :
    Option (Detection Float Instant) → Tracker.Outcome Float Instant
  | none => ⟨tracks, none, []⟩
  | some detection =>
    Tracker.step plan.configuration.tracker plan.criteria Jpeg.encode? tracks detection

/-- Dispatches an arrival unless it is to be printed.  If nobody takes it, tracking ends. -/
def announce (plan : Plan) (surroundings : Dispatch.Surroundings Instant) (state : State)
    (arrival : Arrival Instant) : State × Option (Dispatch.Report Instant) :=
  if plan.prints then (state, none)
  else if state.goesOn then
    match Dispatch.handle plan.dispatching surroundings state.dispatch (.arrival arrival) with
    | (dispatch, none) => ({ state with dispatch, goesOn := false }, none)
    | (dispatch, some report) => ({ state with dispatch }, some report)
  else ({ state with tracks := none }, none)

/-- What is counted for a ping, if there is one. -/
def pingCounts (exchange : Net.Exchange) (ping : Option String) : List Counter :=
  HealthPing.counts exchange ping.toList

/-- What a line comes to: it is no text, nobody takes its detection, or it brings something. -/
inductive LineResult where
  | noText
  | unheard
  | taken (next : State) (effect : Effect)

/-- Takes what was read from a line. -/
def take (plan : Plan) (surroundings : Dispatch.Surroundings Instant) (state : State)
    (read : Intake.Step) : LineResult :=
  let pinged := pingCounts surroundings.exchange read.ping
  match state.tracks, read.detection with
  | none, some _ => .unheard
  | none, none => .taken { state with intake := read.state } ⟨none, none, read.ping, pinged⟩
  | some tracks, detection =>
    let outcome := track plan tracks detection
    let tracked := { state with intake := read.state, tracks := some outcome.tracks }
    let (next, report) := match outcome.arrival with
      | none => (tracked, none)
      | some arrival => announce plan surroundings tracked arrival
    let dispatchCounts := match report with
      | some report => report.counts
      | none => []
    .taken next
      { arrival := outcome.arrival
        report
        ping := read.ping
        counts := outcome.counts ++ dispatchCounts ++ pinged }

/-- Takes a line, if it is text. -/
def step (plan : Plan) (surroundings : Dispatch.Surroundings Instant) (state : State)
    (line : Intake.Line) : LineResult :=
  match Intake.step plan.configuration.intake state.intake line with
  | none => .noText
  | some read => take plan surroundings state read

/-- Where lines come from: from nowhere, from something that cannot be read, or from a file or
stream. -/
inductive Source where
  | missing
  | broken
  | lines (lines : List Intake.Line)

/-- What came of a run: what the lines brought, and the failure that ended it early. -/
structure Outcome where
  effects : List Effect
  failure : Option Failure

def runLines (plan : Plan) (around : Intake.Line → Dispatch.Surroundings Instant) (state : State) :
    List Intake.Line → Outcome
  | [] => ⟨[], none⟩
  | line :: lines =>
    match step plan (around line) state line with
    | .noText => ⟨[], some .input⟩
    | .unheard => ⟨[], none⟩
    | .taken next effect =>
      let outcome := runLines plan around next lines
      { outcome with effects := effect :: outcome.effects }

/-- Runs to the end of the input.  The input is opened first, then the control server has to know
where to listen, and then the input is read. -/
def run (plan : Plan) (around : Intake.Line → Dispatch.Surroundings Instant) (input : String)
    (source : Source) : Outcome :=
  match source, plan.configuration.control.socket with
  | .missing, _ => ⟨[], some (.inputFile input)⟩
  | _, .error host => ⟨[], some (.listening host)⟩
  | .broken, .ok _ => ⟨[], some .input⟩
  | .lines lines, .ok _ => runLines plan around (.start plan) lines

def Outcome.printedLines (plan : Plan) (outcome : Outcome) : List String :=
  if plan.prints then outcome.effects.filterMap (·.printedLine) else []

end DrivewayWatch.Watch
