import DrivewayWatch.Proofs.Control.Command
import DrivewayWatch.Proofs.Dispatch.Policy
import DrivewayWatch.Proofs.Tracking.Run

/-!
# Parties that share a queue and a mute window

The tracker, the control server and the dispatcher run side by side.  The
tracker queues an announcement when one is due.  The server accepts a command,
sets the deadline of the mute window a while later, and queues an
acknowledgement a while after that; in between it may deal with other commands.
The dispatcher takes the first notification of the queue, and handles it a while
later with the mute window that it meets then.  If that ends dispatching, it
keeps what it has taken and does nothing any more.

An action is what one party does without a break.  A schedule is any sequence of
actions; one whose party has nothing to do at the moment changes nothing.  What
is done is kept as a history of events.
-/

namespace DrivewayWatch

namespace Interplay

variable {K T : Type}

/-- How the parties do their work. -/
structure Setup (K T : Type) where
  tracker : TrackerSettings K
  criteria : Criteria K T
  encode : Frame → Option Bytes
  dispatching : Dispatch.Settings K

/-- What the parties share and what each of them has.  The tracker has its live
tracks and the detections that it has not taken yet; the server has the commands
that it has accepted, with their deadlines, and not set yet, and the
acknowledgements that it has not queued yet; the dispatcher has the notification
that it has taken from the queue and not handled yet, and it may have ended. -/
structure State (K T : Type) where
  mute : MuteWindow T
  queue : List (Notification T)
  tracks : List (Track K T)
  detections : List (Detection K T)
  accepted : List (Control.MuteCommand × T)
  unqueued : List Feedback
  taken : Option (Notification T)
  dispatch : Dispatch.State T
  hasEnded : Bool

/-- Nothing is done, and some detections are still to come. -/
def State.start (detections : List (Detection K T)) : State K T :=
  ⟨.silent, [], [], detections, [], [], none, .start, false⟩

/-- What one party does without a break. -/
inductive Action (T : Type) where
  | track
  | command (now : T) (body : Bytes)
  | setDeadline (place : Nat)
  | acknowledge (place : Nat)
  | take
  | handle (now : T) (world : Dispatch.World)

/-- What comes of an action: a command is accepted, its deadline is set, a
notification is queued, or one is handled. -/
inductive Event (T : Type) where
  | accepted (command : Control.MuteCommand) (deadline : T)
  | set (command : Control.MuteCommand) (deadline : T)
  | queued (notification : Notification T)
  | handled (notification : Notification T) (report : Dispatch.Report T)

/-- Puts a notification at the end of the queue. -/
def enqueue (state : State K T) (notification : Notification T) :
    State K T × Option (Event T) :=
  ({ state with queue := state.queue ++ [notification] },
    some (.queued notification))

/-- The server sets the deadline of one of the commands that it accepted. -/
def setDeadline (state : State K T) (place : Nat) :
    State K T × Option (Event T) :=
  match state.accepted[place]? with
  | none => (state, none)
  | some (command, deadline) =>
    ({ state with
        mute := state.mute.setDeadline deadline
        accepted := state.accepted.eraseIdx place
        unqueued := state.unqueued ++ [command.feedback] },
      some (.set command deadline))

/-- The server queues one of its acknowledgements. -/
def acknowledge (state : State K T) (place : Nat) :
    State K T × Option (Event T) :=
  match state.unqueued[place]? with
  | none => (state, none)
  | some feedback =>
    enqueue { state with unqueued := state.unqueued.eraseIdx place }
      (.feedback feedback)

/-- The dispatcher takes a notification, if it does not have one already. -/
def take (state : State K T) : State K T × Option (Event T) :=
  match state.taken, state.queue with
  | none, notification :: queue =>
    ({ state with taken := some notification, queue }, none)
  | _, _ => (state, none)

variable [Timeline T]

/-- The server judges a body, with the photos that are kept at the moment. -/
def command (state : State K T) (now : T) (body : Bytes) :
    State K T × Option (Event T) :=
  match Control.MuteCommand.accept state.dispatch.photos now body with
  | .error _ => (state, none)
  | .ok (command, deadline) =>
    ({ state with accepted := state.accepted ++ [(command, deadline)] },
      some (.accepted command deadline))

variable [Scalar K] (setup : Setup K T)

/-- The tracker takes a detection, and queues the announcement that is due. -/
def track (state : State K T) : State K T × Option (Event T) :=
  match state.detections with
  | [] => (state, none)
  | detection :: detections =>
    let outcome := Tracker.step setup.tracker setup.criteria setup.encode
      state.tracks detection
    let next := { state with tracks := outcome.tracks, detections }
    match outcome.arrival with
    | none => (next, none)
    | some arrival => enqueue next (.arrival arrival)

/-- The dispatcher handles what it has taken, with the mute window as it is, and
may end with it. -/
def handle (state : State K T) (now : T) (world : Dispatch.World) :
    State K T × Option (Event T) :=
  match state.taken, state.hasEnded with
  | some notification, false =>
    match Dispatch.handle setup.dispatching (world.around state.mute now)
      state.dispatch notification with
    | (dispatch, none) => ({ state with dispatch, hasEnded := true }, none)
    | (dispatch, some report) =>
      ({ state with taken := none, dispatch },
        some (.handled notification report))
  | _, _ => (state, none)

/-- The dispatcher handles what it has taken, or ends with it, or has nothing to
do. -/
theorem handle_cases (state : State K T) (now : T) (world : Dispatch.World) :
    (∃ notification report, state.taken = some notification ∧
      state.hasEnded = false ∧
      (Dispatch.handle setup.dispatching (world.around state.mute now)
        state.dispatch notification).2 = some report ∧
      handle setup state now world =
        ({ state with
            taken := none
            dispatch := (Dispatch.handle setup.dispatching
              (world.around state.mute now) state.dispatch notification).1 },
          some (.handled notification report))) ∨
    (∃ arrival, state.taken = some (.arrival arrival) ∧
      state.hasEnded = false ∧
      Timeline.inSeconds? arrival.time 86400 = none ∧
      handle setup state now world =
        ({ state with
            dispatch := (Dispatch.handle setup.dispatching
              (world.around state.mute now) state.dispatch
                (.arrival arrival)).1
            hasEnded := true }, none)) ∨
    handle setup state now world = (state, none) := by
  cases hasTaken : state.taken with
  | none => exact .inr (.inr (by simp [handle, hasTaken]))
  | some notification =>
      cases hasEnded : state.hasEnded with
      | true => exact .inr (.inr (by simp [handle, hasTaken, hasEnded]))
      | false =>
          cases reported : Dispatch.handle setup.dispatching
              (world.around state.mute now) state.dispatch notification with
          | mk dispatch report =>
              cases report with
              | some report =>
                  refine .inl ⟨notification, report, rfl, rfl, ?_, ?_⟩
                  · rw [reported]
                  · simp [handle, hasTaken, hasEnded, reported]
              | none =>
                  have ends := (Dispatch.handle_eq_none_iff setup.dispatching
                    _ _ _).mp (congrArg Prod.snd reported)
                  obtain ⟨arrival, rfl, -, endless⟩ := ends
                  refine .inr (.inl ⟨arrival, rfl, rfl, endless, ?_⟩)
                  simp [handle, hasTaken, hasEnded, reported]

def act (state : State K T) : Action T → State K T × Option (Event T)
  | .track => track setup state
  | .command now body => command state now body
  | .setDeadline place => setDeadline state place
  | .acknowledge place => acknowledge state place
  | .take => take state
  | .handle now world => handle setup state now world

/-- The state and the history that a schedule leaves. -/
def run (state : State K T) : List (Action T) → State K T × List (Event T)
  | [] => (state, [])
  | action :: schedule =>
    let (next, event) := act setup state action
    let (last, events) := run next schedule
    (last, event.toList ++ events)

theorem run_append (state : State K T) (schedule rest : List (Action T)) :
    run setup state (schedule ++ rest) =
      ((run setup (run setup state schedule).1 rest).1,
        (run setup state schedule).2 ++
          (run setup (run setup state schedule).1 rest).2) := by
  induction schedule generalizing state with
  | nil => rfl
  | cons first schedule ih => simp [run, ih]

/-- A schedule that is longer by one action. -/
theorem run_concat (state : State K T) (schedule : List (Action T))
    (action : Action T) :
    run setup state (schedule ++ [action]) =
      ((act setup (run setup state schedule).1 action).1,
        (run setup state schedule).2 ++
          (act setup (run setup state schedule).1 action).2.toList) := by
  simp [run_append, run]

/-- The server's part of a state, before anything is queued. -/
def serverOf (state : State K T) : Control.State T :=
  { hasMetrics := false
    mute := state.mute
    photos := state.dispatch.photos
    isHeard := true
    queue := []
    counts := [] }

/-- A command whose acts nothing comes between does what it does to a server
that deals with one command after another. -/
theorem run_command_setDeadline_acknowledge {state : State K T}
    (allSet : state.accepted = []) (allQueued : state.unqueued = []) (now : T)
    (body : Bytes) :
    (run setup state
        [.command now body, .setDeadline 0, .acknowledge 0]).1 =
      { state with
        mute := (Control.obey (serverOf state) now body).1.mute
        queue := state.queue ++
          (Control.obey (serverOf state) now body).1.queue.map .feedback } := by
  rcases Control.obey_cases (serverOf state) now body with
    ⟨accepted, deadline, isAccepted, obeyed⟩ | ⟨refusal, isRefused, obeyed⟩
  · have sameAccepted : Control.MuteCommand.accept state.dispatch.photos now
        body = .ok (accepted, deadline) :=
      isAccepted
    rw [obeyed]
    simp [run, act, command, setDeadline, acknowledge, enqueue, sameAccepted,
      allSet, allQueued, Control.push, serverOf]
  · have sameRefused : Control.MuteCommand.accept state.dispatch.photos now
        body = .error refusal :=
      isRefused
    rw [obeyed]
    simp only [run, act, command, setDeadline, acknowledge, sameRefused, allSet,
      allQueued, serverOf, List.getElem?_nil, List.map_nil, List.append_nil]
    rw [← allSet, ← allQueued]

end Interplay

end DrivewayWatch
