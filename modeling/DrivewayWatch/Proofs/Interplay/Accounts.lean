import DrivewayWatch.Proofs.Interplay.Parties
import Mathlib.Data.List.Perm.Basic

/-!
# Accounts of what is queued, handled and set

Whatever the schedule, five accounts balance.  What was handled, what the
dispatcher has taken and what is in the queue are together what was queued.
What the tracker queued and what it will still announce are together what it
announces of its detections when it is alone.  The commands whose deadlines were
set and those whose deadlines are still to be are those that were accepted; the
acknowledgements that were queued and those that are still to be are those of
the former.  And the mute window is that of the last deadline that was set.
-/

namespace DrivewayWatch

/-- The arrival that a notification announces, if it announces one. -/
@[simp]
def Notification.arrival? {T : Type} : Notification T → Option (Arrival T)
  | .arrival announced => some announced
  | .feedback _ => none

/-- The command that a notification acknowledges, if it acknowledges one. -/
@[simp]
def Notification.feedback? {T : Type} : Notification T → Option Feedback
  | .arrival _ => none
  | .feedback owed => some owed

namespace Interplay

variable {K T : Type}

@[simp]
def Event.queued? : Event T → Option (Notification T)
  | .accepted _ _ => none
  | .set _ _ => none
  | .queued notification => some notification
  | .handled _ _ => none

@[simp]
def Event.handled? : Event T → Option (Notification T × Dispatch.Report T)
  | .accepted _ _ => none
  | .set _ _ => none
  | .queued _ => none
  | .handled notification report => some (notification, report)

@[simp]
def Event.accepted? : Event T → Option (Control.MuteCommand × T)
  | .accepted command deadline => some (command, deadline)
  | .set _ _ => none
  | .queued _ => none
  | .handled _ _ => none

@[simp]
def Event.set? : Event T → Option (Control.MuteCommand × T)
  | .accepted _ _ => none
  | .set command deadline => some (command, deadline)
  | .queued _ => none
  | .handled _ _ => none

/-- The notifications that were queued. -/
def queuedIn (events : List (Event T)) : List (Notification T) :=
  events.filterMap Event.queued?

/-- The notifications that were handled, with the reports. -/
def handledIn (events : List (Event T)) :
    List (Notification T × Dispatch.Report T) :=
  events.filterMap Event.handled?

/-- The commands that were accepted, with their deadlines. -/
def acceptedIn (events : List (Event T)) : List (Control.MuteCommand × T) :=
  events.filterMap Event.accepted?

/-- The commands whose deadlines were set, with their deadlines. -/
def setIn (events : List (Event T)) : List (Control.MuteCommand × T) :=
  events.filterMap Event.set?

/-- The deadline that was set last. -/
def lastDeadline (events : List (Event T)) : Option T :=
  (setIn events).getLast?.map Prod.snd

/-- The acknowledgements that commands are owed. -/
def owed (commands : List (Control.MuteCommand × T)) : List Feedback :=
  commands.map (·.1.feedback)

def arrivalsOf (notifications : List (Notification T)) : List (Arrival T) :=
  notifications.filterMap Notification.arrival?

def feedbackOf (notifications : List (Notification T)) : List Feedback :=
  notifications.filterMap Notification.feedback?

section Histories

variable (events : List (Event T)) (event : Event T)

theorem filterMap_concat {A B : Type} (f : A → Option B) (list : List A)
    (last : A) :
    (list ++ [last]).filterMap f = list.filterMap f ++ (f last).toList := by
  cases found : f last <;> simp [found]

@[simp]
theorem queuedIn_concat :
    queuedIn (events ++ [event]) = queuedIn events ++ event.queued?.toList :=
  filterMap_concat ..

@[simp]
theorem handledIn_concat :
    handledIn (events ++ [event]) = handledIn events ++ event.handled?.toList :=
  filterMap_concat ..

@[simp]
theorem acceptedIn_concat :
    acceptedIn (events ++ [event]) =
      acceptedIn events ++ event.accepted?.toList :=
  filterMap_concat ..

@[simp]
theorem setIn_concat :
    setIn (events ++ [event]) = setIn events ++ event.set?.toList :=
  filterMap_concat ..

variable (notifications : List (Notification T)) (notification : Notification T)

@[simp]
theorem arrivalsOf_concat :
    arrivalsOf (notifications ++ [notification]) =
      arrivalsOf notifications ++ notification.arrival?.toList :=
  filterMap_concat ..

@[simp]
theorem feedbackOf_concat :
    feedbackOf (notifications ++ [notification]) =
      feedbackOf notifications ++ notification.feedback?.toList :=
  filterMap_concat ..

end Histories

section Accounts

variable [Scalar K] [Timeline T] (setup : Setup K T)

/-- What the tracker announces of detections when it is alone. -/
def announcements (tracks : List (Track K T))
    (detections : List (Detection K T)) : List (Arrival T) :=
  Tracker.arrivals (Tracker.run setup.tracker setup.criteria setup.encode tracks
    detections)

theorem announcements_cons (tracks : List (Track K T))
    (detection : Detection K T) (detections : List (Detection K T)) :
    announcements setup tracks (detection :: detections) =
      (Tracker.step setup.tracker setup.criteria setup.encode tracks
        detection).arrival.toList ++
        announcements setup (Tracker.step setup.tracker setup.criteria
          setup.encode tracks detection).tracks detections :=
  Tracker.arrivals_cons _ _

/-- The accounts of a history that began with certain detections to come. -/
structure Accounts (detections : List (Detection K T)) (state : State K T)
    (events : List (Event T)) : Prop where
  queue : (handledIn events).map Prod.fst ++ state.taken.toList ++ state.queue =
    queuedIn events
  arrivals : arrivalsOf (queuedIn events) ++
      announcements setup state.tracks state.detections =
    announcements setup [] detections
  commands : (setIn events ++ state.accepted).Perm (acceptedIn events)
  feedback : (feedbackOf (queuedIn events) ++ state.unqueued).Perm
    (owed (setIn events))
  deadline : state.mute.deadline = lastDeadline events

variable {setup} {detections : List (Detection K T)} {state : State K T}
  {events : List (Event T)}

theorem accounts_start : Accounts setup detections (.start detections) [] :=
  ⟨rfl, rfl, .nil, .nil, rfl⟩

theorem Accounts.track (accounts : Accounts setup detections state events) :
    Accounts setup detections (track setup state).1
      (events ++ (track setup state).2.toList) := by
  obtain ⟨queue, arrivals, commands, feedback, deadline⟩ := accounts
  unfold Interplay.track
  cases toCome : state.detections with
  | nil => simpa using ⟨queue, toCome ▸ arrivals, commands, feedback, deadline⟩
  | cons detection rest =>
      rw [toCome, announcements_cons] at arrivals
      cases due : (Tracker.step setup.tracker setup.criteria setup.encode
          state.tracks detection).arrival with
      | none =>
          rw [due] at arrivals
          simp only [due, Option.toList_none, List.append_nil]
          exact ⟨queue, arrivals, commands, feedback, deadline⟩
      | some arrival =>
          rw [due] at arrivals
          simp only [due, enqueue, Option.toList_some]
          refine ⟨?_, ?_, ?_, ?_, ?_⟩
          · simp [← queue]
          · simpa using arrivals
          · simpa using commands
          · simpa using feedback
          · simpa [lastDeadline] using deadline

theorem Accounts.command (accounts : Accounts setup detections state events)
    (now : T) (body : Bytes) :
    Accounts setup detections (command state now body).1
      (events ++ (command state now body).2.toList) := by
  obtain ⟨queue, arrivals, commands, feedback, deadline⟩ := accounts
  unfold Interplay.command
  cases Control.MuteCommand.accept state.dispatch.photos now body with
  | error refusal =>
      simpa using ⟨queue, arrivals, commands, feedback, deadline⟩
  | ok accepted =>
      refine ⟨?_, ?_, ?_, ?_, ?_⟩
      · simpa using queue
      · simpa using arrivals
      · simpa using commands.append_right [accepted]
      · simpa using feedback
      · simpa [lastDeadline] using deadline

theorem Accounts.setDeadline (accounts : Accounts setup detections state events)
    (place : Nat) :
    Accounts setup detections (setDeadline state place).1
      (events ++ (setDeadline state place).2.toList) := by
  obtain ⟨queue, arrivals, commands, feedback, deadline⟩ := accounts
  unfold Interplay.setDeadline
  cases found : state.accepted[place]? with
  | none => simpa using ⟨queue, arrivals, commands, feedback, deadline⟩
  | some next =>
      obtain ⟨inside, rfl⟩ := List.getElem?_eq_some_iff.mp found
      have moved := List.getElem_cons_eraseIdx_perm inside
      refine ⟨?_, ?_, ?_, ?_, ?_⟩
      · simpa using queue
      · simpa using arrivals
      · simpa using (moved.append_left (setIn events)).trans commands
      · have owedNow :=
          feedback.append_right [state.accepted[place].1.feedback]
        simpa [owed] using owedNow
      · simp [lastDeadline, MuteWindow.setDeadline]

theorem Accounts.acknowledge (accounts : Accounts setup detections state events)
    (place : Nat) :
    Accounts setup detections (acknowledge state place).1
      (events ++ (acknowledge state place).2.toList) := by
  obtain ⟨queue, arrivals, commands, feedback, deadline⟩ := accounts
  unfold Interplay.acknowledge
  cases found : state.unqueued[place]? with
  | none => simpa using ⟨queue, arrivals, commands, feedback, deadline⟩
  | some next =>
      obtain ⟨inside, rfl⟩ := List.getElem?_eq_some_iff.mp found
      have moved := List.getElem_cons_eraseIdx_perm inside
      refine ⟨?_, ?_, ?_, ?_, ?_⟩
      · simp [enqueue, ← queue]
      · simpa [enqueue] using arrivals
      · simpa [enqueue] using commands
      · have owed := (moved.append_left
          (feedbackOf (queuedIn events))).trans feedback
        simpa [enqueue] using owed
      · simpa [enqueue, lastDeadline] using deadline

theorem Accounts.take (accounts : Accounts setup detections state events) :
    Accounts setup detections (take state).1
      (events ++ (take state).2.toList) := by
  obtain ⟨queue, arrivals, commands, feedback, deadline⟩ := accounts
  unfold Interplay.take
  cases hasTaken : state.taken with
  | some notification =>
      simpa using ⟨queue, arrivals, commands, feedback, deadline⟩
  | none =>
      cases inQueue : state.queue with
      | nil => simpa using ⟨queue, arrivals, commands, feedback, deadline⟩
      | cons notification rest =>
          rw [hasTaken, inQueue] at queue
          simp only [Option.toList_none, List.append_nil]
          exact ⟨by simpa using queue, arrivals, commands, feedback, deadline⟩

theorem Accounts.handle (accounts : Accounts setup detections state events)
    (now : T) (world : Dispatch.World) :
    Accounts setup detections (handle setup state now world).1
      (events ++ (handle setup state now world).2.toList) := by
  rcases handle_cases setup state now world with
    ⟨notification, report, hasTaken, -, -, acted⟩ |
      ⟨arrival, -, -, -, acted⟩ | acted
  · obtain ⟨queue, arrivals, commands, feedback, deadline⟩ := accounts
    rw [hasTaken] at queue
    rw [acted]
    refine ⟨?_, ?_, ?_, ?_, ?_⟩
    · simpa using queue
    · simpa using arrivals
    · simpa using commands
    · simpa using feedback
    · simpa [lastDeadline] using deadline
  · obtain ⟨queue, arrivals, commands, feedback, deadline⟩ := accounts
    rw [acted, Option.toList_none, List.append_nil]
    exact ⟨queue, arrivals, commands, feedback, deadline⟩
  · rw [acted, Option.toList_none, List.append_nil]
    exact accounts

theorem Accounts.act (accounts : Accounts setup detections state events)
    (action : Action T) :
    Accounts setup detections (act setup state action).1
      (events ++ (act setup state action).2.toList) := by
  cases action with
  | track => exact accounts.track
  | command now body => exact accounts.command now body
  | setDeadline place => exact accounts.setDeadline place
  | acknowledge place => exact accounts.acknowledge place
  | take => exact accounts.take
  | handle now world => exact accounts.handle now world

variable (setup) (detections)

theorem accounts_run (schedule : List (Action T)) :
    Accounts setup detections (run setup (.start detections) schedule).1
      (run setup (.start detections) schedule).2 := by
  induction schedule using List.reverseRecOn with
  | nil => exact accounts_start
  | append_singleton schedule action ih =>
      rw [run_concat]
      exact ih.act action

end Accounts

end Interplay

end DrivewayWatch
