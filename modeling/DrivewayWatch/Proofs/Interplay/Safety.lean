import DrivewayWatch.Proofs.Interplay.Accounts

/-!
# What holds of every schedule

However the actions of the tracker, the server and the dispatcher fall, every
notification is handled once and in the order of the queue.  So the arrivals
that are handled are those that the tracker announces, in its order, up to some
point; an acknowledgement is handled at most once, and none gets lost.  An
arrival is muted by the deadline that was set last before it is handled,
whenever it was queued.

Every schedule can go on until nothing is left to do, unless dispatching ends;
and it ends only with an arrival after which a day has no end.
-/

namespace DrivewayWatch

namespace Interplay

variable {K T : Type}

theorem split_concat {A : Type} {list before after : List A} {last one : A}
    (split : list ++ [last] = before ++ one :: after) :
    before = list ∧ one = last ∨ ∃ rest, list = before ++ one :: rest := by
  rcases List.eq_nil_or_concat after with rfl | ⟨rest, final, rfl⟩
  · obtain ⟨sameBefore, sameLast⟩ := List.append_inj' split rfl
    exact .inl ⟨sameBefore.symm, (List.singleton_inj.mp sameLast).symm⟩
  · have longer : list ++ [last] = (before ++ one :: rest) ++ [final] := by
      simpa using split
    exact .inr ⟨rest, (List.append_inj' longer rfl).1⟩

/-- The notifications that were handled. -/
def handledOf (events : List (Event T)) : List (Notification T) :=
  (handledIn events).map Prod.fst

section Muting

variable [Timeline T]

/-- An arrival that is handled with a report after a history is muted by the
deadline that was set last, if it is dated before it, and else not at all. -/
def IsMutedByLast (before : List (Event T)) (arrival : Arrival T)
    (report : Dispatch.Report T) : Prop :=
  ∀ deadline, report.outcome = .suppressed (.muted deadline) ↔
    lastDeadline before = some deadline ∧ arrival.time < deadline

/-- Each arrival in a history is muted by the deadline that was set last before
it was handled. -/
def MutesByLast (events : List (Event T)) : Prop :=
  ∀ before arrival report after,
    events = before ++ .handled (.arrival arrival) report :: after →
      IsMutedByLast before arrival report

theorem MutesByLast.append {events : List (Event T)}
    (mutes : MutesByLast events) {event : Option (Event T)}
    (mutesNext : ∀ arrival report,
      event = some (.handled (.arrival arrival) report) →
        IsMutedByLast events arrival report) :
    MutesByLast (events ++ event.toList) := by
  cases event with
  | none => simpa using mutes
  | some event =>
      intro before arrival report after split
      rcases split_concat split with ⟨rfl, isLast⟩ | ⟨rest, inside⟩
      · exact mutesNext arrival report (congrArg some isLast.symm)
      · exact mutes before arrival report rest inside

end Muting

variable [Scalar K] [Timeline T] {setup : Setup K T} {state : State K T}

/-- Only the dispatcher handles anything, and with the mute window as it is. -/
theorem exists_handle_of_act {action : Action T} {notification : Notification T}
    {report : Dispatch.Report T}
    (isHandled : (act setup state action).2 =
      some (.handled notification report)) :
    ∃ surroundings : Dispatch.Surroundings T, surroundings.mute = state.mute ∧
      (Dispatch.handle setup.dispatching surroundings state.dispatch
        notification).2 = some report := by
  cases action with
  | track =>
      simp only [act, track] at isHandled
      split at isHandled
      · cases isHandled
      · split at isHandled <;> cases isHandled
  | command now body =>
      simp only [act, command] at isHandled
      split at isHandled <;> cases isHandled
  | setDeadline place =>
      simp only [act, setDeadline] at isHandled
      split at isHandled <;> cases isHandled
  | acknowledge place =>
      simp only [act, acknowledge] at isHandled
      split at isHandled <;> cases isHandled
  | take =>
      simp only [act, take] at isHandled
      split at isHandled <;> cases isHandled
  | handle now world =>
      rw [act] at isHandled
      rcases handle_cases setup state now world with
        ⟨_, _, -, -, reported, acted⟩ | ⟨_, -, -, -, acted⟩ | acted
      · rw [acted] at isHandled
        cases isHandled
        exact ⟨world.around state.mute now, rfl, reported⟩
      · rw [acted] at isHandled
        cases isHandled
      · rw [acted] at isHandled
        cases isHandled

/-- If dispatching has ended, then with an arrival after which a day has no end;
the dispatcher still has it. -/
def State.EndsProperly (state : State K T) : Prop :=
  state.hasEnded = true → ∃ arrival, state.taken = some (.arrival arrival) ∧
    Timeline.inSeconds? arrival.time 86400 = none

theorem State.EndsProperly.act (endsProperly : state.EndsProperly)
    (action : Action T) : (act setup state action).1.EndsProperly := by
  cases action with
  | track =>
      simp only [Interplay.act, track]
      split
      · exact endsProperly
      · split <;> exact endsProperly
  | command now body =>
      simp only [Interplay.act, command]
      split <;> exact endsProperly
  | setDeadline place =>
      simp only [Interplay.act, setDeadline]
      split <;> exact endsProperly
  | acknowledge place =>
      simp only [Interplay.act, acknowledge]
      split <;> exact endsProperly
  | take =>
      simp only [Interplay.act, take]
      split
      · next noneTaken _ =>
          intro hasEnded
          obtain ⟨arrival, isTaken, -⟩ := endsProperly hasEnded
          rw [noneTaken] at isTaken
          cases isTaken
      · exact endsProperly
  | handle now world =>
      rw [Interplay.act]
      rcases handle_cases setup state now world with
        ⟨_, _, -, goesOn, -, acted⟩ | ⟨arrival, isTaken, -, endless, acted⟩ |
          acted
      · rw [acted]
        intro hasEnded
        exact absurd (goesOn.symm.trans hasEnded) Bool.false_ne_true
      · rw [acted]
        exact fun _ => ⟨arrival, isTaken, endless⟩
      · rw [acted]
        exact endsProperly

variable (setup) (detections : List (Detection K T))

theorem endsProperly_run (schedule : List (Action T)) :
    (run setup (.start detections) schedule).1.EndsProperly := by
  induction schedule using List.reverseRecOn with
  | nil => exact nofun
  | append_singleton schedule action ih =>
      rw [run_concat]
      exact ih.act action

theorem mutesByLast_run (schedule : List (Action T)) :
    MutesByLast (run setup (.start detections) schedule).2 := by
  induction schedule using List.reverseRecOn with
  | nil =>
      intro before arrival report after split
      simp [run] at split
  | append_singleton schedule action ih =>
      rw [run_concat]
      refine MutesByLast.append ih fun arrival report isHandled deadline => ?_
      obtain ⟨surroundings, sameMute, reported⟩ :=
        exists_handle_of_act isHandled
      have accounts := accounts_run setup detections schedule
      rw [Dispatch.outcome_eq_muted_iff_of_handle _ reported, sameMute,
        accounts.deadline]

/-!
## Schedules that leave nothing to do
-/

/-- How many actions there are to do yet, at most, as long as dispatching goes
on. -/
def State.work (state : State K T) : Nat :=
  4 * state.detections.length + 5 * state.accepted.length +
    4 * state.unqueued.length + 3 * state.queue.length +
      state.taken.toList.length

/-- Nothing is left to do. -/
structure State.IsIdle (state : State K T) : Prop where
  detections : state.detections = []
  accepted : state.accepted = []
  unqueued : state.unqueued = []
  queue : state.queue = []
  taken : state.taken = none

/-- Where something is left to do, some party can do some of it, or dispatching
ends. -/
theorem isIdle_or_exists_act {state : State K T}
    (goesOn : state.hasEnded = false) (now : T) (world : Dispatch.World) :
    state.IsIdle ∨ ∃ action, (act setup state action).1.hasEnded = true ∨
      (act setup state action).1.work < state.work := by
  cases toCome : state.detections with
  | cons detection rest =>
      refine .inr ⟨.track, .inr ?_⟩
      simp only [act, track, toCome]
      split
      · simp [State.work, toCome]
      · simp [State.work, enqueue, toCome]
        omega
  | nil =>
  cases accepted : state.accepted with
  | cons command rest =>
      refine .inr ⟨.setDeadline 0, .inr ?_⟩
      simp [act, setDeadline, accepted, State.work]
      omega
  | nil =>
  cases unqueued : state.unqueued with
  | cons feedback rest =>
      refine .inr ⟨.acknowledge 0, .inr ?_⟩
      simp [act, acknowledge, enqueue, unqueued, State.work]
      omega
  | nil =>
  cases taken : state.taken with
  | some notification =>
      refine .inr ⟨.handle now world, ?_⟩
      rw [act]
      cases reported : Dispatch.handle setup.dispatching
          (world.around state.mute now) state.dispatch notification with
      | mk dispatch report =>
          cases report with
          | none => simp [handle, taken, goesOn, reported]
          | some report => simp [handle, taken, goesOn, reported, State.work]
  | none =>
  cases queue : state.queue with
  | cons notification rest =>
      refine .inr ⟨.take, .inr ?_⟩
      simp [act, take, taken, queue, State.work]
      omega
  | nil => exact .inl ⟨toCome, accepted, unqueued, queue, taken⟩

/-- Every state has a schedule that leaves nothing to do, or ends dispatching. -/
theorem exists_isIdle_run (state : State K T) (now : T)
    (world : Dispatch.World) :
    ∃ rest, (run setup state rest).1.IsIdle ∨
      (run setup state rest).1.hasEnded = true := by
  induction left : state.work using Nat.strong_induction_on generalizing state with
  | _ work ih =>
      cases goesOn : state.hasEnded with
      | true => exact ⟨[], .inr goesOn⟩
      | false =>
          rcases isIdle_or_exists_act setup goesOn now world with
            idle | ⟨action, hasEnded | less⟩
          · exact ⟨[], .inl idle⟩
          · exact ⟨[action], .inr hasEnded⟩
          · obtain ⟨rest, settled⟩ := ih _ (left ▸ less) _ rfl
            exact ⟨action :: rest, settled⟩

/-!
## What is safe
-/

/-- What is safe about the state and the history that a schedule leaves, of the
detections that were to come at its start. -/
structure IsSafe (state : State K T) (events : List (Event T)) : Prop where
  /-- The arrivals that were handled begin what the tracker announces. -/
  arrivals : arrivalsOf (handledOf events) <+: announcements setup [] detections
  /-- When nothing is left to do, they are all of it. -/
  allArrivals : state.detections = [] → state.taken = none → state.queue = [] →
    arrivalsOf (handledOf events) = announcements setup [] detections
  /-- The acknowledgements that were handled begin those that were queued. -/
  feedback : feedbackOf (handledOf events) <+: feedbackOf (queuedIn events)
  /-- The deadlines that were set, and those still to be, are those of the
  commands that were accepted. -/
  commands : (setIn events ++ state.accepted).Perm (acceptedIn events)
  /-- Each command that was accepted has its acknowledgement in one place: it
  was handled, it is on its way, or it is still to be queued. -/
  acknowledged : (feedbackOf (handledOf events) ++
      feedbackOf (state.taken.toList ++ state.queue) ++
        (state.unqueued ++ owed state.accepted)).Perm (owed (acceptedIn events))
  /-- When the queue is empty, all that was queued was handled. -/
  allHandled : state.taken = none → state.queue = [] →
    handledOf events = queuedIn events
  /-- The last command before an arrival is handled decides whether it is
  muted. -/
  muted : MutesByLast events
  /-- Dispatching ends only with an arrival after which a day has no end. -/
  endsProperly : state.EndsProperly

variable {setup} {detections} {events : List (Event T)}

theorem Accounts.handledOf_append
    (accounts : Accounts setup detections state events) :
    handledOf events ++ (state.taken.toList ++ state.queue) =
      queuedIn events := by
  rw [← List.append_assoc]
  exact accounts.queue

theorem Accounts.handledOf_eq
    (accounts : Accounts setup detections state events)
    (noneTaken : state.taken = none) (noneQueued : state.queue = []) :
    handledOf events = queuedIn events := by
  simpa [noneTaken, noneQueued] using accounts.handledOf_append

theorem Accounts.handledOf_prefix
    (accounts : Accounts setup detections state events) :
    handledOf events <+: queuedIn events :=
  ⟨_, accounts.handledOf_append⟩

/-- Every acknowledgement that is owed is in one place. -/
theorem Accounts.acknowledged
    (accounts : Accounts setup detections state events) :
    (feedbackOf (handledOf events) ++
        feedbackOf (state.taken.toList ++ state.queue) ++
          (state.unqueued ++ owed state.accepted)).Perm
      (owed (acceptedIn events)) := by
  have queued : feedbackOf (handledOf events) ++
      feedbackOf (state.taken.toList ++ state.queue) =
        feedbackOf (queuedIn events) := by
    rw [← accounts.handledOf_append]
    exact List.filterMap_append.symm
  have ofSet : (feedbackOf (queuedIn events) ++ state.unqueued ++
      owed state.accepted).Perm (owed (setIn events) ++ owed state.accepted) :=
    accounts.feedback.append_right _
  have ofAccepted : (owed (setIn events) ++ owed state.accepted).Perm
      (owed (acceptedIn events)) := by
    simpa [owed] using accounts.commands.map fun command => command.1.feedback
  rw [queued, ← List.append_assoc]
  exact ofSet.trans ofAccepted

variable (setup) (detections)

/-- Every schedule is safe, and can be completed unless dispatching ends.  The
arrivals that were handled are those that the tracker announces when it is alone,
in its order and each once, up to some point and in the end all.
Acknowledgements are handled in the order in which they were queued; each command
that was accepted has one, and none gets lost.  And an arrival is muted by the
last deadline that was set before it was handled, exactly if it is dated before
it. -/
theorem every_schedule_is_safe (schedule : List (Action T)) :
    IsSafe setup detections (run setup (.start detections) schedule).1
        (run setup (.start detections) schedule).2 ∧
      ∀ (_ : T) (_ : Dispatch.World), ∃ rest,
        (run setup (.start detections) (schedule ++ rest)).1.IsIdle ∨
          (run setup (.start detections)
            (schedule ++ rest)).1.hasEnded = true := by
  have accounts := accounts_run setup detections schedule
  have muted : MutesByLast (run setup (.start detections) schedule).2 :=
    mutesByLast_run setup detections schedule
  refine ⟨⟨?_, ?_, ?_, accounts.commands, accounts.acknowledged,
    accounts.handledOf_eq, muted, endsProperly_run setup detections schedule⟩,
    ?_⟩
  · exact (accounts.handledOf_prefix.filterMap _).trans ⟨_, accounts.arrivals⟩
  · intro noneToCome noneTaken noneQueued
    have arrivals := accounts.arrivals
    rw [noneToCome, ← accounts.handledOf_eq noneTaken noneQueued] at arrivals
    simpa [announcements, Tracker.arrivals, Tracker.run] using arrivals
  · exact accounts.handledOf_prefix.filterMap _
  · intro now world
    obtain ⟨rest, settled⟩ := exists_isIdle_run setup
      (run setup (.start detections) schedule).1 now world
    refine ⟨rest, ?_⟩
    rw [run_append]
    exact settled

end Interplay

end DrivewayWatch
