import DrivewayWatch.Proofs.Dispatch.Debounce
import DrivewayWatch.Proofs.PhotoStore

/-!
# Handling notifications

An acknowledgement, a suppressed arrival and an arrival that is let through are
handled in three ways, and each way has an equation.  A fourth one is for an
arrival that is let through and has a photo that cannot be kept for a day: it
ends dispatching.  So a queue has a first part that is handled, and the rest is
empty or begins with such an arrival.
-/

namespace DrivewayWatch

namespace Dispatch

variable {K T : Type}

/-- Why an arrival was suppressed, if it was. -/
def Outcome.suppression? : Outcome T → Option (Suppression T)
  | .suppressed suppression => some suppression
  | _ => none

theorem suppression?_eq_some_iff {outcome : Outcome T}
    {verdict : Suppression T} :
    outcome.suppression? = some verdict ↔ outcome = .suppressed verdict := by
  cases outcome <;> simp [Outcome.suppression?]

/-- A message that is sent is not suppressed, be it delivered or not. -/
theorem suppression?_send (settings : Ntfy.Settings K) (exchange : Net.Exchange)
    (notification : Notification T) :
    (send settings exchange notification).outcome.suppression? = none := by
  unfold send
  cases deliver settings exchange notification <;> rfl

theorem suppression?_announce (settings : Settings K)
    (surroundings : Surroundings T) (arrival : Arrival T) :
    (announce settings surroundings arrival).outcome.suppression? = none := by
  simp only [announce, suppression?_send]

variable [Scalar K] [Timeline T] (settings : Settings K)

/-- The record that is kept of an arrival. -/
def recordOf? (arrival : Arrival T) : Option (PhotoRecord T) :=
  PhotoRecord.new? arrival.id arrival.time arrival.photo

omit [Scalar K] in
theorem recordOf?_eq_none_iff {arrival : Arrival T} :
    recordOf? arrival = none ↔ Timeline.inSeconds? arrival.time 86400 = none :=
  PhotoRecord.new?_eq_none_iff

section Single

variable (surroundings : Surroundings T) (state : State T)

theorem handle_feedback (feedback : Feedback) :
    handle settings surroundings state (.feedback feedback) =
      ({ state with photos := state.photos.prune surroundings.now },
        some (send settings.ntfy surroundings.exchange (.feedback feedback))) :=
  rfl

variable {surroundings state} {arrival : Arrival T}

theorem handle_of_suppressed {verdict : Suppression T}
    (suppressed : (suppression settings.ntfy surroundings.mute state.lastSent
      arrival).1 = some verdict) :
    handle settings surroundings state (.arrival arrival) =
      ({ state with
          photos := state.photos.prune surroundings.now
          copies := copied settings.ntfy surroundings.copiesWork state.copies
            arrival },
        some ⟨.suppressed verdict, [],
          [.notificationSuppressed verdict.reason]⟩) := by
  rcases suppression_cases settings.ntfy surroundings.mute state.lastSent
      arrival with ⟨deadline, -, judged⟩ | ⟨-, -, judged⟩ | ⟨-, -, judged⟩
  · obtain rfl : Suppression.muted deadline = verdict := by
      simpa [judged] using suppressed
    simp [handle, handleArrival, judged]
  · obtain rfl : Suppression.debounced = verdict := by
      simpa [judged] using suppressed
    simp [handle, handleArrival, judged]
  · simp [judged] at suppressed

section Passed

variable (passed : (suppression settings.ntfy surroundings.mute state.lastSent
  arrival).1 = none)

include passed

theorem suppression_of_passed :
    suppression settings.ntfy surroundings.mute state.lastSent arrival =
      (none, setLast state.lastSent arrival.classification arrival.time) := by
  rcases suppression_cases settings.ntfy surroundings.mute state.lastSent
      arrival with ⟨deadline, -, judged⟩ | ⟨-, -, judged⟩ | ⟨-, -, judged⟩
  · simp [judged] at passed
  · simp [judged] at passed
  · exact judged

theorem handle_of_passed {record : PhotoRecord T}
    (isKept : recordOf? arrival = some record) :
    handle settings surroundings state (.arrival arrival) =
      ({ lastSent := setLast state.lastSent arrival.classification arrival.time
         photos := (state.photos.insert record).prune surroundings.now
         copies := copied settings.ntfy surroundings.copiesWork state.copies
            arrival },
        some (announce settings surroundings arrival)) := by
  rw [recordOf?] at isKept
  simp only [handle, handleArrival, suppression_of_passed settings passed,
    isKept]

theorem handle_of_not_kept (notKept : recordOf? arrival = none) :
    handle settings surroundings state (.arrival arrival) =
      ({ state with
          lastSent := setLast state.lastSent arrival.classification arrival.time
          copies := copied settings.ntfy surroundings.copiesWork state.copies
            arrival }, none) := by
  rw [recordOf?] at notKept
  simp only [handle, handleArrival, suppression_of_passed settings passed,
    notKept]

theorem snd_handle_of_passed
    (isNamed : (Timeline.inSeconds? arrival.time 86400).isSome = true) :
    (handle settings surroundings state (.arrival arrival)).2 =
      some (announce settings surroundings arrival) := by
  cases isKept : recordOf? arrival with
  | some record => rw [handle_of_passed settings passed isKept]
  | none => simp [recordOf?_eq_none_iff.mp isKept] at isNamed

end Passed

/-- The verdict on an arrival is what its report says. -/
theorem suppression?_of_handle {report : Report T}
    (isHandled : (handle settings surroundings state (.arrival arrival)).2 =
      some report) :
    report.outcome.suppression? =
      (suppression settings.ntfy surroundings.mute state.lastSent
        arrival).1 := by
  cases judged : (suppression settings.ntfy surroundings.mute state.lastSent
      arrival).1 with
  | some verdict =>
      rw [handle_of_suppressed settings judged] at isHandled
      obtain rfl := Option.some.inj isHandled
      rfl
  | none =>
      cases isKept : recordOf? arrival with
      | some record =>
          rw [handle_of_passed settings judged isKept] at isHandled
          obtain rfl := Option.some.inj isHandled
          exact suppression?_announce settings surroundings arrival
      | none =>
          rw [handle_of_not_kept settings judged isKept] at isHandled
          cases isHandled

variable (surroundings state arrival)

theorem lastSent_handle :
    (handle settings surroundings state (.arrival arrival)).1.lastSent =
      (suppression settings.ntfy surroundings.mute state.lastSent
        arrival).2 := by
  rcases suppression_cases settings.ntfy surroundings.mute state.lastSent
      arrival with ⟨_, -, judged⟩ | ⟨-, -, judged⟩ | ⟨-, -, judged⟩
  · simp [handle, handleArrival, judged]
  · simp [handle, handleArrival, judged]
  · simp only [handle, handleArrival, judged]
    cases PhotoRecord.new? arrival.id arrival.time arrival.photo <;> rfl

variable {surroundings state arrival}

/-- Only the mute window and the time of an arrival decide whether it is
muted. -/
theorem outcome_eq_muted_iff_of_handle {report : Report T}
    (isHandled : (handle settings surroundings state (.arrival arrival)).2 =
      some report) (deadline : T) :
    report.outcome = .suppressed (.muted deadline) ↔
      surroundings.mute.deadline = some deadline ∧ arrival.time < deadline := by
  have activeAt_iff : surroundings.mute.activeAt arrival.time = some deadline ↔
      surroundings.mute.deadline = some deadline ∧ arrival.time < deadline := by
    simp [MuteWindow.activeAt, Option.filter_eq_some_iff]
  rw [← suppression?_eq_some_iff, suppression?_of_handle settings isHandled,
    ← activeAt_iff]
  rcases suppression_cases settings.ntfy surroundings.mute state.lastSent
      arrival with ⟨_, active, judged⟩ | ⟨silent, -, judged⟩ |
      ⟨silent, -, judged⟩
  · simp [active, judged]
  · simp [silent, judged]
  · simp [silent, judged]

end Single

/-- A notification ends dispatching in a state if it is an arrival that is let
through and the end of the day after it cannot be named. -/
def EndsDispatching (state : State T)
    (entry : Surroundings T × Notification T) : Prop :=
  ∃ arrival, entry.2 = .arrival arrival ∧
    (suppression settings.ntfy entry.1.mute state.lastSent arrival).1 = none ∧
    Timeline.inSeconds? arrival.time 86400 = none

theorem handle_eq_none_iff (surroundings : Surroundings T) (state : State T)
    (notification : Notification T) :
    (handle settings surroundings state notification).2 = none ↔
      EndsDispatching settings state (surroundings, notification) := by
  cases notification with
  | feedback feedback => simp [handle_feedback, EndsDispatching]
  | arrival arrival =>
      cases judged : (suppression settings.ntfy surroundings.mute
          state.lastSent arrival).1 with
      | some verdict =>
          simp [handle_of_suppressed settings judged, EndsDispatching, judged]
      | none =>
          cases isKept : recordOf? arrival with
          | some record =>
              simp [handle_of_passed settings judged isKept, EndsDispatching,
                judged, ← recordOf?_eq_none_iff, isKept]
          | none =>
              simp [handle_of_not_kept settings judged isKept, EndsDispatching,
                judged, ← recordOf?_eq_none_iff, isKept]

/-- What ends dispatching leaves the photos as they are. -/
theorem photos_handle_of_ended {surroundings : Surroundings T} {state : State T}
    {notification : Notification T}
    (hasEnded : (handle settings surroundings state notification).2 = none) :
    (handle settings surroundings state notification).1.photos =
      state.photos := by
  obtain ⟨arrival, rfl, passed, notFound⟩ :=
    (handle_eq_none_iff settings surroundings state notification).mp hasEnded
  have notKept := recordOf?_eq_none_iff.mpr notFound
  rw [handle_of_not_kept settings passed notKept]

/-- The notifications of a queue that are handled, with the reports about
them. -/
def withReports (state : State T)
    (queue : List (Surroundings T × Notification T)) :
    List ((Surroundings T × Notification T) × Report T) :=
  queue.zip (run settings state queue).2

/-- The notifications of a queue that are handled. -/
def handled (state : State T)
    (queue : List (Surroundings T × Notification T)) :
    List (Surroundings T × Notification T) :=
  queue.take (run settings state queue).2.length

/-- The notifications of a queue that are not, since dispatching ends with the
first of them. -/
def unhandled (state : State T)
    (queue : List (Surroundings T × Notification T)) :
    List (Surroundings T × Notification T) :=
  queue.drop (run settings state queue).2.length

theorem handled_append_unhandled (state : State T)
    (queue : List (Surroundings T × Notification T)) :
    handled settings state queue ++ unhandled settings state queue = queue :=
  List.take_append_drop ..

theorem handled_eq_self_iff {state : State T}
    {queue : List (Surroundings T × Notification T)} :
    handled settings state queue = queue ↔
      unhandled settings state queue = [] := by
  have split := handled_append_unhandled settings state queue
  constructor
  · intro same
    rwa [same, List.append_right_eq_self] at split
  · intro noRest
    rwa [noRest, List.append_nil] at split

section First

variable {settings} {state : State T} {surroundings : Surroundings T}
  {notification : Notification T}

section Ended

variable
  (hasEnded : (handle settings surroundings state notification).2 = none)
  (queue : List (Surroundings T × Notification T))

include hasEnded

theorem run_cons_of_ended :
    run settings state ((surroundings, notification) :: queue) =
      ((handle settings surroundings state notification).1, []) := by
  rw [run]
  generalize handle settings surroundings state notification = done at *
  obtain ⟨next, report⟩ := done
  subst hasEnded
  rfl

theorem withReports_cons_of_ended :
    withReports settings state ((surroundings, notification) :: queue) =
      [] := by
  rw [withReports, run_cons_of_ended hasEnded, List.zip_nil_right]

theorem handled_cons_of_ended :
    handled settings state ((surroundings, notification) :: queue) = [] := by
  rw [handled, run_cons_of_ended hasEnded]
  rfl

theorem unhandled_cons_of_ended :
    unhandled settings state ((surroundings, notification) :: queue) =
      (surroundings, notification) :: queue := by
  rw [unhandled, run_cons_of_ended hasEnded]
  rfl

end Ended

section Handled

variable {report : Report T}
  (isHandled : (handle settings surroundings state notification).2 =
    some report)
  (queue : List (Surroundings T × Notification T))

include isHandled

theorem run_cons_of_handled :
    run settings state ((surroundings, notification) :: queue) =
      ((run settings (handle settings surroundings state notification).1
          queue).1,
        report :: (run settings
          (handle settings surroundings state notification).1 queue).2) := by
  rw [run]
  generalize handle settings surroundings state notification = done at *
  obtain ⟨next, reported⟩ := done
  subst isHandled
  rfl

theorem withReports_cons_of_handled :
    withReports settings state ((surroundings, notification) :: queue) =
      ((surroundings, notification), report) ::
        withReports settings
          (handle settings surroundings state notification).1 queue := by
  rw [withReports, run_cons_of_handled isHandled, List.zip_cons_cons]
  rfl

theorem handled_cons_of_handled :
    handled settings state ((surroundings, notification) :: queue) =
      (surroundings, notification) ::
        handled settings (handle settings surroundings state notification).1
          queue := by
  rw [handled, run_cons_of_handled isHandled, List.length_cons,
    List.take_succ_cons]
  rfl

theorem unhandled_cons_of_handled :
    unhandled settings state ((surroundings, notification) :: queue) =
      unhandled settings (handle settings surroundings state notification).1
        queue := by
  rw [unhandled, run_cons_of_handled isHandled, List.length_cons,
    List.drop_succ_cons]
  rfl

end Handled

end First

/-- Induction along a run.  A queue is empty, or dispatching ends with its first
notification, or this one is handled and dispatching goes on with the others. -/
theorem run_induction
    {motive : State T → List (Surroundings T × Notification T) → Prop}
    (nil : ∀ state, motive state [])
    (ended : ∀ state surroundings notification queue,
      (handle settings surroundings state notification).2 = none →
        motive state ((surroundings, notification) :: queue))
    (goesOn : ∀ state surroundings notification queue report,
      (handle settings surroundings state notification).2 = some report →
        motive (handle settings surroundings state notification).1 queue →
          motive state ((surroundings, notification) :: queue))
    (state : State T) (queue : List (Surroundings T × Notification T)) :
    motive state queue := by
  induction queue generalizing state with
  | nil => exact nil state
  | cons entry queue ih =>
      obtain ⟨surroundings, notification⟩ := entry
      cases reported : (handle settings surroundings state notification).2 with
      | none => exact ended state surroundings notification queue reported
      | some report =>
          exact goesOn state surroundings notification queue report reported
            (ih _)

variable {state : State T} {queue : List (Surroundings T × Notification T)}

theorem length_run_le (state : State T)
    (queue : List (Surroundings T × Notification T)) :
    (run settings state queue).2.length ≤ queue.length := by
  induction state, queue using run_induction (T := T) settings with
  | nil state => exact Nat.zero_le _
  | ended state surroundings notification queue reported =>
      simp [run_cons_of_ended reported]
  | goesOn state surroundings notification queue report reported ih =>
      simpa [run_cons_of_handled reported] using ih

theorem map_fst_withReports :
    (withReports settings state queue).map Prod.fst =
      handled settings state queue := by
  induction state, queue using run_induction (T := T) settings with
  | nil state => rfl
  | ended state surroundings notification queue reported =>
      rw [withReports_cons_of_ended reported, handled_cons_of_ended reported,
        List.map_nil]
  | goesOn state surroundings notification queue report reported ih =>
      rw [withReports_cons_of_handled reported,
        handled_cons_of_handled reported, List.map_cons, ih]

theorem map_snd_withReports :
    (withReports settings state queue).map Prod.snd =
      (run settings state queue).2 :=
  List.map_snd_zip (length_run_le settings state queue)

/-- After the part that is handled comes the notification that ends
dispatching. -/
theorem handle_of_unhandled {entry : Surroundings T × Notification T}
    {rest : List (Surroundings T × Notification T)}
    (isNext : unhandled settings state queue = entry :: rest) :
    handle settings entry.1
        (run settings state (handled settings state queue)).1 entry.2 =
      ((run settings state queue).1, none) := by
  induction state, queue using run_induction (T := T) settings with
  | nil state => cases isNext
  | ended state surroundings notification queue reported =>
      rw [unhandled_cons_of_ended reported] at isNext
      obtain ⟨rfl, rfl⟩ := List.cons.inj isNext
      rw [handled_cons_of_ended reported, run_cons_of_ended reported,
        ← reported]
      rfl
  | goesOn state surroundings notification queue report reported ih =>
      rw [unhandled_cons_of_handled reported] at isNext
      rw [handled_cons_of_handled reported, run_cons_of_handled reported,
        run_cons_of_handled reported]
      exact ih isNext

theorem endsDispatching_of_unhandled
    {entry : Surroundings T × Notification T}
    {rest : List (Surroundings T × Notification T)}
    (isNext : unhandled settings state queue = entry :: rest) :
    EndsDispatching settings
      (run settings state (handled settings state queue)).1 entry := by
  rw [← handle_eq_none_iff, handle_of_unhandled settings isNext]

/-- A queue is handled to its end exactly if nothing in it ends dispatching. -/
theorem unhandled_eq_nil_iff :
    unhandled settings state queue = [] ↔
      ∀ before entry after, queue = before ++ entry :: after →
        ¬ EndsDispatching settings (run settings state before).1 entry := by
  constructor
  · intro allHandled before entry after split
    rw [← handle_eq_none_iff]
    induction before generalizing state queue with
    | nil =>
        obtain ⟨surroundings, notification⟩ := entry
        intro (reported :
          (handle settings surroundings state notification).2 = none)
        subst split
        rw [List.nil_append, unhandled_cons_of_ended reported] at allHandled
        cases allHandled
    | cons first before ih =>
        obtain ⟨surroundings, notification⟩ := first
        subst split
        cases reported : (handle settings surroundings state notification).2 with
        | none =>
            rw [List.cons_append, unhandled_cons_of_ended reported] at allHandled
            cases allHandled
        | some report =>
            rw [List.cons_append,
              unhandled_cons_of_handled reported] at allHandled
            rw [run_cons_of_handled reported]
            exact ih allHandled rfl
  · intro noneEnds
    cases isNext : unhandled settings state queue with
    | nil => rfl
    | cons entry rest =>
        have split := handled_append_unhandled settings state queue
        rw [isNext] at split
        exact absurd (endsDispatching_of_unhandled settings isNext)
          (noneEnds _ entry rest split.symm)

end Dispatch

end DrivewayWatch
