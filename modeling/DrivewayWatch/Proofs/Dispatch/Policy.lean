import DrivewayWatch.Proofs.Dispatch.Handling
import Mathlib.Data.List.Forall2

/-!
# What the outside cannot touch

Files, disks and other servers decide whether a message arrives and what its
text is.  They do not decide anything else: which arrivals are suppressed and
why, what is remembered of those that are not, which photos are kept, and the
headers of messages are the same whatever they do.
-/

namespace DrivewayWatch

namespace Dispatch

variable {K T : Type}

/-- What the outside does while a notification is handled. -/
structure World where
  files : String → Option Bytes
  copiesWork : Bool
  exchange : Net.Exchange

/-- What a dispatcher meets: a mute command takes effect, or a notification is
taken from the queue and handled until a certain time. -/
inductive Happening (T : Type) where
  | command (deadline : T)
  | notification (now : T) (notification : Notification T)

/-- What surrounds a notification that is handled until a certain time. -/
def World.around (world : World) (window : MuteWindow T) (now : T) :
    Surroundings T :=
  ⟨window, now, world.files, world.copiesWork, world.exchange⟩

/-- The queue of a day, each notification in the surroundings that it meets. -/
def queueOf (window : MuteWindow T) :
    List (Happening T × World) → List (Surroundings T × Notification T)
  | [] => []
  | (.command deadline, _) :: day => queueOf (window.setDeadline deadline) day
  | (.notification now notification, world) :: day =>
      (world.around window now, notification) :: queueOf window day

/-- The mute window at the end of a day. -/
def windowAfter (window : MuteWindow T) :
    List (Happening T × World) → MuteWindow T
  | [] => window
  | (.command deadline, _) :: day =>
      windowAfter (window.setDeadline deadline) day
  | (.notification _ _, _) :: day => windowAfter window day

theorem exists_description_of_message_ne_title {arrival : Arrival T}
    (differs : arrival.message ≠ arrival.title) :
    ∃ description, arrival.description = some description ∧
      description ≠ "" := by
  unfold Arrival.message at differs
  cases given : arrival.description with
  | none => simp [given] at differs
  | some description =>
      refine ⟨description, rfl, ?_⟩
      rintro rfl
      simp [given] at differs

section Messages

variable (settings : Settings K) (surroundings : Surroundings T)

/-- The description of an arrival that is found outside. -/
def foundDescription? (arrival : Arrival T) : Option String :=
  (Description.ask settings.description surroundings.files
    surroundings.exchange arrival).description

/-- A notification as it is sent: an arrival has the description that was
found. -/
def toSend : Notification T → Notification T
  | .arrival arrival =>
      .arrival (described arrival
        (foundDescription? settings surroundings arrival))
  | .feedback feedback => .feedback feedback

/-- The message that is built for a notification. -/
def message (notification : Notification T) : Net.Request :=
  Ntfy.request settings.ntfy (toSend settings surroundings notification)

/-- Nothing in the headers of a message depends on a description. -/
theorem headers_message (notification : Notification T) :
    (message settings surroundings notification).headers =
      Ntfy.headers settings.ntfy notification := by
  cases notification with
  | feedback feedback => rfl
  | arrival arrival =>
      simp only [message, toSend, Ntfy.request]
      cases foundDescription? settings surroundings arrival <;> rfl

/-- The text of a message about an arrival is its title unless a description
was found or the arrival had one from the beginning. -/
theorem exists_description_of_body_ne_title {arrival : Arrival T}
    (differs : (message settings surroundings (.arrival arrival)).body ≠
      arrival.title) :
    ∃ description, description ≠ "" ∧
      (foundDescription? settings surroundings arrival = some description ∨
        foundDescription? settings surroundings arrival = none ∧
          arrival.description = some description) := by
  simp only [message, toSend, Ntfy.request] at differs
  cases found : foundDescription? settings surroundings arrival with
  | none =>
      rw [found] at differs
      obtain ⟨description, given, nonempty⟩ :=
        exists_description_of_message_ne_title differs
      exact ⟨description, nonempty, .inr ⟨rfl, given⟩⟩
  | some description =>
      rw [found] at differs
      have differsWith : (arrival.describedAs description).message ≠
          (arrival.describedAs description).title :=
        differs
      obtain ⟨other, given, nonempty⟩ :=
        exists_description_of_message_ne_title differsWith
      obtain rfl : description = other := Option.some.inj given
      exact ⟨description, nonempty, .inl rfl⟩

end Messages

/-- What is done about a notification that is not suppressed: a description may
be asked for, and then the message is sent.  The message is for the topic and
has the headers of the notification as it was queued; only its text depends on
the description. -/
structure IsSentAs (settings : Settings K)
    (entry : (Surroundings T × Notification T) × Report T) : Prop where
  requests : ∃ asked : Option Net.Request,
    entry.2.requests =
      asked.toList ++ (message settings entry.1.1 entry.1.2).sent?.toList
  method : (message settings entry.1.1 entry.1.2).method = .post
  url : (message settings entry.1.1 entry.1.2).url =
    settings.ntfy.topicUrl
  headers : (message settings entry.1.1 entry.1.2).headers =
    Ntfy.headers settings.ntfy entry.1.2
  body : ∀ arrival, entry.1.2 = .arrival arrival →
    (message settings entry.1.1 entry.1.2).body ≠ arrival.title →
      ∃ description, description ≠ "" ∧
        (foundDescription? settings entry.1.1 arrival = some description ∨
          foundDescription? settings entry.1.1 arrival = none ∧
            arrival.description = some description)

theorem requests_send (settings : Ntfy.Settings K) (exchange : Net.Exchange)
    (notification : Notification T) :
    (send settings exchange notification).requests =
      (Ntfy.request settings notification).sent?.toList := by
  unfold send
  cases deliver settings exchange notification <;> simp only

section Handling

variable [Scalar K] [Timeline T] {settings : Settings K}
  {surroundings : Surroundings T} {state : State T}

theorem exists_asked_requests_handle {notification : Notification T}
    {report : Report T}
    (isHandled : (handle settings surroundings state notification).2 =
      some report) (isSent : report.outcome.suppression? = none) :
    ∃ asked : Option Net.Request,
      report.requests = asked.toList ++
        (message settings surroundings notification).sent?.toList := by
  cases notification with
  | feedback feedback =>
      obtain rfl := Option.some.inj isHandled
      refine ⟨none, ?_⟩
      simp only [requests_send, message, toSend, Option.toList_none,
        List.nil_append]
  | arrival arrival =>
      have passed := isSent
      rw [suppression?_of_handle settings isHandled] at passed
      cases isKept : recordOf? arrival with
      | none =>
          rw [handle_of_not_kept settings passed isKept] at isHandled
          cases isHandled
      | some record =>
          rw [handle_of_passed settings passed isKept] at isHandled
          obtain rfl := Option.some.inj isHandled
          refine ⟨(Description.ask settings.description surroundings.files
            surroundings.exchange arrival).request, ?_⟩
          simp only [announce, requests_send, message, toSend,
            foundDescription?]

theorem isSentAs_handle {notification : Notification T} {report : Report T}
    (isHandled : (handle settings surroundings state notification).2 =
      some report) (isSent : report.outcome.suppression? = none) :
    IsSentAs settings ((surroundings, notification), report) := by
  have requests := exists_asked_requests_handle isHandled isSent
  have headers := headers_message settings surroundings notification
  refine ⟨requests, rfl, rfl, headers, ?_⟩
  rintro arrival rfl differs
  exact exists_description_of_body_ne_title settings surroundings differs

end Handling

section TwoRuns

variable [Scalar K] [Timeline T] (ntfy : Ntfy.Settings K)
  (first second : Description.Settings)

/-- Two states agree on what decides about later notifications and on the
photos.  The copies of photos may differ. -/
structure SamePolicy (one other : State T) : Prop where
  lastSent : one.lastSent = other.lastSent
  photos : one.photos = other.photos

/-- A notification makes the same difference to policy in any two worlds, and
it ends dispatching in both or in none. -/
theorem samePolicy_handle {one other : State T} (same : SamePolicy one other)
    (window : MuteWindow T) (now : T) (firstWorld secondWorld : World)
    (notification : Notification T) :
    SamePolicy
        (handle ⟨ntfy, first⟩ (firstWorld.around window now) one
          notification).1
        (handle ⟨ntfy, second⟩ (secondWorld.around window now) other
          notification).1 ∧
      (handle ⟨ntfy, first⟩ (firstWorld.around window now) one
          notification).2.map (·.outcome.suppression?) =
        (handle ⟨ntfy, second⟩ (secondWorld.around window now) other
          notification).2.map (·.outcome.suppression?) := by
  obtain ⟨sameLast, samePhotos⟩ := same
  cases notification with
  | feedback feedback =>
      simp only [handle_feedback, Option.map_some, suppression?_send, and_true]
      exact ⟨sameLast, congrArg (·.prune now) samePhotos⟩
  | arrival arrival =>
      cases verdict : (suppression ntfy window one.lastSent arrival).1 with
      | some suppressed =>
          have otherVerdict := verdict
          rw [sameLast] at otherVerdict
          rw [handle_of_suppressed ⟨ntfy, first⟩ verdict,
            handle_of_suppressed ⟨ntfy, second⟩ otherVerdict]
          exact ⟨⟨sameLast, congrArg (·.prune now) samePhotos⟩, rfl⟩
      | none =>
          have otherVerdict := verdict
          rw [sameLast] at otherVerdict
          cases isKept : recordOf? arrival with
          | some record =>
              rw [handle_of_passed ⟨ntfy, first⟩ verdict isKept,
                handle_of_passed ⟨ntfy, second⟩ otherVerdict isKept]
              simp only [Option.map_some, suppression?_announce, and_true]
              exact ⟨by simp only [sameLast], by simp only [samePhotos]; rfl⟩
          | none =>
              rw [handle_of_not_kept ⟨ntfy, first⟩ verdict isKept,
                handle_of_not_kept ⟨ntfy, second⟩ otherVerdict isKept]
              exact ⟨⟨by simp only [sameLast], samePhotos⟩, rfl⟩

/-- Notifications with their reports, as they are handled in two worlds.  The
same are suppressed, for the same reasons; and the messages for the others have
the same headers. -/
structure SameTreatment
    (one other : (Surroundings T × Notification T) × Report T) : Prop where
  notification : one.1.2 = other.1.2
  suppression : one.2.outcome.suppression? = other.2.outcome.suppression?
  headers : (message ⟨ntfy, first⟩ one.1.1 one.1.2).headers =
    (message ⟨ntfy, second⟩ other.1.1 other.1.2).headers
  sent : one.2.outcome.suppression? = none →
    IsSentAs ⟨ntfy, first⟩ one ∧ IsSentAs ⟨ntfy, second⟩ other

theorem sameTreatment_handle {one other : State T} (same : SamePolicy one other)
    {window : MuteWindow T} {now : T} {firstWorld secondWorld : World}
    {notification : Notification T} {report otherReport : Report T}
    (isHandled : (handle ⟨ntfy, first⟩ (firstWorld.around window now) one
      notification).2 = some report)
    (isHandledToo : (handle ⟨ntfy, second⟩ (secondWorld.around window now)
      other notification).2 = some otherReport) :
    SameTreatment ntfy first second
      ((firstWorld.around window now, notification), report)
      ((secondWorld.around window now, notification), otherReport) := by
  have sameSuppression := (samePolicy_handle ntfy first second same window now
    firstWorld secondWorld notification).2
  rw [isHandled, isHandledToo, Option.map_some, Option.map_some,
    Option.some.injEq] at sameSuppression
  refine ⟨rfl, sameSuppression, ?_, ?_⟩
  · rw [headers_message, headers_message]
  · intro isSent
    exact ⟨isSentAs_handle isHandled isSent,
      isSentAs_handle isHandledToo (sameSuppression ▸ isSent)⟩

theorem sameTreatment_run {firstDay secondDay : List (Happening T × World)}
    (sameHappenings : firstDay.map Prod.fst = secondDay.map Prod.fst)
    (window : MuteWindow T) {one other : State T}
    (same : SamePolicy one other) :
    SamePolicy
        (run ⟨ntfy, first⟩ one (queueOf window firstDay)).1
        (run ⟨ntfy, second⟩ other (queueOf window secondDay)).1 ∧
      windowAfter window firstDay = windowAfter window secondDay ∧
      List.Forall₂ (SameTreatment ntfy first second)
        (withReports ⟨ntfy, first⟩ one (queueOf window firstDay))
        (withReports ⟨ntfy, second⟩ other (queueOf window secondDay)) := by
  induction firstDay generalizing secondDay window one other with
  | nil =>
      obtain rfl : secondDay = [] := List.map_eq_nil_iff.mp sameHappenings.symm
      exact ⟨same, rfl, .nil⟩
  | cons entry firstDay ih =>
      obtain ⟨happening, firstWorld⟩ := entry
      obtain ⟨⟨otherHappening, secondWorld⟩, secondDay, rfl, sameFirst,
        sameRest⟩ := List.map_eq_cons_iff.mp sameHappenings.symm
      obtain rfl : happening = otherHappening := sameFirst.symm
      cases happening with
      | command deadline =>
          exact ih sameRest.symm (window.setDeadline deadline) same
      | notification now notification =>
          obtain ⟨sameAfter, sameSuppression⟩ := samePolicy_handle ntfy first
            second same window now firstWorld secondWorld notification
          obtain ⟨sameEnd, sameWindow, sameReports⟩ :=
            ih sameRest.symm window sameAfter
          rw [queueOf, queueOf, windowAfter, windowAfter]
          cases reported : (handle ⟨ntfy, first⟩
              (firstWorld.around window now) one notification).2 with
          | none =>
              have reportedToo : (handle ⟨ntfy, second⟩
                  (secondWorld.around window now) other notification).2 =
                    none := by
                simpa [reported] using sameSuppression.symm
              rw [run_cons_of_ended reported, run_cons_of_ended reportedToo,
                withReports_cons_of_ended reported,
                withReports_cons_of_ended reportedToo]
              exact ⟨sameAfter, sameWindow, .nil⟩
          | some report =>
              obtain ⟨otherReport, reportedToo, -⟩ :=
                Option.map_eq_some_iff.mp
                  (sameSuppression.symm.trans (congrArg _ reported))
              have treated := sameTreatment_handle ntfy first second same
                reported reportedToo
              rw [run_cons_of_handled reported,
                run_cons_of_handled reportedToo,
                withReports_cons_of_handled reported,
                withReports_cons_of_handled reportedToo]
              exact ⟨sameEnd, sameWindow, .cons treated sameReports⟩

/-- The outside cannot touch policy.  Let the same happen in two worlds, with
any two ways to ask for descriptions.  Then the same arrivals are suppressed for
the same reasons; what is remembered of the others, the photos and the mute
window are the same in the end; and the messages that are built have the same
headers.  If dispatching ends early, it ends with the same arrival.  The text of
a message about an arrival is the title, unless a description was found outside
or the arrival had one in the queue. -/
theorem outside_cannot_touch_policy (start : State T) (window : MuteWindow T)
    {firstDay secondDay : List (Happening T × World)}
    (sameHappenings : firstDay.map Prod.fst = secondDay.map Prod.fst) :
    let firstRun := run ⟨ntfy, first⟩ start (queueOf window firstDay)
    let secondRun := run ⟨ntfy, second⟩ start (queueOf window secondDay)
    firstRun.1.lastSent = secondRun.1.lastSent ∧
      firstRun.1.photos = secondRun.1.photos ∧
      windowAfter window firstDay = windowAfter window secondDay ∧
      List.Forall₂ (SameTreatment ntfy first second)
        (withReports ⟨ntfy, first⟩ start (queueOf window firstDay))
        (withReports ⟨ntfy, second⟩ start (queueOf window secondDay)) := by
  obtain ⟨⟨sameLast, samePhotos⟩, sameWindow, sameReports⟩ :=
    sameTreatment_run ntfy first second sameHappenings window ⟨rfl, rfl⟩
  exact ⟨sameLast, samePhotos, sameWindow, sameReports⟩

end TwoRuns

/-- A world in which nothing works, and one in which everything does. -/
def deadWorld : World :=
  ⟨fun _ => none, false, fun _ => none⟩

def liveWorld : World :=
  ⟨fun _ => some [], true, fun _ => some ⟨200, []⟩⟩

/-- A car is announced, then a mute window is opened, and a person falls into
it. -/
def mutedDay (world : World) : List (Happening Instant × World) :=
  [(.notification ⟨200, 0⟩
      (.arrival ⟨⟨100, 0⟩, "car", "arrived", "e0", some [], none⟩), world),
    (.command ⟨500, 0⟩, world),
    (.notification ⟨300, 0⟩
      (.arrival ⟨⟨210, 0⟩, "person", "arrived", "e1", some [], none⟩), world)]

theorem outside_cannot_touch_policy_of_mutedDay :
    let enabled : Description.Settings :=
      { Description.Settings.standard with enabled := true }
    (mutedDay deadWorld).map Prod.fst = (mutedDay liveWorld).map Prod.fst ∧
      (run ⟨Ntfy.Settings.standard, .standard⟩ .start
        (queueOf .silent (mutedDay deadWorld))).1.lastSent =
          [("car", ⟨100, 0⟩)] ∧
      (run ⟨Ntfy.Settings.standard, enabled⟩ .start
        (queueOf .silent (mutedDay liveWorld))).1.lastSent =
          [("car", ⟨100, 0⟩)] := by
  intro enabled
  have sameHappenings : (mutedDay deadWorld).map Prod.fst =
      (mutedDay liveWorld).map Prod.fst :=
    rfl
  have dead : (run ⟨Ntfy.Settings.standard, .standard⟩ .start
      (queueOf .silent (mutedDay deadWorld))).1.lastSent =
        [("car", ⟨100, 0⟩)] := by
    decide +kernel
  obtain ⟨sameLast, -, -, -⟩ :=
    outside_cannot_touch_policy Ntfy.Settings.standard .standard enabled .start
      .silent sameHappenings
  exact ⟨sameHappenings, dead, sameLast.symm.trans dead⟩

/-- An arrival that has a description in the queue is not sent with its title
as the text, although no description is asked for. -/
theorem queued_description_is_sent :
    let settings : Settings Float := ⟨.standard, .standard⟩
    let surroundings := deadWorld.around MuteWindow.silent (⟨200, 0⟩ : Instant)
    let arrival : Arrival Instant :=
      ⟨⟨100, 0⟩, "car", "arrived in driveway", "abc", none, some "red sedan"⟩
    settings.description.enabled = false ∧
      foundDescription? settings surroundings arrival = none ∧
      (message settings surroundings (.arrival arrival)).body ≠
        arrival.title := by
  decide +kernel

end Dispatch

end DrivewayWatch
