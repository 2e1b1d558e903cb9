import DrivewayWatch.Proofs.Description.Asking
import DrivewayWatch.Proofs.Dispatch.Policy
import Mathlib.Data.List.Nodup

/-!
# Every notification is accounted for

A notification adds one to the counter of its outcome, and to no other counter
of notifications.  One that is suppressed is not spoken of to any server.  Each
other one is posted to the topic once, and an arrival may have its description
asked for before that; nothing is sent twice.  The counters of a queue therefore
add up to the notifications that are handled.  These are all of it, unless an
arrival ends dispatching; that one is counted nowhere and sent to no server.
-/

namespace DrivewayWatch

namespace Dispatch

variable {K T : Type}

/-- The counter of an outcome. -/
def counterOf (notification : Notification T) : Outcome T → Counter
  | .sent => .notificationSent (kindOf notification)
  | .suppressed verdict => .notificationSuppressed verdict.reason
  | .failed => .notificationFailed (kindOf notification)

theorem counterOf_arrival (one other : Arrival T) (outcome : Outcome T) :
    counterOf (.arrival one) outcome = counterOf (.arrival other) outcome := by
  cases outcome <;> rfl

/-- A request asks for the description of a notification, which is then an
arrival with a photo and a prompt. -/
def AsksAbout (settings : Settings K) (surroundings : Surroundings T)
    (notification : Notification T) (request : Net.Request) : Prop :=
  ∃ arrival photo prompt, notification = .arrival arrival ∧
    Description.IsAskedFor settings.description surroundings.files arrival
      photo prompt ∧
    request = Description.request settings.description photo prompt

/-- A notification and its report agree.  One counter of notifications is
incremented, that of the outcome.  Only arrivals are suppressed, and without a
request.  Otherwise the message is posted to the topic, at most one request asks
about the notification before, and none is sent again.  The outcome is a success
exactly if the message is answered by one. -/
structure IsAccounted (settings : Settings K)
    (entry : (Surroundings T × Notification T) × Report T) : Prop where
  counted : ∀ counter, counter ≠ .descriptionFailed →
    entry.2.counts.count counter =
      if counter = counterOf entry.1.2 entry.2.outcome then 1 else 0
  suppressed : ∀ verdict, entry.2.outcome = .suppressed verdict →
    (∃ arrival, entry.1.2 = .arrival arrival) ∧ entry.2.requests = []
  posted : entry.2.outcome.suppression? = none → ∃ asked : Option Net.Request,
    (∀ request, asked = some request →
      AsksAbout settings entry.1.1 entry.1.2 request) ∧
    entry.2.requests =
      asked.toList ++ (message settings entry.1.1 entry.1.2).sent?.toList
  address : (message settings entry.1.1 entry.1.2).method = .post ∧
    (message settings entry.1.1 entry.1.2).url = settings.ntfy.topicUrl
  once : entry.2.requests.Nodup
  sent_iff : entry.2.outcome = .sent ↔
    entry.2.outcome.suppression? = none ∧ ∃ reply,
      (message settings entry.1.1 entry.1.2).send entry.1.1.exchange =
        some reply ∧ 200 ≤ reply.status ∧ reply.status < 300

section Sending

variable (settings : Ntfy.Settings K) (exchange : Net.Exchange)
  (notification : Notification T)

theorem outcome_send_eq_sent_iff :
    (send settings exchange notification).outcome = .sent ↔
      ∃ reply, (Ntfy.request settings notification).send exchange =
        some reply ∧ 200 ≤ reply.status ∧ reply.status < 300 := by
  unfold send deliver
  cases (Ntfy.request settings notification).send exchange with
  | none => simp
  | some reply =>
      by_cases success : reply.isSuccess = true
      · simp [success, Net.Reply.isSuccess_iff.mp success]
      · simp [success, ← Net.Reply.isSuccess_iff]

theorem counts_send :
    (send settings exchange notification).counts =
      [counterOf notification
        (send settings exchange notification).outcome] := by
  unfold send
  cases deliver settings exchange notification <;> rfl

end Sending

section Requests

variable (settings : Settings K) (surroundings : Surroundings T)

/-- A message cannot be taken for a question: they begin with different
headers. -/
theorem request_ne_message (photo : Bytes) (prompt : String)
    (notification : Notification T) :
    Description.request settings.description photo prompt ≠
      message settings surroundings notification := by
  intro same
  have sameHeader := congrArg (·.headers.head?.map Prod.fst) same
  simp only [headers_message, Ntfy.headers] at sameHeader
  unfold Description.request at sameHeader
  cases service : settings.description.service <;> simp [service] at sameHeader

variable (arrival : Arrival T)

/-- A question that is asked about an arrival has its place before the
message. -/
theorem asksAbout_of_request_ask {request : Net.Request}
    (isAsked : (Description.ask settings.description surroundings.files
      surroundings.exchange arrival).request = some request) :
    AsksAbout settings surroundings (.arrival arrival) request := by
  obtain ⟨photo, prompt, asked, isRequest, -⟩ :=
    Description.request_ask_eq_some_iff.mp isAsked
  exact ⟨arrival, photo, prompt, rfl, asked, isRequest⟩

theorem requests_announce :
    (announce settings surroundings arrival).requests =
      (Description.ask settings.description surroundings.files
          surroundings.exchange arrival).request.toList ++
        (message settings surroundings (.arrival arrival)).sent?.toList := by
  simp only [announce, requests_send, message, toSend, foundDescription?]

theorem nodup_requests_announce :
    (announce settings surroundings arrival).requests.Nodup := by
  rw [requests_announce, List.nodup_append]
  refine ⟨Option.toList_nodup _, Option.toList_nodup _, ?_⟩
  -- A question and a message are both posts; their headers tell them apart.
  intro request isAsked posted isPosted
  rw [Option.mem_toList] at isAsked isPosted
  obtain ⟨_, photo, prompt, -, -, rfl⟩ :=
    asksAbout_of_request_ask settings surroundings arrival isAsked
  obtain ⟨-, isMessage⟩ := Option.ite_none_right_eq_some.mp isPosted
  rw [← Option.some.inj isMessage]
  exact request_ne_message settings surroundings photo prompt _

theorem outcome_announce :
    (announce settings surroundings arrival).outcome =
      (send settings.ntfy surroundings.exchange
        (toSend settings surroundings (.arrival arrival))).outcome := by
  simp only [announce, toSend, foundDescription?]

/-- A failed attempt to describe an arrival is counted beside its outcome. -/
theorem count_announce {counter : Counter}
    (isOther : counter ≠ .descriptionFailed) :
    (announce settings surroundings arrival).counts.count counter =
      if counter = counterOf (.arrival arrival)
        (announce settings surroundings arrival).outcome then 1 else 0 := by
  rw [outcome_announce]
  simp only [announce, counts_send, List.count_append, toSend,
    foundDescription?]
  have noFailure (isFailure : Bool) :
      (if isFailure then [Counter.descriptionFailed] else []).count counter =
        0 := by
    cases isFailure
    · rfl
    · exact List.count_eq_zero.mpr (by simpa using isOther)
  rw [noFailure, Nat.zero_add, List.count_singleton]
  simp only [beq_iff_eq, @eq_comm _ counter, counterOf_arrival _ arrival]

/-- What is let through has its report in order. -/
theorem isAccounted_announce :
    IsAccounted settings ((surroundings, .arrival arrival),
      announce settings surroundings arrival) := by
  have notSuppressed := suppression?_announce settings surroundings arrival
  refine ⟨?_, ?_, ?_, ⟨rfl, rfl⟩,
    nodup_requests_announce settings surroundings arrival, ?_⟩
  · intro counter isOther
    exact count_announce settings surroundings arrival isOther
  · intro verdict isSuppressed
    rw [← suppression?_eq_some_iff, notSuppressed] at isSuppressed
    cases isSuppressed
  · intro _
    exact ⟨_, fun _ => asksAbout_of_request_ask settings surroundings arrival,
      requests_announce settings surroundings arrival⟩
  · simp only [outcome_announce, suppression?_send, true_and,
      outcome_send_eq_sent_iff, message]

end Requests

section Answers

variable {settings : Settings K} {surroundings : Surroundings T}

theorem send_congr {ntfy : Ntfy.Settings K} {exchange other : Net.Exchange}
    {notification : Notification T}
    (agree : ∀ request ∈ (send ntfy exchange notification).requests,
      other request = exchange request) :
    send ntfy other notification = send ntfy exchange notification := by
  have sameReply : (Ntfy.request ntfy notification).send other =
      (Ntfy.request ntfy notification).send exchange := by
    rw [requests_send] at agree
    rw [Net.Request.send, Net.Request.send]
    cases sent : (Ntfy.request ntfy notification).sent? with
    | none => rfl
    | some request => exact agree request (by simp [sent])
  unfold send deliver
  rw [sameReply]

theorem announce_congr {arrival : Arrival T} {exchange : Net.Exchange}
    (agree : ∀ request ∈ (announce settings surroundings arrival).requests,
      exchange request = surroundings.exchange request) :
    announce settings { surroundings with exchange } arrival =
      announce settings surroundings arrival := by
  have sameAttempt : Description.ask settings.description surroundings.files
      exchange arrival = Description.ask settings.description
        surroundings.files surroundings.exchange arrival := by
    refine Description.ask_congr_exchange fun sent isSent => agree sent ?_
    simp [requests_announce, isSent]
  have sameSending : send settings.ntfy exchange
      (toSend settings surroundings (.arrival arrival)) =
        send settings.ntfy surroundings.exchange
          (toSend settings surroundings (.arrival arrival)) := by
    refine send_congr fun request isSent => agree request ?_
    rw [requests_send] at isSent
    rw [requests_announce]
    exact List.mem_append_right _ isSent
  simp only [toSend, foundDescription?] at sameSending
  simp only [announce, sameAttempt, sameSending]

end Answers

section Handling

variable [Scalar K] [Timeline T] {settings : Settings K}
  {surroundings : Surroundings T} {state : State T}

theorem isAccounted_handle {notification : Notification T}
    {report : Report T}
    (isHandled : (handle settings surroundings state notification).2 =
      some report) :
    IsAccounted settings ((surroundings, notification), report) := by
  cases notification with
  | feedback feedback =>
      obtain rfl := Option.some.inj isHandled
      have notSuppressed := suppression?_send settings.ntfy
        surroundings.exchange (.feedback feedback : Notification T)
      refine ⟨?_, ?_, ?_, ⟨rfl, rfl⟩, ?_, ?_⟩
      · intro counter _
        simp only [counts_send, List.count_singleton, beq_iff_eq,
          @eq_comm _ counter]
      · intro verdict isSuppressed
        rw [← suppression?_eq_some_iff, notSuppressed] at isSuppressed
        cases isSuppressed
      · intro _
        refine ⟨none, by simp, ?_⟩
        simp only [requests_send, message, toSend, Option.toList_none,
          List.nil_append]
      · simp only [requests_send]
        exact Option.toList_nodup _
      · simp only [notSuppressed, true_and, outcome_send_eq_sent_iff, message,
          toSend]
  | arrival arrival =>
      cases verdict : (suppression settings.ntfy surroundings.mute
          state.lastSent arrival).1 with
      | some suppressed =>
          rw [handle_of_suppressed settings verdict] at isHandled
          obtain rfl := Option.some.inj isHandled
          refine ⟨?_, ?_, ?_, ⟨rfl, rfl⟩, List.nodup_nil, ?_⟩
          · intro counter _
            simp only [List.count_singleton, beq_iff_eq, @eq_comm _ counter]
            rfl
          · intro _ _
            exact ⟨⟨arrival, rfl⟩, rfl⟩
          · rintro ⟨⟩
          · simp [Outcome.suppression?]
      | none =>
          cases isKept : recordOf? arrival with
          | none =>
              rw [handle_of_not_kept settings verdict isKept] at isHandled
              cases isHandled
          | some record =>
              rw [handle_of_passed settings verdict isKept] at isHandled
              obtain rfl := Option.some.inj isHandled
              exact isAccounted_announce settings surroundings arrival

/-- No server is heard that is not asked. -/
theorem handle_congr {notification : Notification T} {exchange : Net.Exchange}
    (agree : ∀ report,
      (handle settings surroundings state notification).2 = some report →
        ∀ request ∈ report.requests,
          exchange request = surroundings.exchange request) :
    handle settings { surroundings with exchange } state notification =
      handle settings surroundings state notification := by
  cases notification with
  | feedback feedback =>
      rw [handle_feedback, handle_feedback, send_congr (agree _ rfl)]
  | arrival arrival =>
      -- No server is asked before the verdict, so it is the same in both.
      cases verdict : (suppression settings.ntfy surroundings.mute
          state.lastSent arrival).1 with
      | some suppressed =>
          have otherVerdict : (suppression settings.ntfy
              { surroundings with exchange }.mute state.lastSent arrival).1 =
                some suppressed :=
            verdict
          rw [handle_of_suppressed settings verdict,
            handle_of_suppressed settings otherVerdict]
      | none =>
          have otherVerdict : (suppression settings.ntfy
              { surroundings with exchange }.mute state.lastSent arrival).1 =
                none :=
            verdict
          cases isKept : recordOf? arrival with
          | none =>
              rw [handle_of_not_kept settings verdict isKept,
                handle_of_not_kept settings otherVerdict isKept]
          | some record =>
              rw [handle_of_passed settings verdict isKept] at agree ⊢
              rw [handle_of_passed settings otherVerdict isKept,
                announce_congr (agree _ rfl)]

theorem isAccounted_of_mem_withReports
    {queue : List (Surroundings T × Notification T)}
    {entry : (Surroundings T × Notification T) × Report T}
    (mem : entry ∈ withReports settings state queue) :
    IsAccounted settings entry := by
  induction state, queue using run_induction (T := T) settings with
  | nil state => cases mem
  | ended state surroundings notification queue reported =>
      rw [withReports_cons_of_ended reported] at mem
      cases mem
  | goesOn state surroundings notification queue report reported ih =>
      rw [withReports_cons_of_handled reported] at mem
      rcases List.mem_cons.mp mem with rfl | later
      · exact isAccounted_handle reported
      · exact ih later

/-- An entry of a queue with other servers. -/
def WithOtherServers (entry other : Surroundings T × Notification T) : Prop :=
  ∃ exchange, other = ({ entry.1 with exchange }, entry.2)

/-- An entry of a queue, with other servers that answer what was sent in the
same way. -/
def AnswersAlike (entry : (Surroundings T × Notification T) × Report T)
    (other : Surroundings T × Notification T) : Prop :=
  ∃ exchange, other = ({ entry.1.1 with exchange }, entry.1.2) ∧
    ∀ request ∈ entry.2.requests,
      exchange request = entry.1.1.exchange request

theorem run_congr {queue others rest : List (Surroundings T × Notification T)}
    (alike : List.Forall₂ AnswersAlike (withReports settings state queue)
      others)
    (alikeRest : List.Forall₂ WithOtherServers
      (unhandled settings state queue) rest) :
    run settings state (others ++ rest) = run settings state queue := by
  induction state, queue using run_induction (T := T) settings
      generalizing others with
  | nil state =>
      cases alike
      cases alikeRest
      rfl
  | ended state surroundings notification queue reported =>
      rw [withReports_cons_of_ended reported] at alike
      rw [unhandled_cons_of_ended reported] at alikeRest
      cases alike
      obtain ⟨_, later, ⟨exchange, rfl⟩, -, rfl⟩ :=
        List.forall₂_cons_left_iff.mp alikeRest
      have sameEnd : handle settings { surroundings with exchange } state
          notification = handle settings surroundings state notification :=
        handle_congr (by simp [reported])
      have reportedToo : (handle settings { surroundings with exchange }
          state notification).2 = none := by
        rw [sameEnd, reported]
      rw [List.nil_append, run_cons_of_ended reported,
        run_cons_of_ended reportedToo, sameEnd]
  | goesOn state surroundings notification queue report reported ih =>
      rw [withReports_cons_of_handled reported] at alike
      rw [unhandled_cons_of_handled reported] at alikeRest
      obtain ⟨_, otherQueue, ⟨exchange, rfl, agree⟩, alikeLater, rfl⟩ :=
        List.forall₂_cons_left_iff.mp alike
      have same : handle settings { surroundings with exchange } state
          notification = handle settings surroundings state notification :=
        handle_congr (by simpa [reported] using agree)
      have reportedToo : (handle settings { surroundings with exchange }
          state notification).2 = some report := by
        rw [same, reported]
      rw [List.cons_append, run_cons_of_handled reported,
        run_cons_of_handled reportedToo, same, ih alikeLater alikeRest]

end Handling

/-- What the counters that arrivals increment add up to. -/
def arrivalsCounted (counts : List Counter) : Nat :=
  counts.count (.notificationSent .object) +
    counts.count (.notificationFailed .object) +
    counts.count (.notificationSuppressed .muted) +
    counts.count (.notificationSuppressed .debounced)

/-- What the counters that acknowledgements increment add up to. -/
def feedbackCounted (counts : List Counter) : Nat :=
  counts.count (.notificationSent .feedback) +
    counts.count (.notificationFailed .feedback)

theorem arrivalsCounted_append (counts others : List Counter) :
    arrivalsCounted (counts ++ others) =
      arrivalsCounted counts + arrivalsCounted others := by
  simp only [arrivalsCounted, List.count_append]
  omega

theorem feedbackCounted_append (counts others : List Counter) :
    feedbackCounted (counts ++ others) =
      feedbackCounted counts + feedbackCounted others := by
  simp only [feedbackCounted, List.count_append]
  omega

section Counting

variable {settings : Settings K}
  {entries : List ((Surroundings T × Notification T) × Report T)}

/-- A counter of notifications stands at the number of those with its
outcome. -/
theorem count_counts
    (accounted : ∀ entry ∈ entries, IsAccounted settings entry)
    {counter : Counter} (isOther : counter ≠ .descriptionFailed) :
    (entries.flatMap (·.2.counts)).count counter =
      entries.countP fun entry =>
        counter = counterOf entry.1.2 entry.2.outcome := by
  induction entries with
  | nil => rfl
  | cons entry entries ih =>
      obtain ⟨first, later⟩ := List.forall_mem_cons.mp accounted
      rw [List.flatMap_cons, List.count_append, ih later, List.countP_cons,
        first.counted counter isOther, Nat.add_comm]
      simp only [decide_eq_true_eq]

/-- One notification adds one to the counters of its kind, and nothing to those
of the other kind. -/
theorem IsAccounted.counted_once
    {entry : (Surroundings T × Notification T) × Report T}
    (accounted : IsAccounted settings entry) :
    arrivalsCounted entry.2.counts =
        (if kindOf entry.1.2 = .object then 1 else 0) ∧
      feedbackCounted entry.2.counts =
        if kindOf entry.1.2 = .feedback then 1 else 0 := by
  obtain ⟨⟨surroundings, notification⟩, report⟩ := entry
  simp only [arrivalsCounted, feedbackCounted, accounted.counted, ne_eq,
    reduceCtorEq, not_false_eq_true]
  cases outcome : report.outcome with
  | sent => cases notification <;> simp [counterOf, kindOf]
  | failed => cases notification <;> simp [counterOf, kindOf]
  | suppressed verdict =>
      obtain ⟨⟨arrival, isArrival⟩, -⟩ := accounted.suppressed verdict outcome
      obtain rfl : notification = .arrival arrival := isArrival
      cases verdict <;> simp [counterOf, kindOf, Suppression.reason]

/-- The counters of a queue add up to the notifications in it. -/
theorem counters_add_up
    (accounted : ∀ entry ∈ entries, IsAccounted settings entry) :
    arrivalsCounted (entries.flatMap (·.2.counts)) =
        entries.countP (kindOf ·.1.2 = .object) ∧
      feedbackCounted (entries.flatMap (·.2.counts)) =
        entries.countP (kindOf ·.1.2 = .feedback) := by
  induction entries with
  | nil => exact ⟨rfl, rfl⟩
  | cons entry entries ih =>
      obtain ⟨first, later⟩ := List.forall_mem_cons.mp accounted
      obtain ⟨oneArrival, oneFeedback⟩ := first.counted_once
      obtain ⟨arrivals, feedback⟩ := ih later
      simp only [List.flatMap_cons, arrivalsCounted_append,
        feedbackCounted_append, oneArrival, oneFeedback, arrivals, feedback,
        List.countP_cons, decide_eq_true_eq, Nat.add_comm, and_self]

end Counting

variable [Scalar K] [Timeline T]

/-- Every notification that is handled is accounted for.  It has one report, in
order.  It adds one to the counter of its outcome and to no other counter of
notifications, so these stand at the numbers of the outcomes, and those of either
kind add up to the notifications of this kind.  A suppressed arrival causes no
request; any other notification causes one post to the topic at most, after one
question about an arrival at most, and it is sent exactly if the post is answered
by a success.  No request is repeated, and nothing depends on what else a server
would have answered.

The whole queue is handled exactly if nothing in it ends dispatching.  An arrival
that does is let through and dated so late that the day after it has no end; it
has no report, and neither have the notifications behind it. -/
theorem every_notification_is_accounted_for (settings : Settings K)
    (state : State T) (queue : List (Surroundings T × Notification T)) :
    let entries := withReports settings state queue
    let counts := (run settings state queue).2.flatMap (·.counts)
    entries.map Prod.fst = handled settings state queue ∧
      entries.map Prod.snd = (run settings state queue).2 ∧
      (∀ entry ∈ entries, IsAccounted settings entry) ∧
      (∀ counter, counter ≠ .descriptionFailed →
        counts.count counter = entries.countP fun entry =>
          counter = counterOf entry.1.2 entry.2.outcome) ∧
      arrivalsCounted counts =
        (handled settings state queue).countP (kindOf ·.2 = .object) ∧
      feedbackCounted counts =
        (handled settings state queue).countP (kindOf ·.2 = .feedback) ∧
      (∀ others rest, List.Forall₂ AnswersAlike entries others →
        List.Forall₂ WithOtherServers (unhandled settings state queue) rest →
          run settings state (others ++ rest) = run settings state queue) ∧
      (handled settings state queue = queue ↔
        ∀ before entry after, queue = before ++ entry :: after →
          ¬ EndsDispatching settings (run settings state before).1 entry) ∧
      ∀ entry rest, unhandled settings state queue = entry :: rest →
        EndsDispatching settings
          (run settings state (handled settings state queue)).1 entry := by
  intro entries counts
  have notifications : entries.map Prod.fst = handled settings state queue :=
    map_fst_withReports settings
  have reports : entries.map Prod.snd = (run settings state queue).2 :=
    map_snd_withReports settings
  have accounted : ∀ entry ∈ entries, IsAccounted settings entry :=
    fun _ => isAccounted_of_mem_withReports
  have isCounts : counts = entries.flatMap (·.2.counts) := by
    simp only [counts, ← reports, List.flatMap_map]
  obtain ⟨arrivals, feedback⟩ := counters_add_up accounted
  refine ⟨notifications, reports, accounted, ?_, ?_, ?_,
    fun _ _ => run_congr, ?_, fun _ _ => endsDispatching_of_unhandled settings⟩
  · intro counter isOther
    rw [isCounts, count_counts accounted isOther]
  · rw [isCounts, arrivals, ← notifications, List.countP_map]
    rfl
  · rw [isCounts, feedback, ← notifications, List.countP_map]
    rfl
  · rw [← unhandled_eq_nil_iff, handled_eq_self_iff]

/-- An arrival on the last day of all time is let through, and it is counted
nowhere. -/
theorem late_arrival_is_not_counted :
    let settings : Settings Float := ⟨.standard, .standard⟩
    let surroundings := deadWorld.around MuteWindow.silent (⟨100, 0⟩ : Instant)
    let arrival : Arrival Instant :=
      ⟨⟨8210266876799, 0⟩, "car", "arrived", "e0", none, none⟩
    let queue := [(surroundings, Notification.arrival arrival)]
    (suppression settings.ntfy surroundings.mute State.start.lastSent
        arrival).1 = none ∧
      queue.countP (kindOf ·.2 = .object) = 1 ∧
      arrivalsCounted ((run settings .start queue).2.flatMap (·.counts)) =
        0 := by
  decide +kernel

end Dispatch

end DrivewayWatch
