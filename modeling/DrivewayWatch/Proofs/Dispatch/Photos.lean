import DrivewayWatch.Proofs.Dispatch.Handling

/-!
# Photos that are kept

The store holds a record for an id exactly if an arrival with that id was
announced and the photo of the last one is not older than a day.  So it matters
which arrival was the last, and not which photo expires last: an announcement
replaces the record of its id even if the new one expires sooner.  What came of
the messages does not matter, and neither do acknowledgements and arrivals that
are suppressed.

An arrival that is let through so late that the day after it has no end is not
announced and leaves no record.  It ends dispatching, and the photos stay as
they are.
-/

namespace DrivewayWatch

namespace Dispatch

variable {K T : Type} [Scalar K]

/-- The arrival that a notification announces, if it is one that the report does
not say was suppressed. -/
def announcedBy (notification : Notification T) (report : Report T) :
    Option (Arrival T) :=
  match notification with
  | .arrival arrival =>
      if report.outcome.suppression?.isSome then none else some arrival
  | .feedback _ => none

/-- The arrivals of a queue that are announced, in order. -/
def announced [Timeline T] (settings : Settings K) (state : State T)
    (queue : List (Surroundings T × Notification T)) : List (Arrival T) :=
  (withReports settings state queue).filterMap fun entry =>
    announcedBy entry.1.2 entry.2

/-- The last arrival with an id. -/
def lastWithId (id : String) (arrivals : List (Arrival T)) :
    Option (Arrival T) :=
  (arrivals.filter fun arrival => arrival.id = id).getLast?

theorem lastWithId_cons (id : String) (arrival : Arrival T)
    (arrivals : List (Arrival T)) :
    lastWithId id (arrival :: arrivals) =
      (lastWithId id arrivals).or
        (if arrival.id = id then some arrival else none) := by
  by_cases sameId : arrival.id = id
  · simp [lastWithId, sameId, List.getLast?_cons, Option.or_some]
  · simp [lastWithId, sameId]

theorem mem_of_lastWithId {id : String} {arrivals : List (Arrival T)}
    {arrival : Arrival T} (isLast : lastWithId id arrivals = some arrival) :
    arrival ∈ arrivals :=
  (List.mem_filter.mp (List.mem_of_getLast? isLast)).1

theorem id_of_lastWithId {id : String} {arrivals : List (Arrival T)}
    {arrival : Arrival T} (isLast : lastWithId id arrivals = some arrival) :
    arrival.id = id := by
  have member := List.mem_of_getLast? isLast
  simpa using (List.mem_filter.mp member).2

section Timeline

variable [Timeline T] (settings : Settings K)

/-- The store with the record of an arrival, if one is announced. -/
def stored (photos : PhotoStore T) (arrival : Option (Arrival T)) :
    PhotoStore T :=
  match arrival.bind recordOf? with
  | some record => photos.insert record
  | none => photos

theorem isKeyed_stored {photos : PhotoStore T} (keyed : photos.IsKeyed)
    (arrival : Option (Arrival T)) : (stored photos arrival).IsKeyed := by
  unfold stored
  cases arrival.bind recordOf? with
  | none => exact keyed
  | some record => exact keyed.insert record

section Handled

variable {settings} {surroundings : Surroundings T} {state : State T}
  {notification : Notification T} {report : Report T}
  (isHandled : (handle settings surroundings state notification).2 =
    some report)

include isHandled

theorem announced_cons_of_handled
    (queue : List (Surroundings T × Notification T)) :
    announced settings state ((surroundings, notification) :: queue) =
      (announcedBy notification report).toList ++
        announced settings
          (handle settings surroundings state notification).1 queue := by
  rw [announced, withReports_cons_of_handled isHandled, List.filterMap_cons]
  cases announcedBy notification report <;> rfl

/-- Only what is judged of an arrival decides whether it is announced, not what
came of its message. -/
theorem announcedBy_eq_some_iff {arrival : Arrival T} :
    announcedBy notification report = some arrival ↔
      notification = .arrival arrival ∧
        (suppression settings.ntfy surroundings.mute state.lastSent
          arrival).1 = none := by
  cases notification with
  | feedback feedback => simp [announcedBy]
  | arrival other =>
      have verdict := suppression?_of_handle settings isHandled
      rw [announcedBy, verdict]
      cases judged : (suppression settings.ntfy surroundings.mute
          state.lastSent other).1 with
      | some suppressed =>
          simp only [Option.isSome_some, if_true, reduceCtorEq,
            Notification.arrival.injEq, false_iff, not_and]
          rintro rfl
          simp [judged]
      | none =>
          simp only [Option.isSome_none, Bool.false_eq_true, if_false,
            Option.some.injEq, Notification.arrival.injEq, iff_self_and]
          rintro rfl
          exact judged

/-- One notification stores the photo of what it announces and prunes. -/
theorem photos_handle :
    (handle settings surroundings state notification).1.photos =
      (stored state.photos (announcedBy notification report)).prune
          surroundings.now := by
  cases notification with
  | feedback feedback => rfl
  | arrival arrival =>
      cases judged : (suppression settings.ntfy surroundings.mute
          state.lastSent arrival).1 with
      | some suppressed =>
          have notAnnounced : announcedBy (.arrival arrival) report = none := by
            rw [Option.eq_none_iff_forall_ne_some]
            intro other isAnnounced
            obtain ⟨⟨⟩, passed⟩ := (announcedBy_eq_some_iff isHandled).mp
              isAnnounced
            simp [judged] at passed
          rw [handle_of_suppressed settings judged, notAnnounced]
          rfl
      | none =>
          have isAnnounced :=
            (announcedBy_eq_some_iff isHandled).mpr ⟨rfl, judged⟩
          cases isKept : recordOf? arrival with
          | some record =>
              rw [handle_of_passed settings judged isKept, isAnnounced, stored,
                Option.bind_some, isKept]
          | none =>
              rw [handle_of_not_kept settings judged isKept] at isHandled
              cases isHandled

/-- What is announced has a record. -/
theorem exists_recordOf?_of_announcedBy {arrival : Arrival T}
    (isAnnounced : announcedBy notification report = some arrival) :
    ∃ record, recordOf? arrival = some record := by
  obtain ⟨rfl, passed⟩ := (announcedBy_eq_some_iff isHandled).mp isAnnounced
  cases isKept : recordOf? arrival with
  | some record => exact ⟨record, rfl⟩
  | none =>
      rw [handle_of_not_kept settings passed isKept] at isHandled
      cases isHandled

end Handled

theorem id_of_recordOf? {arrival : Arrival T} {record : PhotoRecord T}
    (isKept : recordOf? arrival = some record) : record.id = arrival.id := by
  obtain ⟨expires, -, rfl⟩ := PhotoRecord.new?_eq_some_iff.mp isKept
  rfl

theorem announced_cons_of_passed {surroundings : Surroundings T}
    {state : State T} {arrival : Arrival T}
    (passed : (suppression settings.ntfy surroundings.mute state.lastSent
      arrival).1 = none)
    {record : PhotoRecord T} (isKept : recordOf? arrival = some record)
    (queue : List (Surroundings T × Notification T)) :
    announced settings state ((surroundings, .arrival arrival) :: queue) =
      arrival :: announced settings
        (handle settings surroundings state (.arrival arrival)).1 queue := by
  have isHandled :
      (handle settings surroundings state (.arrival arrival)).2 =
        some (announce settings surroundings arrival) := by
    rw [handle_of_passed settings passed isKept]
  rw [announced_cons_of_handled isHandled,
    (announcedBy_eq_some_iff isHandled).mpr ⟨rfl, passed⟩,
    Option.toList_some, List.singleton_append]

theorem announced_cons_of_ended {surroundings : Surroundings T}
    {state : State T} {notification : Notification T}
    (hasEnded : (handle settings surroundings state notification).2 = none)
    (queue : List (Surroundings T × Notification T)) :
    announced settings state ((surroundings, notification) :: queue) = [] := by
  rw [announced, withReports_cons_of_ended hasEnded, List.filterMap_nil]

theorem exists_recordOf?_of_mem_announced {state : State T}
    {queue : List (Surroundings T × Notification T)} {arrival : Arrival T}
    (isAnnounced : arrival ∈ announced settings state queue) :
    ∃ record, recordOf? arrival = some record := by
  induction state, queue using run_induction (T := T) settings with
  | nil state => cases isAnnounced
  | ended state surroundings notification queue reported =>
      rw [announced_cons_of_ended settings reported] at isAnnounced
      cases isAnnounced
  | goesOn state surroundings notification queue report reported ih =>
      rw [announced_cons_of_handled reported] at isAnnounced
      rcases List.mem_append.mp isAnnounced with first | inQueue
      · exact exists_recordOf?_of_announcedBy reported
          (Option.mem_toList.mp first)
      · exact ih inQueue

/-- Where nothing is handled the photos stay as they are. -/
theorem photos_run_of_handled_eq_nil {state : State T}
    {queue : List (Surroundings T × Notification T)}
    (noneHandled : handled settings state queue = []) :
    (run settings state queue).1.photos = state.photos := by
  induction state, queue using run_induction (T := T) settings with
  | nil state => rfl
  | ended state surroundings notification queue reported =>
      rw [run_cons_of_ended reported, photos_handle_of_ended settings reported]
  | goesOn state surroundings notification queue report reported _ =>
      rw [handled_cons_of_handled reported] at noneHandled
      cases noneHandled

theorem isKeyed_run {start : State T} (keyed : start.photos.IsKeyed)
    (queue : List (Surroundings T × Notification T)) :
    (run settings start queue).1.photos.IsKeyed := by
  induction start, queue using run_induction (T := T) settings with
  | nil start => exact keyed
  | ended start surroundings notification queue reported =>
      rw [run_cons_of_ended reported]
      simpa only [photos_handle_of_ended settings reported] using keyed
  | goesOn start surroundings notification queue report reported ih =>
      rw [run_cons_of_handled reported]
      apply ih
      rw [photos_handle reported]
      exact (isKeyed_stored keyed _).prune surroundings.now

end Timeline

/-- What is found of a record if it has to be alive at a time. -/
def alive (found : Option (PhotoRecord Instant)) (now : Instant) :
    Option (PhotoRecord Instant) :=
  found.filter fun record => !record.isExpired now

/-- Looking for what is alive earlier makes no difference later. -/
theorem alive_alive {earlier now : Instant} (inOrder : ¬ now < earlier)
    (found : Option (PhotoRecord Instant)) :
    alive (alive found earlier) now = alive found now := by
  cases found with
  | none => rfl
  | some record =>
      cases expired : record.isExpired earlier with
      | false => simp [alive, Option.filter_some_pos, expired]
      | true =>
          have expiredNow := PhotoRecord.isExpired_of_earlier inOrder expired
          simp [alive, Option.filter_some_neg, expired, expiredNow]

theorem alive_or_alive {earlier now : Instant} (inOrder : ¬ now < earlier)
    (first found : Option (PhotoRecord Instant)) :
    alive (first.or (alive found earlier)) now = alive (first.or found) now := by
  cases first with
  | none => exact alive_alive inOrder found
  | some record => rfl

theorem alive_eq_some_iff {found : Option (PhotoRecord Instant)}
    {now : Instant} {record : PhotoRecord Instant} :
    alive found now = some record ↔
      found = some record ∧ ¬ record.expires < now := by
  rw [alive, Option.filter_eq_some_iff]
  simp [PhotoRecord.isExpired]

/-- All that is found after pruning is alive. -/
theorem alive_get?_prune {store : PhotoStore Instant} (keyed : store.IsKeyed)
    (now : Instant) (id : String) :
    alive ((store.prune now).get? id) now = (store.prune now).get? id := by
  rw [PhotoStore.get?_prune keyed]
  exact alive_alive (Instant.not_lt_self now) (store.get? id)

variable (settings : Settings K)

/-- Once something was handled, all that is left was alive when the last
notification was. -/
theorem alive_get?_run_of_last {state : State Instant}
    (keyed : state.photos.IsKeyed)
    {queue before : List (Surroundings Instant × Notification Instant)}
    {last : Surroundings Instant × Notification Instant}
    (isLast : handled settings state queue = before ++ [last]) (id : String) :
    alive ((run settings state queue).1.photos.get? id) last.1.now =
      (run settings state queue).1.photos.get? id := by
  induction state, queue using run_induction (T := Instant) settings
      generalizing before with
  | nil state => simp [handled] at isLast
  | ended state surroundings notification queue reported =>
      rw [handled_cons_of_ended reported] at isLast
      simp at isLast
  | goesOn state surroundings notification queue report reported ih =>
      rw [handled_cons_of_handled reported] at isLast
      rw [run_cons_of_handled reported]
      have isPruned := photos_handle reported
      cases before with
      | nil =>
          obtain ⟨rfl, noneLater⟩ := List.cons.inj isLast
          rw [photos_run_of_handled_eq_nil settings noneLater, isPruned]
          exact alive_get?_prune (isKeyed_stored keyed _) surroundings.now id
      | cons first before =>
          have keyedNext :
              (handle settings surroundings state
                notification).1.photos.IsKeyed := by
            rw [isPruned]
            exact (isKeyed_stored keyed _).prune surroundings.now
          exact ih keyedNext (List.cons.inj isLast).2

/-- What the store holds is what the last announcements say, and else what it
held before, as far as it is alive at a time that is not before what was
handled. -/
theorem alive_get?_run {start : State Instant} (keyed : start.photos.IsKeyed)
    {queue : List (Surroundings Instant × Notification Instant)}
    {now : Instant}
    (inOrder : ∀ entry ∈ handled settings start queue, ¬ now < entry.1.now)
    (id : String) :
    alive ((run settings start queue).1.photos.get? id) now =
      alive (((lastWithId id (announced settings start queue)).bind
        recordOf?).or (start.photos.get? id)) now := by
  induction start, queue using run_induction (T := Instant) settings with
  | nil start => rfl
  | ended start surroundings notification queue reported =>
      rw [run_cons_of_ended reported,
        announced_cons_of_ended settings reported,
        photos_handle_of_ended settings reported]
      rfl
  | goesOn start surroundings notification queue report reported ih =>
      rw [handled_cons_of_handled reported] at inOrder
      obtain ⟨notBefore, inOrderLater⟩ := List.forall_mem_cons.mp inOrder
      have isPruned := photos_handle reported
      have keyedStored := isKeyed_stored keyed
        (announcedBy notification report)
      have keyedNext :
          (handle settings surroundings start
            notification).1.photos.IsKeyed := by
        rw [isPruned]
        exact keyedStored.prune surroundings.now
      rw [run_cons_of_handled reported, ih keyedNext inOrderLater, isPruned,
        PhotoStore.get?_prune keyedStored,
        announced_cons_of_handled reported]
      refine (alive_or_alive notBefore _ _).trans (congrArg (alive · now) ?_)
      cases first : announcedBy notification report with
      | none => rfl
      | some arrival =>
          obtain ⟨record, isKept⟩ :=
            exists_recordOf?_of_announcedBy reported first
          have sameId := id_of_recordOf? isKept
          rw [stored, Option.bind_some, isKept, Option.toList_some,
            List.singleton_append, lastWithId_cons]
          simp only [PhotoStore.get?_insert, sameId]
          cases isLast : lastWithId id (announced settings
              (handle settings surroundings start notification).1
                queue) with
          | none =>
              by_cases hasId : arrival.id = id
              · simp [hasId, isKept]
              · simp [hasId]
          | some later =>
              -- A later announcement hides this one.
              obtain ⟨laterRecord, isKeptToo⟩ :=
                exists_recordOf?_of_mem_announced settings
                  (mem_of_lastWithId isLast)
              simp [isKeptToo]

theorem mem_of_mem_handled {start : State T} [Timeline T]
    {queue : List (Surroundings T × Notification T)}
    {entry : Surroundings T × Notification T}
    (isHandled : entry ∈ handled settings start queue) : entry ∈ queue :=
  List.mem_of_mem_take isHandled

/-- A photo that was announced is found until its time has passed, if no other
announcement takes its place. -/
theorem get?_run_of_announced {start : State Instant}
    (keyed : start.photos.IsKeyed) {surroundings : Surroundings Instant}
    {arrival : Arrival Instant}
    (passed : (suppression settings.ntfy surroundings.mute start.lastSent
      arrival).1 = none)
    {record : PhotoRecord Instant} (isKept : recordOf? arrival = some record)
    {queue : List (Surroundings Instant × Notification Instant)}
    (noOther : ∀ other ∈ announced settings
      (handle settings surroundings start (.arrival arrival)).1 queue,
        other.id ≠ arrival.id)
    {now : Instant}
    (inOrder : ∀ entry ∈ (surroundings, .arrival arrival) :: queue,
      ¬ now < entry.1.now)
    (notPast : ¬ record.expires < now) :
    (run settings start
        ((surroundings, .arrival arrival) :: queue)).1.photos.get? arrival.id =
      some record := by
  have isLast : lastWithId arrival.id (announced settings
      start ((surroundings, .arrival arrival) :: queue)) = some arrival := by
    have noneAfter : (announced settings
        (handle settings surroundings start (.arrival arrival)).1
          queue).filter (fun other => other.id = arrival.id) = [] := by
      simpa using noOther
    rw [announced_cons_of_passed settings passed isKept, lastWithId,
      List.filter_cons_of_pos (by simp), noneAfter]
    rfl
  have inOrderHandled : ∀ entry ∈ handled settings start
      ((surroundings, .arrival arrival) :: queue), ¬ now < entry.1.now :=
    fun entry member => inOrder entry (mem_of_mem_handled settings member)
  have found := alive_get?_run settings keyed inOrderHandled arrival.id
  rw [isLast, Option.bind_some, isKept, Option.some_or,
    alive_eq_some_iff.mpr ⟨rfl, notPast⟩] at found
  exact (alive_eq_some_iff.mp found).1

/-- The readings of the clock in a queue. -/
def readings (queue : List (Surroundings T × Notification T)) : List T :=
  queue.map fun entry => entry.1.now

theorem forall_not_lt_of_isChain
    {queue : List (Surroundings Instant × Notification Instant)}
    {last : Surroundings Instant × Notification Instant}
    (inOrder : (readings (queue ++ [last])).IsChain fun earlier later =>
      ¬ later < earlier) :
    ∀ entry ∈ queue ++ [last], ¬ last.1.now < entry.1.now := by
  have transitive : IsTrans Instant fun earlier later => ¬ later < earlier :=
    ⟨fun _ _ _ first second => Instant.not_lt_trans first second⟩
  rw [readings, List.map_append, List.isChain_iff_pairwise,
    List.pairwise_append] at inOrder
  intro entry member
  rcases List.mem_append.mp member with inQueue | isLast
  · exact inOrder.2.2 _ (List.mem_map_of_mem inQueue) _ (by simp)
  · obtain rfl := List.mem_singleton.mp isLast
    exact Instant.not_lt_self _

/-- The photos that are kept.  The clock does not go back and the store is empty
at first.  Then after the part of a queue that is handled there is a record for
an id exactly if an arrival with that id was announced, and a day after the last
one is not past yet; and this arrival is the one that the record was made of.
The rest of the queue is empty unless an arrival is let through after which a
day has no end.  This one adds no record, but ends dispatching: a queue is
handled to its end exactly if it has no such arrival.  What is not announced
does nothing but remove records that are expired. -/
theorem photos_are_those_of_last_announcements {start : State Instant}
    (isEmpty : start.photos = .empty)
    {queue : List (Surroundings Instant × Notification Instant)}
    (inOrder : (readings queue).IsChain fun earlier later =>
      ¬ later < earlier) :
    (run settings start queue).1.photos.IsKeyed ∧
    (∀ before last, handled settings start queue = before ++ [last] →
      ∀ id record,
        (run settings start queue).1.photos.get? id = some record ↔
          ∃ arrival expires,
            lastWithId id (announced settings start queue) = some arrival ∧
            Timeline.inSeconds? arrival.time 86400 = some expires ∧
            ¬ expires < last.1.now ∧
            record = ⟨id, expires, arrival.photo⟩) ∧
    (handled settings start queue = [] →
      (run settings start queue).1.photos = .empty) ∧
    (unhandled settings start queue = [] ↔
      ∀ before entry after, queue = before ++ entry :: after →
        ¬ EndsDispatching settings (run settings start before).1 entry) ∧
    (∀ surroundings (state : State Instant) notification,
      EndsDispatching settings state (surroundings, notification) →
        (handle settings surroundings state notification).2 = none ∧
        (handle settings surroundings state notification).1.photos =
          state.photos) ∧
    (∀ surroundings (state : State Instant) notification report,
      (handle settings surroundings state notification).2 = some report →
      announcedBy notification report = none →
        (handle settings surroundings state notification).1.photos =
          state.photos.prune surroundings.now) := by
  have keyed : start.photos.IsKeyed := by
    rw [isEmpty]
    exact PhotoStore.isKeyed_empty
  refine ⟨isKeyed_run settings keyed queue, ?_, ?_,
    unhandled_eq_nil_iff settings, ?_, ?_⟩
  · intro before last isLast id record
    have inOrderHandled : (readings (before ++ [last])).IsChain
        fun earlier later => ¬ later < earlier := by
      rw [← isLast, handled, readings, List.map_take]
      exact inOrder.take _
    have notBefore := forall_not_lt_of_isChain inOrderHandled
    rw [← isLast] at notBefore
    have found := alive_get?_run settings keyed notBefore id
    have nothing : start.photos.get? id = none := by
      rw [isEmpty]
      rfl
    -- The store was pruned last, so all that it holds is alive.
    rw [alive_get?_run_of_last settings keyed isLast, nothing,
      Option.or_none] at found
    rw [found, alive_eq_some_iff, Option.bind_eq_some_iff]
    constructor
    · rintro ⟨⟨arrival, isNewest, isKept⟩, notPast⟩
      obtain ⟨expires, ends, rfl⟩ := PhotoRecord.new?_eq_some_iff.mp isKept
      obtain rfl := id_of_lastWithId isNewest
      exact ⟨arrival, expires, isNewest, ends, notPast, rfl⟩
    · rintro ⟨arrival, expires, isNewest, ends, notPast, rfl⟩
      obtain rfl := id_of_lastWithId isNewest
      exact ⟨⟨arrival, isNewest,
        PhotoRecord.new?_eq_some_iff.mpr ⟨expires, ends, rfl⟩⟩, notPast⟩
  · intro noneHandled
    rw [photos_run_of_handled_eq_nil settings noneHandled, isEmpty]
  · intro surroundings state notification ends
    have hasEnded := (handle_eq_none_iff settings _ _ _).mpr ends
    exact ⟨hasEnded, photos_handle_of_ended settings hasEnded⟩
  · intro surroundings state notification report isHandled notAnnounced
    rw [photos_handle isHandled, notAnnounced]
    rfl

/-- What surrounds a notification that is handled until a certain second, while
nothing is muted and no server replies. -/
def quiet (second : Int) : Surroundings Instant :=
  ⟨.silent, ⟨second, 0⟩, fun _ => none, false, fun _ => none⟩

/-- Two arrivals with one id, of which the later one to be announced is the
older one, and an acknowledgement at the end of the day. -/
def swappedDay : List (Surroundings Instant × Notification Instant) :=
  [(quiet 190000, .arrival ⟨⟨180000, 0⟩, "car", "arrived", "e0", none, none⟩),
    (quiet 190001,
      .arrival ⟨⟨100000, 0⟩, "person", "arrived", "e0", none, none⟩),
    (quiet 190002, .feedback (.unmuted "e0"))]

/-- The older arrival replaces the record of the younger one and is past its day
already, so nothing is left. -/
theorem photos_are_those_of_last_announcements_of_swappedDay :
    let settings : Settings Float := ⟨.standard, .standard⟩
    (State.start : State Instant).photos = .empty ∧
      (readings swappedDay).IsChain (fun earlier later => ¬ later < earlier) ∧
      (run settings State.start swappedDay).2.length = 3 ∧
      (run settings State.start swappedDay).1.photos.get? "e0" = none := by
  intro settings
  have isEmpty : (State.start : State Instant).photos = .empty := rfl
  have inOrder : (readings swappedDay).IsChain
      (fun earlier later => ¬ later < earlier) := by
    decide +kernel
  have all : (run settings State.start swappedDay).2.length = 3 := by
    decide +kernel
  have isAnnounced : announced settings State.start swappedDay =
      [⟨⟨180000, 0⟩, "car", "arrived", "e0", none, none⟩,
        ⟨⟨100000, 0⟩, "person", "arrived", "e0", none, none⟩] := by
    rw [swappedDay,
      announced_cons_of_passed settings (by decide +kernel) rfl,
      announced_cons_of_passed settings (by decide +kernel) rfl]
    rfl
  have isLast : lastWithId "e0" (announced settings State.start swappedDay) =
      some ⟨⟨100000, 0⟩, "person", "arrived", "e0", none, none⟩ := by
    rw [isAnnounced]
    rfl
  have isHandled : handled settings State.start swappedDay =
      swappedDay.take 2 ++ [(quiet 190002, .feedback (.unmuted "e0"))] := by
    rw [handled, all]
    rfl
  obtain ⟨-, found, -⟩ :=
    photos_are_those_of_last_announcements settings isEmpty inOrder
  refine ⟨isEmpty, inOrder, all, ?_⟩
  rw [Option.eq_none_iff_forall_ne_some]
  intro record isFound
  obtain ⟨arrival, expires, isArrival, ends, notPast, -⟩ :=
    (found _ _ isHandled "e0" record).mp isFound
  obtain rfl := Option.some.inj (isArrival.symm.trans isLast)
  obtain rfl : (⟨186400, 0⟩ : Instant) = expires :=
    Option.some.inj (Eq.trans (by decide +kernel) ends)
  exact notPast (by decide)

/-- An arrival on the last day of all time is let through, but leaves no record
and no report. -/
theorem late_photo_is_not_kept :
    let settings : Settings Float := ⟨.standard, .standard⟩
    let arrival : Arrival Instant :=
      ⟨⟨8210266876799, 0⟩, "car", "arrived", "e0", some [0xFF, 0xD8], none⟩
    let queue := [(quiet 100, Notification.arrival arrival)]
    (suppression settings.ntfy .silent State.start.lastSent arrival).1 = none ∧
      (run settings State.start queue).2.length = 0 ∧
      (run settings State.start queue).1.photos.get? "e0" = none := by
  decide +kernel

end Dispatch

end DrivewayWatch
