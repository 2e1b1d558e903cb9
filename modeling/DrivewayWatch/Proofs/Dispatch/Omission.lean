import DrivewayWatch.Proofs.Dispatch.Handling
import Mathlib.Data.List.Forall2

/-!
# What may be left out of a queue

An arrival is judged by the mute window that it meets and by the arrivals of
its classification that were let through before it.  Nothing else in a queue
matters to it: acknowledgements, arrivals of other classifications and arrivals
that are suppressed can be left out in any number, and the verdicts on the
others stay as they are.

Only whether it is judged at all can depend on more.  An arrival of another
classification that is debounced in the whole queue may be let through where
others are left out, and then it ends dispatching if the end of the day after it
cannot be named.
-/

namespace DrivewayWatch

namespace Dispatch

variable {K T : Type}

/-- Whether a notification announces something of a classification. -/
def isOf (classification : String) : Notification T → Bool
  | .arrival arrival => arrival.classification == classification
  | .feedback _ => false

/-- Whether a report is about an arrival of a classification that is not
suppressed. -/
def isPassedOf (classification : String)
    (entry : (Surroundings T × Notification T) × Report T) : Bool :=
  isOf classification entry.1.2 && entry.2.outcome.suppression?.isNone

/-- What decides about a notification in a queue: the mute window that it meets
and what it says itself. -/
def met (entry : Surroundings T × Notification T) :
    MuteWindow T × Notification T :=
  (entry.1.mute, entry.2)

/-- Two reports about one notification in two queues.  If it is an arrival of a
classification, the same is said of it in both. -/
structure SameVerdictOn (classification : String)
    (one other : (Surroundings T × Notification T) × Report T) : Prop where
  met : met one.1 = met other.1
  verdict : isOf classification one.1.2 = true →
    one.2.outcome.suppression? = other.2.outcome.suppression?

/-- An arrival of another classification that was debounced, and after which the
end of a day cannot be named. -/
def IsDebouncedElsewhere [Timeline T] (classification : String)
    (entry : (Surroundings T × Notification T) × Report T) : Prop :=
  ∃ arrival, entry.1.2 = .arrival arrival ∧
    arrival.classification ≠ classification ∧
    entry.2.outcome = .suppressed .debounced ∧
    Timeline.inSeconds? arrival.time 86400 = none

/-- A report that a part leaves out is not about an arrival that was let
through, if the part has all of those. -/
theorem isPassedOf_eq_false_of_left_out {classification : String}
    {entry : (Surroundings T × Notification T) × Report T}
    {part reports : List ((Surroundings T × Notification T) × Report T)}
    (isPart : part.Sublist reports)
    (keepsPassed : part.filter (isPassedOf classification) =
      (entry :: reports).filter (isPassedOf classification)) :
    isPassedOf classification entry = false := by
  by_contra isPassed
  rw [List.filter_cons_of_pos (eq_true_of_ne_false isPassed)] at keepsPassed
  have shorter := (isPart.filter (isPassedOf classification)).length_le
  rw [keepsPassed, List.length_cons] at shorter
  omega

/-- What is kept of two lists is the same without their first entry if they have
that in common. -/
theorem filter_eq_of_cons {A : Type} (keep : A → Bool) {first : A}
    {list other : List A}
    (same : (first :: list).filter keep = (first :: other).filter keep) :
    list.filter keep = other.filter keep := by
  cases isKept : keep first with
  | true => simpa only [List.filter_cons_of_pos isKept, List.cons.injEq,
      true_and] using same
  | false => simpa [List.filter_cons, isKept] using same

variable [Scalar K] [Timeline T] (settings : Settings K)

section Reference

variable {classification : String} {one other : State T}

/-- Of all that is remembered only the time of its own classification decides
about an arrival, and about the time that is remembered after it. -/
theorem suppression_congr (window : MuteWindow T) (arrival : Arrival T)
    {lastSent otherLastSent : List (String × T)}
    (same : lastSent.lookup arrival.classification =
      otherLastSent.lookup arrival.classification) :
    (suppression settings.ntfy window lastSent arrival).1 =
        (suppression settings.ntfy window otherLastSent arrival).1 ∧
      (suppression settings.ntfy window lastSent arrival).2.lookup
          arrival.classification =
        (suppression settings.ntfy window otherLastSent arrival).2.lookup
          arrival.classification := by
  have sameDebounce : isDebounced settings.ntfy lastSent arrival =
      isDebounced settings.ntfy otherLastSent arrival := by
    simp only [isDebounced, same]
  unfold suppression
  rw [sameDebounce]
  cases window.activeAt arrival.time with
  | some deadline => exact ⟨rfl, same⟩
  | none =>
      cases isDebounced settings.ntfy otherLastSent arrival with
      | true => exact ⟨rfl, same⟩
      | false =>
          refine ⟨rfl, ?_⟩
          exact (lookup_setLast_self ..).trans (lookup_setLast_self ..).symm

theorem lookup_suppression_of_ne (window : MuteWindow T)
    (lastSent : List (String × T)) {arrival : Arrival T}
    (differs : arrival.classification ≠ classification) :
    (suppression settings.ntfy window lastSent arrival).2.lookup
        classification = lastSent.lookup classification := by
  rcases suppression_cases settings.ntfy window lastSent arrival with
    ⟨deadline, -, judged⟩ | ⟨-, -, judged⟩ | ⟨-, -, judged⟩
  · rw [judged]
  · rw [judged]
  · rw [judged]
    exact lookup_setLast_of_ne _ _ _ differs

theorem lookup_handle_of_not_isOf (surroundings : Surroundings T)
    (state : State T) {notification : Notification T}
    (notOf : isOf classification notification = false) :
    (handle settings surroundings state
        notification).1.lastSent.lookup classification =
      state.lastSent.lookup classification := by
  cases notification with
  | feedback feedback => rfl
  | arrival arrival =>
      rw [lastSent_handle]
      exact lookup_suppression_of_ne settings _ _ (ne_of_beq_false notOf)

/-- The time that is remembered of a classification changes only if an arrival
of it is let through. -/
theorem lookup_handle_of_not_passed {surroundings : Surroundings T}
    {state : State T} {notification : Notification T} {report : Report T}
    (isHandled : (handle settings surroundings state notification).2 =
      some report)
    (notPassed : isPassedOf classification
      ((surroundings, notification), report) = false) :
    (handle settings surroundings state
        notification).1.lastSent.lookup classification =
      state.lastSent.lookup classification := by
  cases notification with
  | feedback feedback => rfl
  | arrival arrival =>
      by_cases ofClass : arrival.classification = classification
      · have verdict := suppression?_of_handle settings isHandled
        cases judged : (suppression settings.ntfy surroundings.mute
            state.lastSent arrival).1 with
        | some suppressed => rw [handle_of_suppressed settings judged]
        | none =>
            rw [judged] at verdict
            simp [isPassedOf, isOf, ofClass, verdict] at notPassed
      · exact lookup_handle_of_not_isOf settings _ _ (beq_false_of_ne ofClass)

/-- A notification is handled alike where the same time is remembered of a
classification: the verdict is the same if it is an arrival of it, and the time
that is remembered stays the same. -/
theorem handle_congr_of_lookup
    (same : one.lastSent.lookup classification =
      other.lastSent.lookup classification)
    {first second : Surroundings T} (sameMute : first.mute = second.mute)
    {notification : Notification T} {report otherReport : Report T}
    (isHandled : (handle settings first one notification).2 = some report)
    (isHandledToo : (handle settings second other notification).2 =
      some otherReport) :
    (isOf classification notification = true →
      report.outcome.suppression? = otherReport.outcome.suppression?) ∧
    (handle settings first one notification).1.lastSent.lookup classification =
      (handle settings second other
        notification).1.lastSent.lookup classification := by
  cases notification with
  | feedback feedback =>
      refine ⟨?_, same⟩
      rintro ⟨⟩
  | arrival arrival =>
      by_cases ofClass : arrival.classification = classification
      · subst ofClass
        obtain ⟨sameVerdict, sameAfter⟩ :=
          suppression_congr settings first.mute arrival same
        rw [suppression?_of_handle settings isHandled,
          suppression?_of_handle settings isHandledToo, lastSent_handle,
          lastSent_handle, ← sameMute]
        exact ⟨fun _ => sameVerdict, sameAfter⟩
      · have notOf : isOf classification (.arrival arrival) = false :=
          beq_false_of_ne ofClass
        refine ⟨fun isOfClass => ?_, ?_⟩
        · rw [notOf] at isOfClass
          cases isOfClass
        · rw [lookup_handle_of_not_isOf settings first one notOf,
            lookup_handle_of_not_isOf settings second other notOf, same]

/-- What is handled in one queue ends dispatching in another one only if it was
debounced and is of another classification. -/
theorem isDebouncedElsewhere_of_ended
    (same : one.lastSent.lookup classification =
      other.lastSent.lookup classification)
    {first second : Surroundings T} (sameMute : first.mute = second.mute)
    {notification : Notification T} {report : Report T}
    (isHandled : (handle settings first one notification).2 = some report)
    (hasEnded : (handle settings second other notification).2 = none) :
    IsDebouncedElsewhere classification ((first, notification), report) := by
  obtain ⟨arrival, rfl, passed, notFound⟩ :=
    (handle_eq_none_iff settings second other notification).mp hasEnded
  rw [← sameMute] at passed
  have verdict := suppression?_of_handle settings isHandled
  rcases suppression_cases settings.ntfy first.mute one.lastSent arrival with
    ⟨deadline, active, -⟩ | ⟨-, -, judged⟩ | ⟨-, -, judged⟩
  · simp [suppression, active] at passed
  · rw [judged] at verdict
    refine ⟨arrival, rfl, ?_, suppression?_eq_some_iff.mp verdict, notFound⟩
    rintro rfl
    have sameVerdict := (suppression_congr settings first.mute arrival same).1
    rw [judged, passed] at sameVerdict
    cases sameVerdict
  · have endsToo : EndsDispatching settings one (first, .arrival arrival) :=
      ⟨arrival, rfl, congrArg Prod.fst judged, notFound⟩
    rw [(handle_eq_none_iff settings first one _).mpr endsToo] at isHandled
    cases isHandled

end Reference

section Parts

variable {classification : String}
  {queue shorter : List (Surroundings T × Notification T)}
  {part : List ((Surroundings T × Notification T) × Report T)}

/-- A part of a queue with all arrivals of a classification that were let
through is handled like the whole, as far as the classification goes and as long
as dispatching does not end. -/
theorem sameVerdictOn_of_part {one other : State T}
    (same : one.lastSent.lookup classification =
      other.lastSent.lookup classification)
    (isPart : part.Sublist (withReports settings one queue))
    (keepsPassed : part.filter (isPassedOf classification) =
      (withReports settings one queue).filter (isPassedOf classification))
    (sameMet : shorter.map met = part.map fun entry => met entry.1) :
    ∃ kept lost, part = kept ++ lost ∧
      List.Forall₂ (SameVerdictOn classification) kept
        (withReports settings other shorter) ∧
      (lost = [] →
        (run settings one (handled settings one queue)).1.lastSent.lookup
            classification =
          (run settings other shorter).1.lastSent.lookup classification) ∧
      ∀ entry rest, lost = entry :: rest →
        IsDebouncedElsewhere classification entry := by
  induction one, queue using run_induction (T := T) settings
      generalizing other part shorter with
  | nil one =>
      obtain rfl := List.sublist_nil.mp isPart
      obtain rfl := List.map_eq_nil_iff.mp sameMet
      exact ⟨[], [], rfl, .nil, fun _ => same, nofun⟩
  | ended one surroundings notification queue reported =>
      rw [withReports_cons_of_ended reported] at isPart
      obtain rfl := List.sublist_nil.mp isPart
      obtain rfl := List.map_eq_nil_iff.mp sameMet
      rw [handled_cons_of_ended reported]
      exact ⟨[], [], rfl, .nil, fun _ => same, nofun⟩
  | goesOn one surroundings notification queue report reported ih =>
      rw [withReports_cons_of_handled reported] at isPart keepsPassed
      rw [handled_cons_of_handled reported, run_cons_of_handled reported]
      rcases List.sublist_cons_iff.mp isPart with
        inRest | ⟨rest, rfl, inRest⟩
      · -- The notification is left out, so it was not let through.
        have notPassed := isPassedOf_eq_false_of_left_out inRest keepsPassed
        have unchanged :=
          lookup_handle_of_not_passed settings reported notPassed
        rw [List.filter_cons_of_neg (by simp [notPassed])] at keepsPassed
        exact ih (unchanged.trans same) inRest keepsPassed sameMet
      · obtain ⟨⟨otherSurroundings, otherNotification⟩, shorter, rfl,
          metFirst, metRest⟩ := List.map_eq_cons_iff.mp sameMet
        obtain ⟨sameMute, rfl⟩ := Prod.mk.inj metFirst
        have keepsRest :=
          filter_eq_of_cons (isPassedOf classification) keepsPassed
        cases reportedToo : (handle settings otherSurroundings other
            otherNotification).2 with
        | none =>
            rw [withReports_cons_of_ended reportedToo]
            refine ⟨[], _, rfl, .nil, nofun, ?_⟩
            rintro _ _ ⟨⟩
            exact isDebouncedElsewhere_of_ended settings same sameMute.symm
              reported reportedToo
        | some otherReport =>
            obtain ⟨sameVerdict, sameAfter⟩ := handle_congr_of_lookup
              settings same sameMute.symm reported reportedToo
            obtain ⟨kept, lost, rfl, sameReports, sameEnd, onlyThen⟩ :=
              ih sameAfter inRest keepsRest metRest
            rw [withReports_cons_of_handled reportedToo,
              run_cons_of_handled reportedToo]
            exact ⟨_ :: kept, lost, rfl,
              .cons ⟨metFirst.symm, sameVerdict⟩ sameReports, sameEnd,
              onlyThen⟩

/-- What a classification's arrivals do not depend on.  Take a queue as far as it
is handled, and a part of it in order that has at least the arrivals of a
classification that were let through; of all else it may have as much or as
little as one likes.  Let the part be handled with the same mute windows,
whatever else surrounds it.  Then every arrival of the classification in it that
is handled is let through or suppressed as in the whole queue, for the same
reason.  If all of them are handled, the same time is remembered of the
classification in the end; and else the first notification that is not handled
is an arrival of another classification, which was debounced in the whole queue
and is dated less than a day before the end of all time. -/
theorem verdicts_survive_omissions (start : State T)
    (isPart : part.Sublist (withReports settings start queue))
    (keepsPassed : part.filter (isPassedOf classification) =
      (withReports settings start queue).filter (isPassedOf classification))
    (sameMet : shorter.map met = part.map fun entry => met entry.1) :
    ∃ kept lost, part = kept ++ lost ∧
      List.Forall₂ (SameVerdictOn classification) kept
        (withReports settings start shorter) ∧
      (lost = [] →
        (run settings start shorter).1.lastSent.lookup classification =
          (run settings start
            (handled settings start queue)).1.lastSent.lookup
              classification) ∧
      ∀ entry rest, lost = entry :: rest →
        IsDebouncedElsewhere classification entry := by
  obtain ⟨kept, lost, isSplit, sameReports, sameEnd, onlyThen⟩ :=
    sameVerdictOn_of_part settings rfl isPart keepsPassed sameMet
  exact ⟨kept, lost, isSplit, sameReports,
    fun noneLost => (sameEnd noneLost).symm, onlyThen⟩

end Parts

/-- A candidate in a queue of which nothing is sent. -/
def queued (candidate : Candidate Instant) :
    Surroundings Instant × Notification Instant :=
  (⟨candidate.window, ⟨0, 0⟩, fun _ => none, false, fun _ => none⟩,
    .arrival candidate.arrival)

/-- The restless day with what is said of its arrivals. -/
def restlessReports :
    List ((Surroundings Instant × Notification Instant) × Report Instant) :=
  withReports ⟨Ntfy.Settings.standard, .standard⟩ .start
    (restlessDay.map queued)

/-- Whether a report is about one of three cars of the restless day, which are
not the muted one and the one that comes out of order. -/
def isOfThreeCars
    (entry : (Surroundings Instant × Notification Instant) × Report Instant) :
    Bool :=
  match entry.1.2 with
  | .arrival arrival => [100, 159, 700].contains arrival.time.second
  | .feedback _ => false

/-- The second of the three cars is debounced, with and without what is left
out. -/
theorem verdicts_survive_omissions_of_threeCars :
    let part := restlessReports.filter isOfThreeCars
    part.Sublist restlessReports ∧
      part.filter (isPassedOf "car") =
        restlessReports.filter (isPassedOf "car") ∧
      List.Forall₂ (SameVerdictOn "car") part
        (withReports ⟨Ntfy.Settings.standard, .standard⟩ .start
          (part.map Prod.fst)) ∧
      part[1]?.bind (·.2.outcome.suppression?) = some .debounced := by
  have isPart : (restlessReports.filter isOfThreeCars).Sublist restlessReports :=
    List.filter_sublist
  have leftOut : ∀ entry ∈ restlessReports,
      isOfThreeCars entry = true ∨ isPassedOf "car" entry = false := by
    decide +kernel
  have keepsPassed : (restlessReports.filter isOfThreeCars).filter
      (isPassedOf "car") = restlessReports.filter (isPassedOf "car") := by
    rw [List.filter_filter]
    refine List.filter_congr fun entry member => ?_
    rcases leftOut entry member with kept | notPassed
    · rw [kept, Bool.and_true]
    · rw [notPassed, Bool.false_and]
  have judged : (restlessReports.filter isOfThreeCars)[1]?.bind
      (·.2.outcome.suppression?) = some .debounced := by
    decide +kernel
  have allCars : ∀ entry ∈ restlessReports.filter isOfThreeCars,
      isOf "car" entry.1.2 = true := by
    decide +kernel
  obtain ⟨kept, lost, isSplit, sameReports, -, onlyThen⟩ :=
    verdicts_survive_omissions ⟨Ntfy.Settings.standard, .standard⟩ .start
      isPart keepsPassed List.map_map
  have noneLost : lost = [] := by
    cases isLost : lost with
    | nil => rfl
    | cons entry rest =>
        obtain ⟨arrival, isArrival, differs, -⟩ := onlyThen entry rest isLost
        have isCar := allCars entry (by simp [isSplit, isLost])
        rw [isArrival] at isCar
        exact absurd (eq_of_beq isCar) differs
  rw [noneLost, List.append_nil] at isSplit
  rw [← isSplit] at sameReports
  exact ⟨isPart, keepsPassed, sameReports, judged⟩

/-- A person comes as late as a photo can be kept, another one a second later,
and then a car. -/
def lastDay : List (Surroundings Instant × Notification Instant) :=
  [arriving none "person" 8210266790399, arriving none "person" 8210266790400,
    arriving none "car" 100].map queued

/-- The second person is debounced, so the car is let through.  Without the first
person the second one ends dispatching, and nothing is said of the car. -/
theorem omission_ends_dispatching :
    let settings : Settings Float := ⟨.standard, .standard⟩
    let reports := withReports settings .start lastDay
    reports.tail.Sublist reports ∧
      reports.tail.filter (isPassedOf "car") =
        reports.filter (isPassedOf "car") ∧
      lastDay.tail.map met = reports.tail.map (fun entry => met entry.1) ∧
      reports.length = 3 ∧
      reports[1]?.bind (·.2.outcome.suppression?) = some .debounced ∧
      ¬ List.Forall₂ (SameVerdictOn "car") reports.tail
        (withReports settings .start lastDay.tail) := by
  intro settings reports
  have all : reports.length = 3 := by
    decide +kernel
  have isDebounced : reports[1]?.bind (·.2.outcome.suppression?) =
      some .debounced := by
    decide +kernel
  have firstIsOther : (reports.head?.any (isPassedOf "car")) = false := by
    decide +kernel
  have allHandled : handled settings .start lastDay = lastDay :=
    List.take_of_length_le (by decide +kernel)
  have met_eq : lastDay.map met = reports.map fun entry => met entry.1 := by
    rw [← allHandled, ← map_fst_withReports, List.map_map]
    rfl
  have noneHandled : (withReports settings .start lastDay.tail).length = 0 := by
    decide +kernel
  refine ⟨List.tail_sublist reports, ?_, ?_, all, isDebounced,
    fun sameReports => ?_⟩
  · cases isList : reports with
    | nil => rfl
    | cons first rest =>
        have isOther : isPassedOf "car" first = false := by
          simpa [isList] using firstIsOther
        rw [List.filter_cons_of_neg (by simp [isOther]), List.tail_cons]
  · rw [List.map_tail, List.map_tail, met_eq]
  · have lengths := sameReports.length_eq
    rw [noneHandled, List.length_tail, all] at lengths
    cases lengths

end Dispatch

end DrivewayWatch
