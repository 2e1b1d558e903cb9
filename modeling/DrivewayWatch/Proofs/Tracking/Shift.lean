import DrivewayWatch.Proofs.Time.Moment
import DrivewayWatch.Proofs.Tracking.Correspondence

/-!
# Shifted times

Without a rule, the tracker asks of times only how far they lie apart.  So a
change of times that keeps the time between any two detections changes nothing
but the times themselves; and to move all detections by one duration is such a
change.
-/

namespace DrivewayWatch

section Retimed

variable {K T : Type} (change : T → T)

def Detection.retimed (detection : Detection K T) : Detection K T :=
  { detection with time := change detection.time }

def Track.retimed (track : Track K T) : Track K T :=
  { track with
    first := track.first.retimed change
    rest := track.rest.map (·.retimed change) }

def Arrival.retimed (arrival : Arrival T) : Arrival T :=
  { arrival with time := change arrival.time }

def Tracker.Outcome.retimed (outcome : Outcome K T) : Outcome K T :=
  { outcome with
    tracks := outcome.tracks.map (·.retimed change)
    arrival := outcome.arrival.map (·.retimed change) }

namespace Track

variable (track : Track K T)

@[simp]
theorem outline_retimed : (track.retimed change).outline = track.outline := by
  simp [outline, detections, retimed, Detection.retimed]

@[simp]
theorem classification_retimed :
    (track.retimed change).classification = track.classification :=
  classification_congr (track.outline_retimed change)

@[simp]
theorem lastTime_retimed :
    (track.retimed change).lastTime = change track.lastTime := by
  simp only [lastTime, last, retimed, List.getLast?_map]
  cases track.rest.getLast? <;> rfl

theorem retimed_append [Scalar K] (detection : Detection K T) :
    (track.append detection).retimed change =
      (track.retimed change).append (detection.retimed change) := by
  simp only [append, retimed, List.map_append, List.map_singleton]
  rfl

end Track

end Retimed

/-- A change of times keeps elapsed time between certain times if any two of
them lie as far apart after it as before. -/
def KeepsElapsed {T : Type} [Timeline T] (change : T → T) (times : T → Prop) :
    Prop :=
  ∀ later earlier, times later → times earlier →
    Timeline.since (change later) (change earlier) =
      Timeline.since later earlier

namespace Tracker

variable {K T : Type} [Scalar K] [Timeline T] {change : T → T}
  {times : T → Prop} (limits : CriteriaSettings K)

section Retimed

variable (keeps : KeepsElapsed change times) {track : Track K T}
  (within : ∀ detection ∈ track.detections, times detection.time)

include keeps within

omit [Scalar K] in
theorem length_retimed : (track.retimed change).length = track.length := by
  rw [Track.length, Track.lastTime_retimed]
  exact keeps _ _ (within _ track.last_mem_detections)
    (within _ List.mem_cons_self)

theorem isDue_retimed :
    isDue ⟨limits, none⟩ (track.retimed change) =
      isDue ⟨limits, none⟩ track := by
  simp only [isDue, Criteria.decide, Track.classification_retimed,
    length_retimed keeps within]
  rfl

theorem settle_retimed :
    settle ⟨limits, none⟩ (track.retimed change) =
      (settle ⟨limits, none⟩ track).retimed change := by
  rw [settle, settle, isDue_retimed limits keeps within]
  split <;> rfl

theorem announcement?_retimed (encode : Frame → Option Bytes) :
    announcement? ⟨limits, none⟩ encode (track.retimed change) =
      (announcement? ⟨limits, none⟩ encode track).map (·.retimed change) := by
  rw [announcement?, announcement?, isDue_retimed limits keeps within]
  split
  · simp only [announce, Track.classification_retimed]
    rfl
  · rfl

end Retimed

/-- A change of times that keeps elapsed time makes runs that correspond: the
detections and tracks of one are those of the other at the changed times. -/
def Correspondence.retiming (keeps : KeepsElapsed change times) :
    Correspondence (⟨limits, none⟩ : Criteria K T) ⟨limits, none⟩ where
  detections detection other :=
    times detection.time ∧ other = detection.retimed change
  tracks track other :=
    (∀ detection ∈ track.detections, times detection.time) ∧
      other = track.retimed change
  sameLook := by
    rintro detection _ ⟨-, rfl⟩
    exact ⟨rfl, rfl⟩
  sameOutline := by
    rintro track _ ⟨-, rfl⟩
    exact (track.outline_retimed change).symm
  sameAge := by
    rintro detection _ track _ ⟨inTimes, rfl⟩ ⟨within, rfl⟩
    rw [Track.lastTime_retimed]
    exact (keeps _ _ inTimes (within _ track.last_mem_detections)).symm
  start := by
    rintro detection _ ⟨inTimes, rfl⟩
    exact ⟨Track.forall_mem_detections_start inTimes, rfl⟩
  append := by
    rintro detection _ track _ ⟨inTimes, rfl⟩ ⟨within, rfl⟩
    exact ⟨Track.forall_mem_detections_append within inTimes,
      (track.retimed_append change _).symm⟩
  settle := by
    rintro track _ ⟨within, rfl⟩
    refine ⟨?_, settle_retimed limits keeps within⟩
    rwa [detections_settle]

variable (settings : TrackerSettings K) (encode : Frame → Option Bytes)

theorem eq_retimed_of_outcomes {keeps : KeepsElapsed change times}
    {outcome other : Outcome K T}
    (linked : (Correspondence.retiming limits keeps).Outcomes encode outcome
      other) : other = outcome.retimed change := by
  have sameTracks : other.tracks = outcome.tracks.map (·.retimed change) :=
    eq_map_of_forall₂ linked.tracks fun _ _ same => same.2
  obtain ⟨track, _, ⟨within, rfl⟩, arrivalEq, otherArrivalEq⟩ :=
    linked.arrival
  have sameArrival :
      other.arrival = outcome.arrival.map (·.retimed change) := by
    rw [otherArrivalEq, announcement?_retimed limits keeps within, arrivalEq]
  have sameCounts : other.counts = outcome.counts := by
    obtain ⟨created, countsEq, otherCountsEq⟩ := linked.counts
    rw [otherCountsEq, countsEq, sameArrival]
    cases outcome.arrival <;> rfl
  rw [Outcome.retimed, ← sameTracks, ← sameArrival, ← sameCounts]

theorem run_retimed (keeps : KeepsElapsed change times)
    {detections : List (Detection K T)}
    (within : ∀ detection ∈ detections, times detection.time) :
    run settings ⟨limits, none⟩ encode []
        (detections.map (·.retimed change)) =
      (run settings ⟨limits, none⟩ encode [] detections).map
        (·.retimed change) := by
  have linked : List.Forall₂
      (Correspondence.retiming limits keeps).detections detections
      (detections.map (·.retimed change)) := by
    rw [List.forall₂_map_right_iff, List.forall₂_same]
    exact fun detection member => ⟨within detection member, rfl⟩
  have outcomes := (Correspondence.retiming limits keeps).outcomes_run
    settings encode linked .nil
  exact eq_map_of_forall₂ outcomes fun _ _ =>
    eq_retimed_of_outcomes limits encode

/-- Times matter only by their differences.  With criteria that have no rule,
to shift all detections by a duration is to shift what comes of them: the live
tracks after each detection, and the announcements, which come at the same
places.  This holds of plain moments, and of instants away from leap seconds. -/
theorem run_shifts_with_detections :
    (∀ (shift : Duration) (detections : List (Detection K Moment)),
      run settings ⟨limits, none⟩ encode []
          (detections.map (·.retimed (Timeline.later · shift))) =
        (run settings ⟨limits, none⟩ encode [] detections).map
          (·.retimed (Timeline.later · shift))) ∧
    (∀ (shift : Duration) (detections : List (Detection K Instant)),
      (∀ detection ∈ detections, detection.time.isLeap = false) →
      run settings ⟨limits, none⟩ encode []
          (detections.map (·.retimed (Timeline.later · shift))) =
        (run settings ⟨limits, none⟩ encode [] detections).map
          (·.retimed (Timeline.later · shift))) := by
  constructor
  · intro shift detections
    have keeps : KeepsElapsed (Timeline.later · shift)
        (fun _ : Moment => True) :=
      fun later earlier _ _ => Moment.since_later_later later earlier shift
    exact run_retimed limits settings encode keeps fun _ _ => trivial
  · intro shift detections plain
    have keeps : KeepsElapsed (Timeline.later · shift)
        (fun instant : Instant => instant.isLeap = false) :=
      fun later earlier laterPlain earlierPlain =>
        Instant.since_later_later_of_not_leap laterPlain earlierPlain shift
    exact run_retimed limits settings encode keeps plain

/-- Three sights of a car, all of them an hour later. -/
theorem run_shifts_with_threeSights :
    (∀ detection ∈ threeSights, detection.time.isLeap = false) ∧
    run TrackerSettings.standard ⟨CriteriaSettings.standard, none⟩
        (fun _ => none) []
        (threeSights.map (·.retimed (Timeline.later · (.seconds 3600)))) =
      (run TrackerSettings.standard ⟨CriteriaSettings.standard, none⟩
        (fun _ => none) [] threeSights).map
          (·.retimed (Timeline.later · (.seconds 3600))) := by
  have plain : ∀ detection ∈ threeSights,
      detection.time.isLeap = false := by
    decide +kernel
  exact ⟨plain, (run_shifts_with_detections CriteriaSettings.standard
    TrackerSettings.standard (fun _ => none)).2 _ _ plain⟩

end Tracker

end DrivewayWatch
