import DrivewayWatch.Proofs.Time.Elapsed
import DrivewayWatch.Proofs.Tracking.Marking
import DrivewayWatch.Proofs.Tracking.Run

/-!
# Separate objects

Detections on the two sides of a vertical line make tracks of their own.  They
can still meet in one way: a detection on one side removes tracks of the other
side that have waited too long, sooner than the next detection there would do
it.  This makes no difference as long as a track that has waited too long once
has done so ever after, and then each side is announced as if the tracker saw
that side alone.
-/

namespace DrivewayWatch

namespace Tracker

variable {T : Type} [Timeline T]

/-- An age is passed for good if, once that much time has passed since a
detection, it has passed at every later detection too. -/
def PassedForGood (age : Duration) (detections : List (Detection Rat T)) :
    Prop :=
  ∀ first sooner later, [first, sooner, later].Sublist detections →
    Timeline.since later.time first.time < age →
    Timeline.since sooner.time first.time < age

theorem PassedForGood.tail {age : Duration} {detection : Detection Rat T}
    {detections : List (Detection Rat T)}
    (forGood : PassedForGood age (detection :: detections)) :
    PassedForGood age detections :=
  fun first sooner later inTail =>
    forGood first sooner later (inTail.cons detection)

/-- Without leap seconds every age is passed for good. -/
theorem passedForGood_of_not_leap {detections : List (Detection Rat Instant)}
    (age : Duration) (inOrder : InOrder detections)
    (plain : ∀ detection ∈ detections, detection.time.isLeap = false) :
    PassedForGood age detections := by
  intro first sooner later inDetections laterWaits
  have notBefore : ¬ later.time < sooner.time :=
    List.pairwise_iff_forall_sublist.mp inOrder
      ((List.sublist_cons_self _ _).trans inDetections)
  have grows : Instant.since sooner.time first.time ≤
      Instant.since later.time first.time := by
    refine Instant.since_le_since_of_not_leap ?_ ?_ ?_ notBefore <;>
      exact plain _ (inDetections.subset (by simp))
  exact Int.lt_of_le_of_lt grows laterWaits

/-- Detections leave a track behind for good if none after one that it is not
waiting for finds it waiting. -/
def LeavesForGood (settings : TrackerSettings Rat)
    (detections : List (Detection Rat T)) (track : Track Rat T) : Prop :=
  detections.Pairwise fun sooner later =>
    IsWaiting settings later track → IsWaiting settings sooner track

theorem PassedForGood.leavesForGood {settings : TrackerSettings Rat}
    {detection : Detection Rat T} {detections : List (Detection Rat T)}
    (forGood : PassedForGood settings.pruneAge (detection :: detections))
    {track : Track Rat T} (isLast : track.lastTime = detection.time) :
    LeavesForGood settings detections track := by
  refine List.pairwise_iff_forall_sublist.mpr ?_
  intro sooner later inDetections
  unfold IsWaiting
  rw [isLast]
  exact forGood detection sooner later (inDetections.cons_cons detection)

/-- What one detection has removed, the detections after it need not remove
again. -/
theorem prune_prune {settings : TrackerSettings Rat}
    {detection : Detection Rat T} {detections : List (Detection Rat T)}
    {tracks : List (Track Rat T)}
    (leave : ∀ track ∈ tracks,
      LeavesForGood settings (detection :: detections) track)
    {later : Detection Rat T} (isLater : later ∈ detections) :
    prune settings.pruneAge later (prune settings.pruneAge detection tracks) =
      prune settings.pruneAge later tracks := by
  simp only [prune_eq_filter, List.filter_filter]
  refine List.filter_congr fun track member => ?_
  have sooner : IsWaiting settings later track →
      IsWaiting settings detection track :=
    List.rel_of_pairwise_cons (leave track member) isLater
  by_cases waits : IsWaiting settings later track
  · simp [waits, sooner waits]
  · simp [waits]

/-- The announcements that the detections of one side brought. -/
def arrivalsOf (side : Side) (stream : List (Side × Detection Rat T))
    (outcomes : List (Outcome Rat T)) : List (Arrival T) :=
  arrivals (ofSide side ((stream.map (·.1)).zip outcomes))

section ArrivalsOf

variable (stream : List (Side × Detection Rat T))
  (outcomes : List (Outcome Rat T))

omit [Timeline T] in
theorem arrivalsOf_cons_self (side : Side) (detection : Detection Rat T)
    (outcome : Outcome Rat T) :
    arrivalsOf side ((side, detection) :: stream) (outcome :: outcomes) =
      outcome.arrival.toList ++ arrivalsOf side stream outcomes := by
  simp only [arrivalsOf, List.map_cons, List.zip_cons_cons,
    ofSide_cons_self, arrivals_cons]

omit [Timeline T] in
theorem arrivalsOf_cons_of_ne {side other : Side} (differ : other ≠ side)
    (detection : Detection Rat T) (outcome : Outcome Rat T) :
    arrivalsOf side ((other, detection) :: stream) (outcome :: outcomes) =
      arrivalsOf side stream outcomes := by
  simp only [arrivalsOf, List.map_cons, List.zip_cons_cons,
    ofSide_cons_of_ne _ differ]

end ArrivalsOf

/-- A run over marked tracks brings the announcements for one side that a run
over the tracks of that side brings, as long as both keep the same of them. -/
theorem arrivalsOf_run {settings : TrackerSettings Rat}
    (criteria : Criteria Rat T) (encode : Frame → Option Bytes)
    (threshold : 0 ≤ settings.minOverlap) {line : Rat} (side : Side)
    {stream : List (Side × Detection Rat T)}
    (labelled : ∀ entry ∈ stream, entry.1.Holds line entry.2.box)
    (forGood : PassedForGood settings.pruneAge (stream.map (·.2)))
    {marked : List (Side × Track Rat T)}
    (stay : ∀ entry ∈ marked, entry.2.StaysOn line entry.1)
    (leave : ∀ entry ∈ marked,
      LeavesForGood settings (stream.map (·.2)) entry.2)
    {tracks : List (Track Rat T)}
    (sameKept : ∀ entry ∈ stream,
      prune settings.pruneAge entry.2 (ofSide side marked) =
        prune settings.pruneAge entry.2 tracks) :
    arrivalsOf side stream
        (run settings criteria encode (marked.map (·.2))
          (stream.map (·.2))) =
      arrivals (run settings criteria encode tracks (ofSide side stream)) := by
  -- The two runs hold the same tracks of the side up to those that have waited
  -- too long for every detection to come, which is what `sameKept` says.
  induction stream generalizing marked tracks with
  | nil => rfl
  | cons entry stream ih =>
      obtain ⟨here, detection⟩ := entry
      obtain ⟨holds, restLabelled⟩ := List.forall_mem_cons.mp labelled
      obtain ⟨keptNow, keptLater⟩ := List.forall_mem_cons.mp sameKept
      dsimp only at holds keptNow
      obtain ⟨next, goesOn⟩ :=
        exists_goesOn criteria encode threshold stay holds
      have nextStay : ∀ entry ∈ next, entry.2.StaysOn line entry.1 := by
        intro entry member
        rcases goesOn.arises entry member with old | ⟨stays, -⟩
        · exact stay entry old
        · exact stays
      have nextLeave : ∀ entry ∈ next,
          LeavesForGood settings (stream.map (·.2)) entry.2 := by
        intro entry member
        rcases goesOn.arises entry member with old | ⟨-, isLast⟩
        · exact (leave entry old).tail
        · exact forGood.leavesForGood isLast
      have nextArrivals {tracks : List (Track Rat T)} :=
        @ih restLabelled forGood.tail next nextStay nextLeave tracks
      simp only [List.map_cons, run, goesOn.tracks]
      by_cases isHere : here = side
      · -- Both runs take a step, from tracks of the side that are the same.
        subst isHere
        have sameStep := step_congr_prune settings criteria encode keptNow
        have sameTracks :
            (step settings criteria encode tracks detection).tracks =
              ofSide here next := sameStep ▸ goesOn.sameSide
        rw [arrivalsOf_cons_self, ofSide_cons_self, run, arrivals_cons,
          goesOn.arrival, sameStep, sameTracks,
          nextArrivals fun _ _ => rfl]
      · -- Only the marked run takes a step, and it removes nothing of the side
        -- that the next detection there would find waiting.
        have differ : side ≠ here := fun same => isHere same.symm
        rw [arrivalsOf_cons_of_ne _ _ isHere, ofSide_cons_of_ne _ isHere]
        refine nextArrivals fun entry member => ?_
        rw [goesOn.otherSide side differ, ← keptLater entry member]
        refine prune_prune ?_ (List.mem_map_of_mem member)
        intro track inSide
        obtain ⟨entry, inMarked, rfl⟩ :=
          List.mem_map.mp (ofSide_subset _ _ inSide)
        exact leave entry inMarked

/-- Objects on two sides of a vertical line do not interfere.  If the prune age
is passed for good, the detections of each side bring the announcements that
they would bring without the other side.  So every other stream that
interleaves the two sides brings them too. -/
theorem sides_do_not_interfere {settings : TrackerSettings Rat}
    (criteria : Criteria Rat T) (encode : Frame → Option Bytes)
    (threshold : 0 ≤ settings.minOverlap) {line : Rat}
    {stream : List (Side × Detection Rat T)}
    (labelled : ∀ entry ∈ stream, entry.1.Holds line entry.2.box)
    (forGood : PassedForGood settings.pruneAge (stream.map (·.2))) :
    (∀ side,
      arrivalsOf side stream
          (run settings criteria encode [] (stream.map (·.2))) =
        arrivals (run settings criteria encode [] (ofSide side stream))) ∧
    (∀ other : List (Side × Detection Rat T),
      (∀ side, ofSide side other = ofSide side stream) →
      PassedForGood settings.pruneAge (other.map (·.2)) →
      ∀ side,
        arrivalsOf side other
            (run settings criteria encode [] (other.map (·.2))) =
          arrivalsOf side stream
            (run settings criteria encode [] (stream.map (·.2)))) := by
  have alone {stream : List (Side × Detection Rat T)}
      (labelled : ∀ entry ∈ stream, entry.1.Holds line entry.2.box)
      (forGood : PassedForGood settings.pruneAge (stream.map (·.2)))
      (side : Side) :
      arrivalsOf side stream
          (run settings criteria encode [] (stream.map (·.2))) =
        arrivals (run settings criteria encode [] (ofSide side stream)) :=
    arrivalsOf_run criteria encode threshold side labelled forGood
      (List.forall_mem_nil _) (List.forall_mem_nil _) fun _ _ => rfl
  refine ⟨alone labelled forGood, ?_⟩
  intro other sameSides otherForGood side
  have otherLabelled : ∀ entry ∈ other, entry.1.Holds line entry.2.box := by
    rintro ⟨side, detection⟩ member
    refine labelled (side, detection) ?_
    rwa [← mem_ofSide, ← sameSides, mem_ofSide]
  rw [alone otherLabelled otherForGood, alone labelled forGood, sameSides]

/-- A detection of a car on one side of the middle. -/
def carOn (side : Side) (id : String) (time : Instant) (isConfirmed : Bool) :
    Side × Detection Rat Instant :=
  let box : Box Rat := match side with
    | .left => ⟨⟨1 / 10, 1 / 5⟩, ⟨2 / 5, 3 / 5⟩⟩
    | .right => ⟨⟨3 / 5, 1 / 5⟩, ⟨9 / 10, 3 / 5⟩⟩
  (side, ⟨id, time, 1, "car", isConfirmed, box, ⟨4, 4, []⟩⟩)

def waitingASecond : TrackerSettings Rat :=
  { pruneSeconds := 1, minOverlap := 1 / 5 }

def lastingAMoment : Criteria Rat Instant :=
  ⟨⟨none, none, 3 / 10, [], none⟩, none⟩

/-- Two cars side by side, within half a second. -/
def besideEachOther : List (Side × Detection Rat Instant) :=
  [carOn .left "e0" ⟨0, 0⟩ false, carOn .right "e1" ⟨0, 400000000⟩ true,
    carOn .left "e2" ⟨0, 500000000⟩ true]

theorem sides_do_not_interfere_beside :
    0 ≤ waitingASecond.minOverlap ∧
      (∀ entry ∈ besideEachOther, entry.1.Holds (1 / 2) entry.2.box) ∧
      PassedForGood waitingASecond.pruneAge (besideEachOther.map (·.2)) ∧
      ∀ side,
        arrivalsOf side besideEachOther
            (run waitingASecond lastingAMoment (fun _ => none) []
              (besideEachOther.map (·.2))) =
          arrivals (run waitingASecond lastingAMoment (fun _ => none) []
            (ofSide side besideEachOther)) := by
  have threshold : 0 ≤ waitingASecond.minOverlap := by decide +kernel
  have labelled : ∀ entry ∈ besideEachOther,
      entry.1.Holds (1 / 2) entry.2.box := by
    decide +kernel
  have inOrder : InOrder (besideEachOther.map (·.2)) := by
    simp [InOrder, besideEachOther, carOn, Instant.lt_iff]
  have forGood : PassedForGood waitingASecond.pruneAge
      (besideEachOther.map (·.2)) :=
    passedForGood_of_not_leap _ inOrder (by decide +kernel)
  exact ⟨threshold, labelled, forGood,
    (sides_do_not_interfere lastingAMoment (fun _ => none) threshold labelled
      forGood).1⟩

/-- Two cars around a leap second at the end of a day. -/
def besideAtMidnight : List (Side × Detection Rat Instant) :=
  [carOn .left "e0" ⟨1483228799, 500000000⟩ false,
    carOn .right "e1" ⟨1483228799, 1900000000⟩ false,
    carOn .left "e2" ⟨1483228800, 0⟩ true]

/-- The sides can interfere around a leap second.  The right car comes more
than a second after the left one and removes its track, but the left car comes
back when, by the difference of the times, only half a second has passed. -/
theorem sides_interfere_at_midnight :
    InOrder (besideAtMidnight.map (·.2)) ∧
      (∀ entry ∈ besideAtMidnight, entry.2.time.IsProper) ∧
      0 ≤ waitingASecond.minOverlap ∧
      (∀ entry ∈ besideAtMidnight, entry.1.Holds (1 / 2) entry.2.box) ∧
      arrivalsOf .left besideAtMidnight
          (run waitingASecond lastingAMoment (fun _ => none) []
            (besideAtMidnight.map (·.2))) ≠
        arrivals (run waitingASecond lastingAMoment (fun _ => none) []
          (ofSide .left besideAtMidnight)) := by
  refine ⟨?_, ?_, ?_, ?_, ?_⟩
  · simp [InOrder, besideAtMidnight, carOn, Instant.lt_iff]
  · simp only [besideAtMidnight, List.forall_mem_cons]
    exact ⟨⟨by decide, by decide⟩, ⟨by decide, by decide⟩,
      ⟨by decide, by decide⟩, by simp⟩
  · decide +kernel
  · decide +kernel
  · decide +kernel

end Tracker

end DrivewayWatch
