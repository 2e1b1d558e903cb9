import DrivewayWatch.Proofs.Number.Rational
import DrivewayWatch.Proofs.Tracking.Chronicle
import DrivewayWatch.Proofs.Tracking.FirstGreatest

/-!
# What tracks keep on record

A track keeps a few facts about its detections, and brings them up to date with
each of them instead of looking at all of them again.  The record stays true:
beginning a track, taking one more detection and being announced all keep it so,
and with that every track of a run has a true record.
-/

namespace DrivewayWatch

namespace Track

variable {T : Type}

/-- What a track has on record is what its detections say. -/
structure HasTrueRecord (track : Track Rat T) : Prop where
  named : track.detections.head?.map (·.id) = some track.id
  confirmed : track.isConfirmed = true ↔
    ∃ detection ∈ track.detections, detection.isConfirmed = true
  pictured : ∃ best,
    IsFirstGreatest (·.box.area) track.detections best ∧
      track.bestFrame = best.frame ∧ track.bestCoverage = best.box.area
  announced : track.isNotified = true → track.isConfirmed = true

theorem hasTrueRecord_start (detection : Detection Rat T) :
    (start detection).HasTrueRecord where
  named := rfl
  confirmed := by simp [start, detections]
  pictured := ⟨detection, isFirstGreatest_singleton _ detection, rfl, rfl⟩
  announced := by simp [start]

namespace HasTrueRecord

variable {track : Track Rat T}

theorem append (isTrue : track.HasTrueRecord) (detection : Detection Rat T) :
    (track.append detection).HasTrueRecord where
  named := isTrue.named
  confirmed := by
    rw [detections_append]
    simp only [Track.append, Bool.or_eq_true, isTrue.confirmed,
      List.mem_append, List.mem_singleton, or_and_right, exists_or,
      exists_eq_left]
  pictured := by
    obtain ⟨best, greatest, frame, coverage⟩ := isTrue.pictured
    rw [detections_append]
    by_cases covers : track.bestCoverage < detection.box.area
    · have greater : best.box.area < detection.box.area := by
        rwa [← coverage]
      refine ⟨detection, greatest.concat_of_lt greater, ?_, ?_⟩
      · simp [Track.append, covers]
      · simp [Track.append, covers]
    · have notGreater : ¬ best.box.area < detection.box.area := by
        rwa [← coverage]
      refine ⟨best, greatest.concat_of_not_lt notGreater, ?_, ?_⟩
      · simpa [Track.append, covers] using frame
      · simp only [Track.append, covers, decide_false, Bool.false_eq_true,
          if_false]
        exact coverage
  announced := by
    intro isNotified
    have isConfirmed : track.isConfirmed = true := isTrue.announced isNotified
    simp [Track.append, isConfirmed]

/-- Only confirmed tracks are announced. -/
theorem settle [Timeline T] (isTrue : track.HasTrueRecord)
    (criteria : Criteria Rat T) :
    (Tracker.settle criteria track).HasTrueRecord := by
  unfold Tracker.settle
  split
  · next due =>
      rw [Tracker.isDue, Bool.and_eq_true, Bool.and_eq_true] at due
      exact ⟨isTrue.named, isTrue.confirmed, isTrue.pictured,
        fun _ => due.1.1⟩
  · exact isTrue

end HasTrueRecord

end Track

namespace Tracker

variable {T : Type} [Timeline T] (settings : TrackerSettings Rat)
  (criteria : Criteria Rat T)

theorem Chronicle.hasTrueRecord_of_mem_trails
    (detections : List (Detection Rat T)) :
    ∀ trail ∈ (ofStream settings criteria detections).trails,
      trail.track.HasTrueRecord := by
  refine @forall_trails Rat T _ _ settings criteria (fun _ => none)
    (fun _ trail => trail.track.HasTrueRecord) ?_ ?_ ?_ detections
  · intro _ _ _ isTrue
    exact isTrue
  · intro _ detection _ _
    rw [Trail.track_start]
    exact (Track.hasTrueRecord_start detection).settle criteria
  · intro _ detection trail _ isTrue _ _ _
    rw [Trail.track_join]
    exact (isTrue.append detection).settle criteria

/-- Whatever a new tracker has taken, every live track has the id of its first
detection, is confirmed exactly if one of its detections is, shows the frame of
the first detection whose box is largest and keeps the area of that box, and is
announced only if it is confirmed.  Boxes out of order have areas too, which may
be negative. -/
theorem live_tracks_have_true_records (encode : Frame → Option Bytes)
    (detections : List (Detection Rat T)) :
    ∀ track ∈ tracksAfter settings criteria encode [] detections,
      track.detections.head?.map (·.id) = some track.id ∧
      (track.isConfirmed = true ↔
        ∃ detection ∈ track.detections, detection.isConfirmed = true) ∧
      (∃ before best after,
        track.detections = before ++ best :: after ∧
        (∀ other ∈ before, other.box.area < best.box.area) ∧
        (∀ other ∈ after, other.box.area ≤ best.box.area) ∧
        track.bestFrame = best.frame ∧
        track.bestCoverage = best.box.area) ∧
      (track.isNotified = true → track.isConfirmed = true) := by
  intro track member
  rw [← Chronicle.live_ofStream settings criteria encode] at member
  obtain ⟨trail, live, rfl⟩ := List.mem_map.mp member
  have isTrue := Chronicle.hasTrueRecord_of_mem_trails settings criteria
    detections trail (List.mem_append_right _ live)
  obtain ⟨best, ⟨before, after, split, less, notMore⟩, frame, coverage⟩ :=
    isTrue.pictured
  exact ⟨isTrue.named, isTrue.confirmed,
    ⟨before, best, after, split, less, notMore, frame, coverage⟩,
    isTrue.announced⟩

/-- A car that covers more and more of the frame, from the upper left. -/
def nearing (id : String) (nanosecond : Nat) (size : Rat) (isConfirmed : Bool)
    (side : Nat) : Detection Rat Instant :=
  ⟨id, ⟨0, nanosecond⟩, 1, "car", isConfirmed, Box.ofCorners 0 0 size size,
    ⟨side, side, []⟩⟩

/-- The car comes near, and stays there for one more sight. -/
def nearingCar : List (Detection Rat Instant) :=
  [nearing "e0" 0 (1 / 4) false 4, nearing "e1" 100000000 (1 / 2) true 5,
    nearing "e2" 200000000 (1 / 2) false 6]

/-- The car is announced on its second sight, and of the two largest boxes the
earlier one gives the frame. -/
theorem live_tracks_have_true_records_of_nearingCar :
    let settings : TrackerSettings Rat := ⟨1, 1 / 5⟩
    let criteria : Criteria Rat Instant := ⟨⟨none, none, 0, [], none⟩, none⟩
    ∃ track ∈ tracksAfter settings criteria (fun _ => none) [] nearingCar,
      track.detections = nearingCar ∧ track.bestFrame = ⟨5, 5, []⟩ ∧
        track.bestCoverage = 1 / 4 ∧ track.isNotified = true ∧
        track.isConfirmed = true := by
  intro settings criteria
  have isLive : ∃ track ∈
      tracksAfter settings criteria (fun _ => none) [] nearingCar,
      track.detections = nearingCar ∧ track.bestFrame = ⟨5, 5, []⟩ ∧
        track.bestCoverage = 1 / 4 ∧ track.isNotified = true := by
    decide +kernel
  obtain ⟨track, member, detections, frame, coverage, isNotified⟩ := isLive
  obtain ⟨-, -, -, isConfirmed⟩ := live_tracks_have_true_records settings
    criteria (fun _ => none) nearingCar track member
  exact ⟨track, member, detections, frame, coverage, isNotified,
    isConfirmed isNotified⟩

end Tracker

end DrivewayWatch
