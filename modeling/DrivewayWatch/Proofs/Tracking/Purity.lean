import DrivewayWatch.Proofs.Geometry.Overlap
import DrivewayWatch.Proofs.Tracking.Majority
import DrivewayWatch.Proofs.Tracking.Matching
import DrivewayWatch.Proofs.Tracking.Partition

/-!
# Tracks of one classification

A detection of another classification than the track has to overlap half as
much again.  No overlap exceeds one, so from a minimum of two thirds on such a
detection never joins, and every track keeps to the classification that it
began with.  With a minimum of one no detection joins any track.
-/

namespace DrivewayWatch

/-- A track is pure if its detections have the classification of the first. -/
def Track.IsPure {K T : Type} (track : Track K T) : Prop :=
  ∀ detection ∈ track.detections,
    detection.classification = track.first.classification

theorem Track.IsPure.classification_eq {K T : Type} {track : Track K T}
    (isPure : track.IsPure) :
    track.classification = track.first.classification := by
  obtain ⟨detection, member, same⟩ := track.exists_classification_eq
  rw [← same]
  exact isPure detection member

namespace Tracker

variable {T : Type} {settings : TrackerSettings Rat}

theorem classification_eq_of_connects (high : 2 / 3 ≤ settings.minOverlap)
    {track : Track Rat T} {detection : Detection Rat T}
    (connects : Connects settings track detection) :
    track.classification = detection.classification := by
  by_contra differ
  rw [Connects, neededOverlap_rational, if_neg differ] at connects
  have bound : overlapWith track detection ≤ 1 :=
    Box.overlap_le_one track.recentBox detection.box
  linarith

theorem not_connects_of_one_le (highest : 1 ≤ settings.minOverlap)
    (track : Track Rat T) (detection : Detection Rat T) :
    ¬ Connects settings track detection := by
  intro connects
  have same := classification_eq_of_connects (by linarith) connects
  rw [Connects, neededOverlap_rational, if_pos same] at connects
  have bound : overlapWith track detection ≤ 1 :=
    Box.overlap_le_one track.recentBox detection.box
  linarith

theorem isPure_settle {track : Track Rat T} [Timeline T]
    (isPure : track.IsPure) (criteria : Criteria Rat T) :
    (settle criteria track).IsPure := by
  simpa only [Track.IsPure, detections_settle, first_settle] using isPure

theorem isPure_append {track : Track Rat T} (isPure : track.IsPure)
    {detection : Detection Rat T}
    (same : track.classification = detection.classification) :
    (track.append detection).IsPure := by
  refine Track.forall_mem_detections_append isPure ?_
  rw [← same, isPure.classification_eq]

variable [Timeline T] (criteria : Criteria Rat T)

theorem Chronicle.isPure_of_mem_trails (high : 2 / 3 ≤ settings.minOverlap)
    (detections : List (Detection Rat T)) :
    ∀ trail ∈ (ofStream settings criteria detections).trails,
      trail.track.IsPure := by
  refine @forall_trails Rat T _ _ settings criteria (fun _ => none)
    (fun _ trail => trail.track.IsPure) ?_ ?_ ?_ detections
  · intro _ _ _ isPure
    exact isPure
  · intro _ detection _ _
    rw [Trail.track_start]
    exact isPure_settle (Track.forall_mem_detections_start rfl) criteria
  · intro _ detection trail _ isPure _ connects _
    rw [Trail.track_join]
    exact isPure_settle
      (isPure_append isPure (classification_eq_of_connects high connects))
      criteria

theorem Chronicle.joined_eq_nil_of_mem_trails
    (highest : 1 ≤ settings.minOverlap)
    (detections : List (Detection Rat T)) :
    ∀ trail ∈ (ofStream settings criteria detections).trails,
      trail.joined = [] := by
  refine @forall_trails Rat T _ _ settings criteria (fun _ => none)
    (fun _ trail => trail.joined = []) ?_ ?_ ?_ detections
  · intro _ _ _ alone
    exact alone
  · intro _ _ _ _
    rfl
  · intro _ detection trail _ _ _ connects _
    exact absurd connects (not_connects_of_one_le highest _ _)

/-- Where the minimum overlap is two thirds or more, all detections of a live
track have one classification, and so have those of the tracks that were
removed.  Where it is one, every detection begins its own track: the tracks ever
created were begun by the detections of the stream, one by each, and have no
other detections. -/
theorem tracks_are_pure_of_high_overlap (encode : Frame → Option Bytes)
    (high : 2 / 3 ≤ settings.minOverlap)
    (detections : List (Detection Rat T)) :
    (∀ track ∈ tracksAfter settings criteria encode [] detections,
      ∀ first ∈ track.detections, ∀ second ∈ track.detections,
        first.classification = second.classification) ∧
    (∀ trail ∈ (Chronicle.ofStream settings criteria detections).trails,
      ∀ first ∈ trail.track.detections, ∀ second ∈ trail.track.detections,
        first.classification = second.classification) ∧
    (settings.minOverlap = 1 →
      ((Chronicle.ofStream settings criteria detections).trails.map
        (·.created)).Perm (List.range detections.length) ∧
      (∀ trail ∈ (Chronicle.ofStream settings criteria detections).trails,
        ∃ detection, detections[trail.created]? = some detection ∧
          trail.track.detections = [detection]) ∧
      ∀ (tracks : List (Track Rat T)) (detection : Detection Rat T),
        ∃ track, track.detections = [detection] ∧
          (step settings criteria encode tracks detection).tracks =
            prune settings.pruneAge detection tracks ++ [track]) := by
  have isPure := Chronicle.isPure_of_mem_trails criteria high detections
  have same : ∀ trail ∈
      (Chronicle.ofStream settings criteria detections).trails,
      ∀ first ∈ trail.track.detections, ∀ second ∈ trail.track.detections,
        first.classification = second.classification := by
    intro trail member first inFirst second inSecond
    rw [isPure trail member first inFirst, isPure trail member second inSecond]
  refine ⟨?_, same, ?_⟩
  · intro track member
    rw [← Chronicle.live_ofStream settings criteria encode] at member
    obtain ⟨trail, live, rfl⟩ := List.mem_map.mp member
    exact same trail (List.mem_append_right _ live)
  · intro isOne
    have alone := Chronicle.joined_eq_nil_of_mem_trails criteria isOne.ge
      detections
    refine ⟨?_, ?_, ?_⟩
    · have places :=
        Chronicle.places_perm_range settings criteria detections
      rwa [List.flatMap_congr fun trail member => by
          rw [Trail.places, alone trail member], ← List.map_eq_flatMap]
        at places
    · intro trail member
      have collected := (Chronicle.isSound_of_mem_trails settings criteria
        detections trail member).collected
      rw [Trail.places, alone trail member] at collected
      obtain ⟨detection, only, found⟩ :=
        List.map_eq_singleton_iff.mp collected
      exact ⟨detection, found.symm, only⟩
    · intro tracks detection
      rcases step_cases settings criteria encode tracks detection with
        ⟨_, track, _, -, -, connects, -, -⟩ | ⟨-, -, begun, -⟩
      · exact absurd connects (not_connects_of_one_le isOne.ge _ _)
      · exact ⟨settle criteria (Track.start detection),
          detections_settle criteria _, begun⟩

/-- Something that is seen in one spot in the first second. -/
def spotted (id classification : String) (nanosecond : Nat) :
    Detection Rat Instant :=
  ⟨id, ⟨0, nanosecond⟩, 1, classification, true,
    Box.ofCorners (1 / 4) (1 / 4) (1 / 2) (1 / 2), ⟨4, 4, []⟩⟩

/-- A car is seen twice, and a truck in the same spot in between. -/
def sharedSpot : List (Detection Rat Instant) :=
  [spotted "e0" "car" 0, spotted "e1" "truck" 100000000,
    spotted "e2" "car" 200000000]

/-- With a minimum of exactly two thirds the truck gets its own track although
its box is the same, and the car goes on with the first one. -/
theorem tracks_are_pure_of_high_overlap_in_sharedSpot :
    let settings : TrackerSettings Rat := ⟨1, 2 / 3⟩
    let criteria : Criteria Rat Instant := ⟨⟨none, none, 1, [], none⟩, none⟩
    let tracks := tracksAfter settings criteria (fun _ => none) [] sharedSpot
    2 / 3 ≤ settings.minOverlap ∧
      tracks.map (·.detections.map (·.classification)) =
        [["car", "car"], ["truck"]] ∧
      ∀ track ∈ tracks,
        ∀ first ∈ track.detections, ∀ second ∈ track.detections,
          first.classification = second.classification := by
  intro settings criteria tracks
  have high : 2 / 3 ≤ settings.minOverlap := le_rfl
  have isPure := tracks_are_pure_of_high_overlap criteria (fun _ => none) high
    sharedSpot
  exact ⟨high, by decide +kernel, isPure.1⟩

end Tracker

end DrivewayWatch
