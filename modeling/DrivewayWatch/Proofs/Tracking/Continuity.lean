import DrivewayWatch.Proofs.Time.Elapsed
import DrivewayWatch.Proofs.Tracking.Partition

/-!
# Tracks are chains

Each detection of a track after the first one came before the track had waited
too long, and overlapped the recent boxes that the track had then.  A detection
begins a track only if it could not continue one.  Detections that arrive in
the order of their times make tracks that are in this order too; only a leap
second can give such a track a negative length.
-/

namespace DrivewayWatch

namespace Track

variable {K T : Type} [Scalar K]

theorem last_upTo {track : Track K T} {n : Nat} {detection : Detection K T}
    (found : track.detections[n]? = some detection) :
    (track.upTo n).last = detection := by
  have lastOfStage := (track.upTo n).getLast?_detections
  rw [detections_upTo, List.getLast?_take] at lastOfStage
  simp only [Nat.add_one_ne_zero, if_false, Nat.add_sub_cancel, found,
    Option.some_or, Option.some.injEq] at lastOfStage
  exact lastOfStage.symm

end Track

namespace Tracker

variable {K T : Type} [Scalar K] [Timeline T]

/-- A trail is chained if each detection after the first one could join the
track as it then was. -/
structure Trail.IsChained (settings : TrackerSettings K)
    (detections : List (Detection K T)) (trail : Trail K T) : Prop where
  sound : trail.IsSound detections
  linked : ∀ n next, trail.track.detections[n + 1]? = some next →
    IsWaiting settings next (trail.track.upTo n) ∧
      Connects settings (trail.track.upTo n) next

/-- A trail begins apart if the detection that began it could join none of the
tracks that were live. -/
structure Trail.BeginsApart (settings : TrackerSettings K)
    (criteria : Criteria K T) (encode : Frame → Option Bytes)
    (detections : List (Detection K T)) (trail : Trail K T) : Prop where
  sound : trail.IsSound detections
  apart : ∀ track ∈ tracksAfter settings criteria encode []
      (detections.take trail.created),
    IsWaiting settings trail.track.first track →
      ¬ Connects settings track trail.track.first

variable (settings : TrackerSettings K) (criteria : Criteria K T)
  (encode : Frame → Option Bytes)

namespace Chronicle

theorem isChained_of_mem_trails (detections : List (Detection K T)) :
    ∀ trail ∈ (ofStream settings criteria detections).trails,
      trail.IsChained settings detections := by
  refine forall_trails (fun _ => none) ?_ ?_ ?_ detections
  · intro _ detection _ chained
    exact ⟨chained.sound.concat detection, chained.linked⟩
  · intro detections detection _ _
    refine ⟨Trail.IsSound.start criteria detections detection, ?_⟩
    intro n next found
    simp at found
  · intro _ detection trail _ chained inTime connects _
    refine ⟨chained.sound.join criteria detection, ?_⟩
    intro n next found
    rw [Trail.track_join, upTo_settle]
    rw [Trail.track_join, detections_settle, Track.detections_append] at found
    have within := (List.getElem?_eq_some_iff.mp found).1
    rw [List.length_append, List.length_singleton,
      Track.length_detections] at within
    rw [Track.upTo_append_of_le (by omega)]
    rcases Nat.lt_or_ge (n + 1) trail.track.detections.length with
      earlier | last
    · rw [List.getElem?_append_left earlier] at found
      exact chained.linked n next found
    · obtain rfl : n = trail.track.rest.length := by
        rw [Track.length_detections] at last
        omega
      rw [← Track.length_detections, List.getElem?_concat_length] at found
      obtain rfl := Option.some.inj found
      rw [← chained.sound.grown]
      exact ⟨inTime, connects⟩

theorem beginsApart_of_mem_trails (detections : List (Detection K T)) :
    ∀ trail ∈ (ofStream settings criteria detections).trails,
      trail.BeginsApart settings criteria encode detections := by
  refine forall_trails encode ?_ ?_ ?_ detections
  · intro detections detection trail begun
    refine ⟨begun.sound.concat detection, ?_⟩
    rw [begun.sound.take_created_concat detection]
    exact begun.apart
  · intro detections detection apart _
    refine ⟨Trail.IsSound.start criteria detections detection, ?_⟩
    intro track member
    simp only [Trail.start, List.take_left, first_settle] at member ⊢
    rw [← live_ofStream settings criteria encode] at member
    obtain ⟨trail, live, rfl⟩ := List.mem_map.mp member
    exact apart trail live
  · intro detections detection trail _ begun _ _ _
    refine ⟨begun.sound.join criteria detection, ?_⟩
    simp only [Trail.join, first_settle,
      begun.sound.take_created_concat detection]
    exact begun.apart

/-- After a detection every live track that it does not belong to is still
waiting at its time. -/
theorem isWaiting_of_mem_live {detections : List (Detection K T)}
    {detection : Detection K T} {trail : Trail K T}
    (live : trail ∈
      (ofStream settings criteria (detections ++ [detection])).live)
    (elsewhere : detections.length ∉ trail.places) :
    IsWaiting settings detection trail.track := by
  rw [ofStream_concat] at live
  rcases mem_live_enter settings criteria (fun _ => none) live with
    waiting | ⟨found, -, -, rfl, -⟩ | ⟨-, rfl, -⟩
  · exact ((mem_waiting settings).mp waiting).2
  · simp at elsewhere
  · simp at elsewhere

end Chronicle

theorem not_lastTime_lt_firstTime {detections : List (Detection K Instant)}
    {trail : Trail K Instant} (sound : trail.IsSound detections)
    (inOrder : InOrder detections) :
    ¬ trail.track.lastTime < trail.track.firstTime := by
  have trackInOrder : InOrder trail.track.detections :=
    inOrder.sublist sound.sublist
  rcases List.mem_cons.mp trail.track.last_mem_detections with isFirst | later
  · rw [Track.lastTime, isFirst]
    exact Instant.not_lt_self _
  · exact List.rel_of_pairwise_cons trackInOrder later

/-- Every track ever created is a valid chain, and tracks are only begun by
detections that continue none.  Each detection of a track comes within the
prune age of the one before it, and overlaps the recent boxes of the track as
it then was by more than the minimum, or by half as much again if the most
common classification was another one.  Conversely a detection that begins a
track satisfied this for none of the tracks that were live.  After each
detection every live track that it does not belong to is younger than the prune
age.  If the detections are in order, so are those of every track, and the
length of a track is negative only across a leap second at the end of a day. -/
theorem tracks_are_chains (criteria : Criteria K Instant)
    (detections : List (Detection K Instant)) :
    (Chronicle.ofStream settings criteria detections).live.map (·.track) =
      tracksAfter settings criteria encode [] detections ∧
    (∀ trail ∈ (Chronicle.ofStream settings criteria detections).trails,
      ∀ n previous next,
        trail.track.detections[n]? = some previous →
        trail.track.detections[n + 1]? = some next →
        Timeline.since next.time previous.time < settings.pruneAge ∧
        (if (trail.track.upTo n).classification = next.classification then
            settings.minOverlap
          else settings.minOverlap * (Scalar.ofNat 3 / Scalar.ofNat 2)) <
          (trail.track.upTo n).recentBox.overlap next.box) ∧
    (∀ trail ∈ (Chronicle.ofStream settings criteria detections).trails,
      ∀ track ∈ tracksAfter settings criteria encode []
          (detections.take trail.created),
        ¬ (Timeline.since trail.track.first.time track.lastTime <
            settings.pruneAge ∧
          (if track.classification = trail.track.first.classification then
              settings.minOverlap
            else settings.minOverlap * (Scalar.ofNat 3 / Scalar.ofNat 2)) <
            track.recentBox.overlap trail.track.first.box)) ∧
    (∀ place detection, detections[place]? = some detection →
      ∀ trail ∈ (Chronicle.ofStream settings criteria
          (detections.take (place + 1))).live,
        place ∉ trail.places →
        Timeline.since detection.time trail.track.lastTime <
          settings.pruneAge) ∧
    (InOrder detections → (∀ detection ∈ detections, detection.time.IsProper) →
      ∀ trail ∈ (Chronicle.ofStream settings criteria detections).trails,
        InOrder trail.track.detections ∧
        (trail.track.length.nanoseconds < 0 ↔
          trail.track.firstTime.isLeap = true ∧
          trail.track.firstTime.secondOfDay = 86399 ∧
          trail.track.lastTime.second = trail.track.firstTime.second + 1 ∧
          trail.track.lastTime.nanosecond + 1000000000 <
            trail.track.firstTime.nanosecond)) := by
  refine ⟨Chronicle.live_ofStream settings criteria encode detections, ?_, ?_,
    ?_, ?_⟩
  · intro trail member n previous next previousFound nextFound
    obtain ⟨inTime, connects⟩ := (Chronicle.isChained_of_mem_trails settings
      criteria detections trail member).linked n next nextFound
    rw [IsWaiting, Track.lastTime, Track.last_upTo previousFound] at inTime
    exact ⟨inTime, connects⟩
  · rintro trail member track live ⟨inTime, connects⟩
    exact (Chronicle.beginsApart_of_mem_trails settings criteria encode
      detections trail member).apart track live inTime connects
  · intro place detection found trail live elsewhere
    obtain ⟨inside, rfl⟩ := List.getElem?_eq_some_iff.mp found
    rw [List.take_succ_eq_append_getElem inside] at live
    refine Chronicle.isWaiting_of_mem_live settings criteria live ?_
    rwa [List.length_take, Nat.min_eq_left (Nat.le_of_lt inside)]
  · intro inOrder proper trail member
    have sound := Chronicle.isSound_of_mem_trails settings criteria detections
      trail member
    have properInTrack : ∀ detection ∈ trail.track.detections,
        detection.time.IsProper :=
      fun detection inTrack => proper detection (sound.sublist.subset inTrack)
    exact ⟨inOrder.sublist sound.sublist,
      Instant.since_neg_iff (properInTrack _ List.mem_cons_self)
        (properInTrack _ trail.track.last_mem_detections)
        (not_lastTime_lt_firstTime sound inOrder)⟩

/-- Two detections of one car, half a second apart: the first one in the middle
of a leap second at the end of a day, the other one at the next midnight. -/
def acrossLeapSecond : List (Detection Float Instant) :=
  let box : Box Float := Box.ofCorners 0.25 0.25 0.5 0.5
  [⟨"e0", ⟨1483228799, 1500000000⟩, 1, "car", false, box, ⟨4, 4, []⟩⟩,
    ⟨"e1", ⟨1483228800, 0⟩, 1, "car", true, box, ⟨4, 4, []⟩⟩]

/-- Detections in order can make a track of negative length: the time from the
middle of a leap second to the next midnight is minus half a second. -/
theorem exists_inOrder_track_of_negative_length :
    InOrder acrossLeapSecond ∧
      (∀ detection ∈ acrossLeapSecond, detection.time.IsProper) ∧
      ¬ ∀ trail ∈ (Chronicle.ofStream TrackerSettings.standard
          ⟨CriteriaSettings.standard, none⟩ acrossLeapSecond).trails,
        0 ≤ trail.track.length.nanoseconds := by
  have lengths : (Chronicle.ofStream TrackerSettings.standard
      ⟨CriteriaSettings.standard, none⟩ acrossLeapSecond).trails.map
        (·.track.length.nanoseconds) = [-500000000] := by
    decide +kernel
  refine ⟨?_, ?_, fun nonnegative => ?_⟩
  · simp [InOrder, acrossLeapSecond, Instant.lt_iff]
  · simp only [acrossLeapSecond, List.forall_mem_cons]
    exact ⟨⟨by decide, by decide⟩, ⟨by decide, by decide⟩, by simp⟩
  · have member : (-500000000 : Int) ∈ (Chronicle.ofStream
        TrackerSettings.standard ⟨CriteriaSettings.standard, none⟩
        acrossLeapSecond).trails.map (·.track.length.nanoseconds) := by
      rw [lengths]
      exact List.mem_cons_self
    obtain ⟨trail, inChronicle, length⟩ := List.mem_map.mp member
    have := nonnegative trail inChronicle
    omega

end Tracker

end DrivewayWatch
