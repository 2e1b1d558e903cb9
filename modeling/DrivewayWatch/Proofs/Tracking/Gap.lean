import DrivewayWatch.Proofs.Tracking.Partition

/-!
# Silent gaps

Every live track ends in a detection of the stream.  So a detection that comes
when the prune age has passed since all detections before it finds no track
waiting, and the run goes on from it as if the tracker were new.
-/

namespace DrivewayWatch

namespace Tracker

variable {K T : Type} [Scalar K] [Timeline T] (settings : TrackerSettings K)
  (criteria : Criteria K T) (encode : Frame → Option Bytes)

theorem last_mem_of_mem_tracksAfter {detections : List (Detection K T)}
    {track : Track K T}
    (live : track ∈ tracksAfter settings criteria encode [] detections) :
    track.last ∈ detections := by
  rw [← Chronicle.live_ofStream] at live
  obtain ⟨trail, inLive, rfl⟩ := List.mem_map.mp live
  have sound := Chronicle.isSound_of_mem_trails settings criteria detections
    trail (List.mem_append_right _ inLive)
  exact sound.sublist.subset trail.track.last_mem_detections

variable {settings}

/-- After a gap no track is waiting.  The prune age itself is long enough, as
only a lesser age keeps a track. -/
theorem prune_tracksAfter_eq_nil_of_gap {detections : List (Detection K T)}
    {next : Detection K T}
    (gap : ∀ detection ∈ detections,
      settings.pruneAge ≤ Timeline.since next.time detection.time) :
    prune settings.pruneAge next
      (tracksAfter settings criteria encode [] detections) = [] := by
  rw [prune_eq_filter, List.filter_eq_nil_iff]
  intro track live
  have hasWaited : settings.pruneAge ≤
      Timeline.since next.time track.lastTime :=
    gap track.last (last_mem_of_mem_tracksAfter settings criteria encode live)
  rw [decide_eq_true_eq]
  exact Int.not_lt.mpr hasWaited

/-- A silent gap splits a run.  If the first detection after it comes when, by
the difference of their times, at least the prune age has passed since each of
those before, the detections bring what those before the gap bring, and then
what those after it bring to a new tracker; and they leave the tracks that
those after it leave. -/
theorem run_splits_at_gap {before : List (Detection K T)}
    {next : Detection K T}
    (gap : ∀ detection ∈ before,
      settings.pruneAge ≤ Timeline.since next.time detection.time)
    (later : List (Detection K T)) :
    run settings criteria encode [] (before ++ next :: later) =
        run settings criteria encode [] before ++
          run settings criteria encode [] (next :: later) ∧
      tracksAfter settings criteria encode [] (before ++ next :: later) =
        tracksAfter settings criteria encode [] (next :: later) := by
  have sameStep :
      step settings criteria encode
          (tracksAfter settings criteria encode [] before) next =
        step settings criteria encode [] next := by
    apply step_congr_prune
    rw [prune_tracksAfter_eq_nil_of_gap criteria encode gap]
    rfl
  constructor
  · rw [run_append]
    simp only [run, sameStep]
  · rw [tracksAfter_append, tracksAfter_cons, sameStep, tracksAfter_cons]

/-- A gap of exactly the prune age is long enough. -/
theorem run_splits_at_gap_of_a_second :
    (∀ detection ∈ [parkedCar "e0" (⟨0, 0⟩ : Instant)],
      TrackerSettings.standard.pruneAge ≤
        Timeline.since (parkedCar "e1" ⟨1, 0⟩).time detection.time) ∧
    run TrackerSettings.standard ⟨CriteriaSettings.standard, none⟩
        (fun _ => none) [] [parkedCar "e0" (⟨0, 0⟩ : Instant), parkedCar "e1" ⟨1, 0⟩] =
      run TrackerSettings.standard ⟨CriteriaSettings.standard, none⟩
          (fun _ => none) [] [parkedCar "e0" (⟨0, 0⟩ : Instant)] ++
        run TrackerSettings.standard ⟨CriteriaSettings.standard, none⟩
          (fun _ => none) [] [parkedCar "e1" ⟨1, 0⟩] := by
  have gap : ∀ detection ∈ [parkedCar "e0" (⟨0, 0⟩ : Instant)],
      TrackerSettings.standard.pruneAge ≤
        Timeline.since (parkedCar "e1" ⟨1, 0⟩).time detection.time := by
    decide +kernel
  exact ⟨gap, (run_splits_at_gap _ _ gap []).1⟩

end Tracker

end DrivewayWatch
