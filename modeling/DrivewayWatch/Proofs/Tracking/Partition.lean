import DrivewayWatch.Proofs.Tracking.Chronicle
import Mathlib.Data.List.Nodup
import Mathlib.Data.List.Pairwise

/-!
# Tracks partition the stream

Every detection belongs to exactly one of the tracks ever created, and each of
these is a part of the stream in its order.  The live tracks stand in the order
in which they were begun.
-/

namespace DrivewayWatch

namespace Tracker

variable {K T : Type} [Scalar K]

/-- A trail is sound for a stream if its places ascend, lie in the stream and
hold the detections of its track, and if its track is grown from them. -/
structure Trail.IsSound (detections : List (Detection K T))
    (trail : Trail K T) : Prop where
  ascending : trail.places.Pairwise (· < ·)
  inside : ∀ place ∈ trail.places, place < detections.length
  collected : trail.track.detections.map some =
    trail.places.map (detections[·]?)
  sublist : trail.track.detections.Sublist detections
  grown : trail.track.IsGrown

namespace Trail.IsSound

variable {detections : List (Detection K T)} {trail : Trail K T}

theorem concat (sound : trail.IsSound detections)
    (detection : Detection K T) :
    trail.IsSound (detections ++ [detection]) where
  ascending := sound.ascending
  inside := by
    intro place member
    have := sound.inside place member
    simp only [List.length_append, List.length_singleton]
    omega
  collected := by
    rw [sound.collected]
    refine List.map_congr_left fun place member => ?_
    rw [List.getElem?_append_left (sound.inside place member)]
  sublist := sound.sublist.trans (List.sublist_append_left _ _)
  grown := sound.grown

theorem start [Timeline T] (criteria : Criteria K T)
    (detections : List (Detection K T)) (detection : Detection K T) :
    (Trail.start criteria detection detections.length).IsSound
      (detections ++ [detection]) where
  ascending := by simp
  inside := by simp
  collected := by simp
  sublist := by simp
  grown := isGrown_settle (Track.isGrown_start detection) criteria

theorem join [Timeline T] (criteria : Criteria K T)
    (sound : trail.IsSound detections) (detection : Detection K T) :
    (trail.join criteria detection detections.length).IsSound
      (detections ++ [detection]) where
  ascending := by
    rw [Trail.places_join, List.pairwise_append]
    refine ⟨sound.ascending, List.pairwise_singleton _ _, ?_⟩
    intro place member last isLast
    rw [List.mem_singleton.mp isLast]
    exact sound.inside place member
  inside := by
    intro place member
    rw [Trail.places_join] at member
    rcases List.mem_append.mp member with earlier | isLast
    · exact (sound.concat detection).inside place earlier
    · simp [List.mem_singleton.mp isLast]
  collected := by
    have earlier := (sound.concat detection).collected
    simp only [Trail.track_join, detections_settle, Track.detections_append,
      List.map_append, earlier]
    simp
  sublist := by
    simp only [Trail.track_join, detections_settle, Track.detections_append]
    exact sound.sublist.append (List.Sublist.refl _)
  grown := isGrown_settle (sound.grown.append detection) criteria

theorem length_places (sound : trail.IsSound detections) :
    trail.places.length = trail.track.rest.length + 1 := by
  simpa [Track.length_detections] using
    (congrArg List.length sound.collected).symm

theorem getElem?_detections (sound : trail.IsSound detections) (n : Nat) :
    trail.track.detections[n]? =
      trail.places[n]?.bind (detections[·]?) := by
  have collected := congrArg (·[n]?) sound.collected
  simp only [List.getElem?_map] at collected
  cases found : trail.places[n]? with
  | none => simpa [found] using collected
  | some place =>
      cases held : trail.track.detections[n]? with
      | none => simp [found, held] at collected
      | some detection => simpa [found, held] using collected

theorem getElem?_created (sound : trail.IsSound detections) :
    detections[trail.created]? = some trail.track.first := by
  have atFirst := sound.getElem?_detections 0
  simpa [Track.detections, Trail.places] using atFirst.symm

theorem take_created_concat (sound : trail.IsSound detections)
    (detection : Detection K T) :
    (detections ++ [detection]).take trail.created =
      detections.take trail.created :=
  List.take_append_of_le_length
    (Nat.le_of_lt (sound.inside trail.created List.mem_cons_self))

end Trail.IsSound

variable [Timeline T] (settings : TrackerSettings K)
  (criteria : Criteria K T)

namespace Chronicle

theorem isSound_of_mem_trails (detections : List (Detection K T)) :
    ∀ trail ∈ (ofStream settings criteria detections).trails,
      trail.IsSound detections := by
  refine forall_trails (fun _ => none) ?_ ?_ ?_ detections
  · intro _ detection _ sound
    exact sound.concat detection
  · intro detections detection _ _
    exact Trail.IsSound.start criteria detections detection
  · intro _ detection _ _ sound _ _ _
    exact sound.join criteria detection

theorem waiting_append_expired_perm (chronicle : Chronicle K T)
    (detection : Detection K T) :
    (chronicle.waiting settings detection ++
      chronicle.expired settings detection).Perm chronicle.live :=
  List.filter_append_perm _ _

theorem places_live_enter_perm (chronicle : Chronicle K T)
    (detection : Detection K T) (place : Nat) :
    ((chronicle.enter settings criteria detection place).live.flatMap
        (·.places)).Perm
      ((chronicle.waiting settings detection).flatMap (·.places) ++
        [place]) := by
  rcases enter_cases settings criteria (fun _ => none) chronicle detection
      place with
    ⟨before, found, after, split, -, live, -, -⟩ | ⟨-, live, -, -⟩
  · rw [live, split]
    simp only [List.flatMap_append, List.flatMap_cons, Trail.places_join,
      List.append_assoc]
    exact (List.perm_append_comm.append_left _).append_left _
  · rw [live]
    simp

theorem places_enter_perm (chronicle : Chronicle K T)
    (detection : Detection K T) (place : Nat) :
    ((chronicle.enter settings criteria detection place).trails.flatMap
        (·.places)).Perm
      (chronicle.trails.flatMap (·.places) ++ [place]) := by
  have liveKept := (waiting_append_expired_perm settings chronicle
    detection).flatMap_right (·.places)
  have liveAdded :=
    places_live_enter_perm settings criteria chronicle detection place
  rw [trails, trails, removed_enter]
  simp only [List.flatMap_append, List.append_assoc] at liveKept ⊢
  refine List.Perm.append_left _ ?_
  refine (liveAdded.append_left _).trans ?_
  rw [← List.append_assoc]
  exact (List.perm_append_comm.trans liveKept).append_right _

/-- The places of the trails are the places of the stream, each exactly
once. -/
theorem places_perm_range (detections : List (Detection K T)) :
    ((ofStream settings criteria detections).trails.flatMap
      (·.places)).Perm (List.range detections.length) := by
  induction detections using List.reverseRecOn with
  | nil => simp [trails]
  | append_singleton detections detection ih =>
      rw [ofStream_concat, List.length_append, List.length_singleton,
        List.range_succ]
      exact (places_enter_perm settings criteria _ _ _).trans
        (ih.append_right _)

theorem exists_trail_of_place {detections : List (Detection K T)}
    {place : Nat} (inside : place < detections.length) :
    ∃ trail ∈ (ofStream settings criteria detections).trails,
      place ∈ trail.places := by
  have member := (places_perm_range settings criteria detections).mem_iff.mpr
    (List.mem_range.mpr inside)
  exact List.mem_flatMap.mp member

/-- No place belongs to two trails. -/
theorem eq_of_common_place {detections : List (Detection K T)}
    {first second : Trail K T}
    (firstMember : first ∈ (ofStream settings criteria detections).trails)
    (secondMember : second ∈ (ofStream settings criteria detections).trails)
    {place : Nat} (inFirst : place ∈ first.places)
    (inSecond : place ∈ second.places) : first = second := by
  have allPlacesOnce :=
    (places_perm_range settings criteria detections).nodup_iff.mpr
      List.nodup_range
  have apart := (List.nodup_flatMap.mp allPlacesOnce).2
  have : Std.Symm (Function.onFun List.Disjoint fun trail : Trail K T =>
      trail.places) := ⟨fun _ _ => List.disjoint_comm.mp⟩
  by_contra different
  exact apart.forall firstMember secondMember different inFirst inSecond

/-- The live trails stand in the order in which they were begun. -/
theorem live_pairwise_created (detections : List (Detection K T)) :
    ((ofStream settings criteria detections).live.map
      (·.created)).Pairwise (· < ·) := by
  induction detections using List.reverseRecOn with
  | nil => simp
  | append_singleton detections detection ih =>
      have waitingOrdered :
          (((ofStream settings criteria detections).waiting settings
            detection).map (·.created)).Pairwise (· < ·) :=
        ih.sublist (List.filter_sublist.map _)
      rw [ofStream_concat]
      rcases enter_cases settings criteria (fun _ => none)
          (ofStream settings criteria detections) detection
          detections.length with
        ⟨before, found, after, split, -, live, -, -⟩ | ⟨-, live, -, -⟩
      · rw [split] at waitingOrdered
        rw [live]
        simpa [Trail.join] using waitingOrdered
      · rw [live, List.map_append, List.pairwise_append]
        refine ⟨waitingOrdered, List.pairwise_singleton _ _, ?_⟩
        intro place member last isLast
        obtain ⟨trail, waiting, rfl⟩ := List.mem_map.mp member
        have sound := isSound_of_mem_trails settings criteria detections
          trail (List.mem_append_right _ ((mem_waiting settings).mp waiting).1)
        rw [List.mem_singleton.mp isLast]
        exact sound.inside trail.created List.mem_cons_self

end Chronicle

theorem settle_eq_or (criteria : Criteria K T) (track : Track K T) :
    settle criteria track = track ∨ settle criteria track = track.notified := by
  unfold settle
  split
  · exact Or.inr rfl
  · exact Or.inl rfl

/-- The tracks ever created partition the stream.  Each detection has its place
in exactly one of them, exactly once; the detections of a track are a part of
the stream in its order, and the first of them names the track; the live tracks
are the ones the tracker holds, in the order in which they were begun.  One
detection drops the tracks that have waited too long, extends one of the others
or begins one behind them, and leaves the rest as they are. -/
theorem tracks_partition_stream (encode : Frame → Option Bytes)
    (detections : List (Detection K T)) :
    (Chronicle.ofStream settings criteria detections).live.map (·.track) =
        tracksAfter settings criteria encode [] detections ∧
      ((Chronicle.ofStream settings criteria detections).trails.flatMap
        (·.places)).Perm (List.range detections.length) ∧
      (∀ trail ∈ (Chronicle.ofStream settings criteria detections).trails,
        trail.places.Pairwise (· < ·) ∧
        trail.track.detections.map some =
          trail.places.map (detections[·]?) ∧
        trail.track.detections.Sublist detections ∧
        trail.track.detections ≠ [] ∧
        trail.track.detections.head?.map (·.id) = some trail.track.id) ∧
      ((Chronicle.ofStream settings criteria detections).live.map
        (·.created)).Pairwise (· < ·) ∧
      ∀ (tracks : List (Track K T)) (detection : Detection K T),
        ∃ before after grown,
          (step settings criteria encode tracks detection).tracks =
            before ++ grown :: after ∧
          ((∃ track,
            tracks.filter (fun track => decide
              (Timeline.since detection.time track.lastTime <
                settings.pruneAge)) = before ++ track :: after ∧
            (grown = track.append detection ∨
              grown = (track.append detection).notified)) ∨
          (tracks.filter (fun track => decide
              (Timeline.since detection.time track.lastTime <
                settings.pruneAge)) = before ∧ after = [] ∧
            (grown = Track.start detection ∨
              grown = (Track.start detection).notified))) := by
  refine ⟨Chronicle.live_ofStream settings criteria encode detections,
    Chronicle.places_perm_range settings criteria detections, ?_,
    Chronicle.live_pairwise_created settings criteria detections, ?_⟩
  · intro trail member
    have sound :=
      Chronicle.isSound_of_mem_trails settings criteria detections trail member
    exact ⟨sound.ascending, sound.collected, sound.sublist,
      List.cons_ne_nil _ _, congrArg some sound.grown.id_eq.symm⟩
  · intro tracks detection
    rcases step_cases settings criteria encode tracks detection with
      ⟨before, track, after, split, -, -, tracksEq, -⟩ | ⟨-, -, tracksEq, -⟩
    · exact ⟨before, after, _, tracksEq,
        Or.inl ⟨track, split, settle_eq_or criteria _⟩⟩
    · exact ⟨_, [], _, tracksEq,
        Or.inr ⟨rfl, rfl, settle_eq_or criteria _⟩⟩

end Tracker

end DrivewayWatch
