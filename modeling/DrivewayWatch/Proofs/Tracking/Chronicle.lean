import DrivewayWatch.Proofs.Tracking.Run
import Mathlib.Data.List.Induction

/-!
# The chronicle of a run

The tracker forgets the tracks that it removes.  The chronicle of a stream keeps
every track ever created, removed or live, together with the places of its
detections in the stream.  Its live part is exactly what the tracker holds, so
a law of all tracks ever created can be proved by following single detections:
`forall_trails` is that induction.
-/

namespace DrivewayWatch

namespace Tracker

/-- A track together with the places that its detections have in the stream:
the place of the first one, and those of the others. -/
structure Trail (K T : Type) where
  track : Track K T
  created : Nat
  joined : List Nat

/-- The tracks created by a stream: those that were removed, and those that are
live. -/
structure Chronicle (K T : Type) where
  removed : List (Trail K T)
  live : List (Trail K T)

/-- The places of the detections in order of arrival. -/
def Trail.places {K T : Type} (trail : Trail K T) : List Nat :=
  trail.created :: trail.joined

variable {K T : Type} [Scalar K] [Timeline T]

/-- The trail that a detection begins. -/
def Trail.start (criteria : Criteria K T) (detection : Detection K T)
    (place : Nat) : Trail K T :=
  { track := settle criteria (Track.start detection)
    created := place
    joined := [] }

/-- The trail with one more detection. -/
def Trail.join (criteria : Criteria K T) (trail : Trail K T)
    (detection : Detection K T) (place : Nat) : Trail K T :=
  { track := settle criteria (trail.track.append detection)
    created := trail.created
    joined := trail.joined ++ [place] }

@[simp]
theorem Trail.track_start (criteria : Criteria K T)
    (detection : Detection K T) (place : Nat) :
    (start criteria detection place).track =
      settle criteria (Track.start detection) :=
  rfl

@[simp]
theorem Trail.track_join (criteria : Criteria K T) (trail : Trail K T)
    (detection : Detection K T) (place : Nat) :
    (trail.join criteria detection place).track =
      settle criteria (trail.track.append detection) :=
  rfl

@[simp]
theorem Trail.places_start (criteria : Criteria K T)
    (detection : Detection K T) (place : Nat) :
    (start criteria detection place).places = [place] :=
  rfl

@[simp]
theorem Trail.places_join (criteria : Criteria K T) (trail : Trail K T)
    (detection : Detection K T) (place : Nat) :
    (trail.join criteria detection place).places = trail.places ++ [place] :=
  rfl

namespace Chronicle

/-- Every track ever created. -/
def trails (chronicle : Chronicle K T) : List (Trail K T) :=
  chronicle.removed ++ chronicle.live

/-- The trails that are waiting for a detection. -/
def waiting (settings : TrackerSettings K) (chronicle : Chronicle K T)
    (detection : Detection K T) : List (Trail K T) :=
  chronicle.live.filter (IsWaiting settings detection ·.track)

/-- The trails that a detection finds to have waited too long. -/
def expired (settings : TrackerSettings K) (chronicle : Chronicle K T)
    (detection : Detection K T) : List (Trail K T) :=
  chronicle.live.filter fun trail =>
    !decide (IsWaiting settings detection trail.track)

/-- Enters one detection, and its place, into the chronicle. -/
def enter (settings : TrackerSettings K) (criteria : Criteria K T)
    (chronicle : Chronicle K T) (detection : Detection K T) (place : Nat) :
    Chronicle K T :=
  let waiting := chronicle.waiting settings detection
  { removed := chronicle.removed ++ chronicle.expired settings detection
    live :=
      match bestMatch? settings (waiting.map (·.track)) detection with
      | some index => waiting.modify index (·.join criteria detection place)
      | none => waiting ++ [.start criteria detection place] }

/-- The chronicle of a stream that a new tracker takes. -/
def ofStream (settings : TrackerSettings K) (criteria : Criteria K T)
    (detections : List (Detection K T)) : Chronicle K T :=
  detections.zipIdx.foldl
    (fun chronicle entry =>
      chronicle.enter settings criteria entry.1 entry.2) ⟨[], []⟩

variable (settings : TrackerSettings K) (criteria : Criteria K T)
  (encode : Frame → Option Bytes)

@[simp]
theorem ofStream_nil :
    ofStream settings criteria ([] : List (Detection K T)) = ⟨[], []⟩ :=
  rfl

theorem ofStream_concat (detections : List (Detection K T))
    (detection : Detection K T) :
    ofStream settings criteria (detections ++ [detection]) =
      (ofStream settings criteria detections).enter settings criteria
        detection detections.length := by
  simp [ofStream, List.zipIdx_append]

theorem prune_map_track (chronicle : Chronicle K T)
    (detection : Detection K T) :
    prune settings.pruneAge detection (chronicle.live.map (·.track)) =
      (chronicle.waiting settings detection).map (·.track) := by
  rw [prune_eq_filter, waiting, List.filter_map]
  rfl

/-- A detection joins a waiting trail that it connects to, or, if there is no
such trail, begins one behind all of them.  What is announced is what the
tracker announces. -/
theorem enter_cases (chronicle : Chronicle K T) (detection : Detection K T)
    (place : Nat) :
    (∃ before trail after,
      chronicle.waiting settings detection = before ++ trail :: after ∧
      Connects settings trail.track detection ∧
      (chronicle.enter settings criteria detection place).live =
        before ++ trail.join criteria detection place :: after ∧
      (step settings criteria encode (chronicle.live.map (·.track))
          detection).tracks =
        (before ++ trail.join criteria detection place :: after).map
          (·.track) ∧
      (step settings criteria encode (chronicle.live.map (·.track))
          detection).arrival =
        announcement? criteria encode (trail.track.append detection)) ∨
    ((∀ trail ∈ chronicle.waiting settings detection,
        ¬ Connects settings trail.track detection) ∧
      (chronicle.enter settings criteria detection place).live =
        chronicle.waiting settings detection ++
          [Trail.start criteria detection place] ∧
      (step settings criteria encode (chronicle.live.map (·.track))
          detection).tracks =
        (chronicle.waiting settings detection ++
          [Trail.start criteria detection place]).map (·.track) ∧
      (step settings criteria encode (chronicle.live.map (·.track))
          detection).arrival =
        announcement? criteria encode (Track.start detection)) := by
  have pruned := prune_map_track settings chronicle detection
  rcases step_cases settings criteria encode
      (chronicle.live.map (·.track)) detection with
    ⟨before, track, after, split, matched, connects, tracks, arrival⟩ |
      ⟨matched, apart, tracks, arrival⟩
  · rw [pruned] at split matched
    obtain ⟨early, others, waitingSplit, rfl, othersEq⟩ :=
      List.map_eq_append_iff.mp split
    obtain ⟨trail, late, rfl, rfl, rfl⟩ := List.map_eq_cons_iff.mp othersEq
    refine Or.inl ⟨early, trail, late, waitingSplit, connects, ?_, ?_, arrival⟩
    · simp only [enter, matched, List.length_map]
      rw [waitingSplit, modify_append_cons_length]
    · rw [tracks]
      simp [Trail.join]
  · rw [pruned] at matched apart tracks
    refine Or.inr ⟨?_, ?_, ?_, arrival⟩
    · intro trail member
      exact apart trail.track (List.mem_map_of_mem member)
    · simp only [enter, matched]
    · rw [tracks]
      simp [Trail.start]

theorem live_enter (chronicle : Chronicle K T) (detection : Detection K T)
    (place : Nat) :
    (chronicle.enter settings criteria detection place).live.map (·.track) =
      (step settings criteria encode (chronicle.live.map (·.track))
        detection).tracks := by
  rcases enter_cases settings criteria encode chronicle detection place with
    ⟨before, trail, after, -, -, live, tracks, -⟩ | ⟨-, live, tracks, -⟩
  · rw [live, tracks]
  · rw [live, tracks]

/-- The live part of the chronicle is what the tracker holds. -/
theorem live_ofStream (detections : List (Detection K T)) :
    (ofStream settings criteria detections).live.map (·.track) =
      tracksAfter settings criteria encode [] detections := by
  induction detections using List.reverseRecOn with
  | nil => rfl
  | append_singleton detections detection ih =>
      rw [ofStream_concat, tracksAfter_concat, ← ih]
      exact live_enter settings criteria encode _ detection _

theorem removed_enter (chronicle : Chronicle K T)
    (detection : Detection K T) (place : Nat) :
    (chronicle.enter settings criteria detection place).removed =
      chronicle.removed ++ chronicle.expired settings detection :=
  rfl

theorem mem_waiting {chronicle : Chronicle K T} {detection : Detection K T}
    {trail : Trail K T} :
    trail ∈ chronicle.waiting settings detection ↔
      trail ∈ chronicle.live ∧ IsWaiting settings detection trail.track := by
  simp [waiting]

theorem mem_live_of_mem_expired {chronicle : Chronicle K T}
    {detection : Detection K T} {trail : Trail K T}
    (member : trail ∈ chronicle.expired settings detection) :
    trail ∈ chronicle.live :=
  (List.mem_filter.mp member).1

/-- A live trail was waiting for the detection just entered, or it is the one
that the detection has joined, or the one that it has begun. -/
theorem mem_live_enter {chronicle : Chronicle K T}
    {detection : Detection K T} {place : Nat} {trail : Trail K T}
    (live : trail ∈
      (chronicle.enter settings criteria detection place).live) :
    trail ∈ chronicle.waiting settings detection ∨
    (∃ found ∈ chronicle.waiting settings detection,
      Connects settings found.track detection ∧
      trail = found.join criteria detection place ∧
      (step settings criteria encode (chronicle.live.map (·.track))
          detection).arrival =
        announcement? criteria encode (found.track.append detection)) ∨
    ((∀ other ∈ chronicle.waiting settings detection,
        ¬ Connects settings other.track detection) ∧
      trail = .start criteria detection place ∧
      (step settings criteria encode (chronicle.live.map (·.track))
          detection).arrival =
        announcement? criteria encode (Track.start detection)) := by
  rcases enter_cases settings criteria encode chronicle detection place with
    ⟨before, found, after, split, connects, liveEq, -, arrival⟩ |
      ⟨apart, liveEq, -, arrival⟩
  · rw [split]
    rw [liveEq] at live
    rcases List.mem_append.mp live with inBefore | others
    · exact Or.inl (List.mem_append_left _ inBefore)
    rcases List.mem_cons.mp others with joined | inAfter
    · exact Or.inr (Or.inl ⟨found,
        List.mem_append_right _ List.mem_cons_self, connects, joined,
        arrival⟩)
    · exact Or.inl (List.mem_append_right _ (List.mem_cons_of_mem _ inAfter))
  · rw [liveEq] at live
    rcases List.mem_append.mp live with stillWaiting | started
    · exact Or.inl stillWaiting
    · exact Or.inr (Or.inr ⟨apart, List.mem_singleton.mp started, arrival⟩)

variable {settings criteria}

/-- A property that relates a stream to each trail of its chronicle holds if
it is kept while the stream goes on without the trail, holds of a new trail,
and is kept by the trail that a detection joins. -/
theorem forall_trails {property : List (Detection K T) → Trail K T → Prop}
    (kept : ∀ detections detection trail,
      property detections trail → property (detections ++ [detection]) trail)
    (started : ∀ detections detection,
      (∀ trail ∈ (ofStream settings criteria detections).live,
        IsWaiting settings detection trail.track →
          ¬ Connects settings trail.track detection) →
      (step settings criteria encode
          (tracksAfter settings criteria encode [] detections)
          detection).arrival =
        announcement? criteria encode (Track.start detection) →
      property (detections ++ [detection])
        (.start criteria detection detections.length))
    (joined : ∀ detections detection,
      ∀ trail ∈ (ofStream settings criteria detections).live,
        property detections trail →
        IsWaiting settings detection trail.track →
        Connects settings trail.track detection →
        (step settings criteria encode
            (tracksAfter settings criteria encode [] detections)
            detection).arrival =
          announcement? criteria encode (trail.track.append detection) →
        property (detections ++ [detection])
          (trail.join criteria detection detections.length))
    (detections : List (Detection K T)) :
    ∀ trail ∈ (ofStream settings criteria detections).trails,
      property detections trail := by
  -- The last detection is entered last, so the induction is from that end.
  induction detections using List.reverseRecOn with
  | nil => simp [trails]
  | append_singleton detections detection ih =>
      have keptLive : ∀ trail ∈ (ofStream settings criteria detections).live,
          property (detections ++ [detection]) trail := fun trail member =>
        kept _ _ _ (ih trail (List.mem_append_right _ member))
      intro trail member
      rw [ofStream_concat, trails, removed_enter] at member
      rcases List.mem_append.mp member with removed | live
      · rcases List.mem_append.mp removed with earlier | expired
        · exact kept _ _ _ (ih trail (List.mem_append_left _ earlier))
        · exact keptLive trail (mem_live_of_mem_expired settings expired)
      have entered := mem_live_enter settings criteria encode live
      rw [live_ofStream settings criteria encode] at entered
      rcases entered with
        waiting | ⟨found, waiting, connects, rfl, arrival⟩ |
          ⟨apart, rfl, arrival⟩
      · exact keptLive trail ((mem_waiting settings).mp waiting).1
      · obtain ⟨foundLive, inTime⟩ := (mem_waiting settings).mp waiting
        exact joined _ _ found foundLive
          (ih found (List.mem_append_right _ foundLive)) inTime connects
          arrival
      · refine started _ _ (fun other otherLive inTime => ?_) arrival
        exact apart other ((mem_waiting settings).mpr ⟨otherLive, inTime⟩)

end Chronicle

end Tracker

end DrivewayWatch
