import DrivewayWatch.Tracking.Criteria
import Mathlib.Tactic.Common

/-!
# Growth of tracks

A track only grows, so it contains each of its earlier stages as the track of
its first detections.  This file recovers the earlier stages from the later
track, shows that neither a further detection nor the mark of an announcement
changes them, and names the stages at which a track qualifies to be announced.
-/

namespace DrivewayWatch

namespace Track

variable {K T : Type}

theorem length_detections (track : Track K T) :
    track.detections.length = track.rest.length + 1 :=
  rfl

theorem getLast?_detections (track : Track K T) :
    track.detections.getLast? = some track.last := by
  rw [detections, List.getLast?_cons]
  rfl

theorem last_mem_detections (track : Track K T) :
    track.last ∈ track.detections := by
  unfold last
  cases lastOfRest : track.rest.getLast? with
  | none => exact List.mem_cons_self
  | some detection =>
      exact List.mem_cons_of_mem _ (List.mem_of_getLast? lastOfRest)

variable [Scalar K]

@[simp]
theorem detections_start (detection : Detection K T) :
    (start detection).detections = [detection] :=
  rfl

@[simp]
theorem lastTime_start (detection : Detection K T) :
    (start detection).lastTime = detection.time :=
  rfl

@[simp]
theorem detections_append (track : Track K T) (detection : Detection K T) :
    (track.append detection).detections = track.detections ++ [detection] :=
  rfl

@[simp]
theorem lastTime_append (track : Track K T) (detection : Detection K T) :
    (track.append detection).lastTime = detection.time := by
  simp [lastTime, last, append]

theorem forall_mem_detections_start {property : Detection K T → Prop}
    {detection : Detection K T} (holds : property detection) :
    ∀ other ∈ (start detection).detections, property other := by
  intro other member
  rwa [List.mem_singleton.mp member]

theorem forall_mem_detections_append {property : Detection K T → Prop}
    {track : Track K T} (earlierHold : ∀ other ∈ track.detections, property other)
    {detection : Detection K T} (holds : property detection) :
    ∀ other ∈ (track.append detection).detections, property other := by
  intro other member
  rw [detections_append] at member
  rcases List.mem_append.mp member with earlier | isLast
  · exact earlierHold other earlier
  · rwa [List.mem_singleton.mp isLast]

/-- The stage of a track at which it had `n` detections after its first one,
without the mark of an announcement. -/
def upTo (track : Track K T) (n : Nat) : Track K T :=
  (track.rest.take n).foldl append (start track.first)

theorem upTo_append_of_le {track : Track K T} {n : Nat}
    (reached : n ≤ track.rest.length) (detection : Detection K T) :
    (track.append detection).upTo n = track.upTo n := by
  simp [upTo, append, List.take_append_of_le_length reached]

theorem upTo_append_succ_length (track : Track K T)
    (detection : Detection K T) :
    (track.append detection).upTo (track.rest.length + 1) =
      (track.upTo track.rest.length).append detection := by
  have allOfRest :
      (track.rest ++ [detection]).take (track.rest.length + 1) =
        track.rest ++ [detection] :=
    List.take_of_length_le (by simp)
  have wholeRest : track.rest.take track.rest.length = track.rest :=
    List.take_length
  change ((track.rest ++ [detection]).take _).foldl append _ =
    ((track.rest.take _).foldl append _).append detection
  rw [allOfRest, wholeRest, List.foldl_append]
  rfl

theorem detections_foldl_append (track : Track K T)
    (detections : List (Detection K T)) :
    (detections.foldl append track).detections =
      track.detections ++ detections := by
  induction detections generalizing track with
  | nil => simp
  | cons detection detections ih => simp [ih]

theorem detections_upTo (track : Track K T) (n : Nat) :
    (track.upTo n).detections = track.detections.take (n + 1) := by
  rw [upTo, detections_foldl_append]
  rfl

@[simp]
theorem first_upTo (track : Track K T) (n : Nat) :
    (track.upTo n).first = track.first := by
  have firsts := congrArg List.head? (track.detections_upTo n)
  simpa [detections] using firsts

theorem id_foldl_append (track : Track K T)
    (detections : List (Detection K T)) :
    (detections.foldl append track).id = track.id := by
  induction detections generalizing track with
  | nil => rfl
  | cons detection detections ih => exact ih (track.append detection)

/-- Every stage has the id of the first detection. -/
@[simp]
theorem id_upTo (track : Track K T) (n : Nat) :
    (track.upTo n).id = track.first.id :=
  id_foldl_append _ _

/-- The track without the mark of an announcement. -/
def unmarked (track : Track K T) : Track K T :=
  { track with isNotified := false }

/-- A track is grown if it is its own last stage, but for the mark of an
announcement. -/
def IsGrown (track : Track K T) : Prop :=
  track.unmarked = track.upTo track.rest.length

theorem isGrown_start (detection : Detection K T) :
    (start detection).IsGrown := by
  simp [IsGrown, unmarked, start, upTo]

theorem IsGrown.append {track : Track K T} (grown : track.IsGrown)
    (detection : Detection K T) : (track.append detection).IsGrown := by
  have restLength :
      (track.append detection).rest.length = track.rest.length + 1 := by
    simp [Track.append]
  unfold IsGrown
  rw [restLength, upTo_append_succ_length, ← grown]
  rfl

/-- A grown track has the id of its first detection. -/
theorem IsGrown.id_eq {track : Track K T} (grown : track.IsGrown) :
    track.id = track.first.id :=
  (congrArg Track.id grown).trans (track.id_upTo _)

theorem IsGrown.notified {track : Track K T} (grown : track.IsGrown) :
    track.notified.IsGrown :=
  grown

end Track

namespace Criteria

variable {K T : Type} [Scalar K] [Timeline T]

@[simp]
theorem decide_unmarked (criteria : Criteria K T) (track : Track K T) :
    criteria.decide track.unmarked = criteria.decide track :=
  rfl

/-- A track qualifies at a stage if the stage is confirmed and passes the
criteria. -/
def Qualifies (criteria : Criteria K T) (track : Track K T) (n : Nat) : Prop :=
  n ≤ track.rest.length ∧ (track.upTo n).isConfirmed = true ∧
    criteria.decide (track.upTo n) = .pass

/-- The first stage at which a track qualifies. -/
def FirstQualifies (criteria : Criteria K T) (track : Track K T)
    (n : Nat) : Prop :=
  criteria.Qualifies track n ∧ ∀ m < n, ¬ criteria.Qualifies track m

instance (criteria : Criteria K T) (track : Track K T) (n : Nat) :
    Decidable (criteria.Qualifies track n) :=
  inferInstanceAs (Decidable (_ ∧ _ ∧ _))

instance (criteria : Criteria K T) (track : Track K T) (n : Nat) :
    Decidable (criteria.FirstQualifies track n) :=
  inferInstanceAs (Decidable (_ ∧ _))

end Criteria

end DrivewayWatch
