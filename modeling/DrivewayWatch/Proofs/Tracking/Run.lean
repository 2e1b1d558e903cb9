import DrivewayWatch.Proofs.Tracking.Step

/-!
# Runs of the tracker

The live tracks after a sequence of detections, and the outcome of the
detection at a place of the sequence: it is what one step makes of the tracks
that the detections before it have left.
-/

namespace DrivewayWatch

namespace Tracker

/-- A car that stands in one place. -/
def parkedCar {T : Type} (id : String) (time : T) : Detection Float T :=
  ⟨id, time, 1, "car", true, Box.ofCorners 0.25 0.25 0.5 0.5, ⟨4, 4, []⟩⟩

/-- A car that is seen three times within a second. -/
def threeSights : List (Detection Float Instant) :=
  [parkedCar "e0" ⟨0, 0⟩, parkedCar "e1" ⟨0, 500000000⟩,
    parkedCar "e2" ⟨1, 0⟩]

/-- Detections are in order if none has an earlier time than one before it. -/
def InOrder {K T : Type} [Timeline T] (detections : List (Detection K T)) :
    Prop :=
  detections.Pairwise fun earlier later => ¬ later.time < earlier.time

variable {K T : Type} [Scalar K] [Timeline T]

/-- The live tracks after a sequence of detections. -/
def tracksAfter (settings : TrackerSettings K) (criteria : Criteria K T)
    (encode : Frame → Option Bytes) (tracks : List (Track K T))
    (detections : List (Detection K T)) : List (Track K T) :=
  detections.foldl
    (fun tracks detection =>
      (step settings criteria encode tracks detection).tracks) tracks

/-- The announcements of a run in their order. -/
def arrivals (outcomes : List (Outcome K T)) : List (Arrival T) :=
  outcomes.filterMap (·.arrival)

omit [Scalar K] [Timeline T] in
theorem arrivals_cons (outcome : Outcome K T)
    (outcomes : List (Outcome K T)) :
    arrivals (outcome :: outcomes) =
      outcome.arrival.toList ++ arrivals outcomes := by
  cases found : outcome.arrival <;> simp [arrivals, found]

variable (settings : TrackerSettings K) (criteria : Criteria K T)
  (encode : Frame → Option Bytes)

@[simp]
theorem tracksAfter_nil (tracks : List (Track K T)) :
    tracksAfter settings criteria encode tracks [] = tracks :=
  rfl

theorem tracksAfter_cons (tracks : List (Track K T))
    (detection : Detection K T) (others : List (Detection K T)) :
    tracksAfter settings criteria encode tracks (detection :: others) =
      tracksAfter settings criteria encode
        (step settings criteria encode tracks detection).tracks others :=
  rfl

theorem tracksAfter_append (tracks : List (Track K T))
    (first second : List (Detection K T)) :
    tracksAfter settings criteria encode tracks (first ++ second) =
      tracksAfter settings criteria encode
        (tracksAfter settings criteria encode tracks first) second :=
  List.foldl_append

theorem tracksAfter_concat (tracks : List (Track K T))
    (detections : List (Detection K T)) (detection : Detection K T) :
    tracksAfter settings criteria encode tracks (detections ++ [detection]) =
      (step settings criteria encode
        (tracksAfter settings criteria encode tracks detections)
        detection).tracks := by
  rw [tracksAfter_append, tracksAfter_cons, tracksAfter_nil]

theorem run_append (tracks : List (Track K T))
    (first second : List (Detection K T)) :
    run settings criteria encode tracks (first ++ second) =
      run settings criteria encode tracks first ++
        run settings criteria encode
          (tracksAfter settings criteria encode tracks first) second := by
  induction first generalizing tracks with
  | nil => rfl
  | cons detection first ih =>
      simp only [List.cons_append, run, ih, tracksAfter_cons]

@[simp]
theorem length_run (tracks : List (Track K T))
    (detections : List (Detection K T)) :
    (run settings criteria encode tracks detections).length =
      detections.length := by
  induction detections generalizing tracks with
  | nil => rfl
  | cons detection detections ih => simp [run, ih]

theorem getElem?_run (tracks : List (Track K T))
    (detections : List (Detection K T)) (place : Nat) :
    (run settings criteria encode tracks detections)[place]? =
      detections[place]?.map
        (step settings criteria encode
          (tracksAfter settings criteria encode tracks
            (detections.take place))) := by
  induction detections generalizing tracks place with
  | nil => rfl
  | cons detection detections ih =>
      cases place with
      | zero => rfl
      | succ place =>
          simp only [run, List.getElem?_cons_succ, List.take_succ_cons,
            tracksAfter_cons, ih]

theorem getElem?_run_append_left (tracks : List (Track K T))
    {first : List (Detection K T)} (second : List (Detection K T))
    {place : Nat} (inside : place < first.length) :
    (run settings criteria encode tracks (first ++ second))[place]? =
      (run settings criteria encode tracks first)[place]? := by
  rw [run_append, List.getElem?_append_left (by simpa using inside)]

theorem getElem?_run_concat_length (tracks : List (Track K T))
    (detections : List (Detection K T)) (detection : Detection K T) :
    (run settings criteria encode tracks
        (detections ++ [detection]))[detections.length]? =
      some (step settings criteria encode
        (tracksAfter settings criteria encode tracks detections)
        detection) := by
  rw [getElem?_run]
  simp

theorem exists_announce_of_step {tracks : List (Track K T)}
    {detection : Detection K T} {arrival : Arrival T}
    (arrived : (step settings criteria encode tracks detection).arrival =
      some arrival) : ∃ track : Track K T, announce encode track = arrival := by
  obtain ⟨track, announced⟩ : ∃ track,
      (step settings criteria encode tracks detection).arrival =
        announcement? criteria encode track := by
    rcases step_cases settings criteria encode tracks detection with
      ⟨_, track, _, -, -, -, -, announced⟩ | ⟨-, -, -, announced⟩
    · exact ⟨track.append detection, announced⟩
    · exact ⟨Track.start detection, announced⟩
  rw [announced, announcement?, Option.ite_none_right_eq_some,
    Option.some.injEq] at arrived
  exact ⟨track, arrived.2⟩

/-- All that a run announces are tracks. -/
theorem exists_announce_of_mem_arrivals {arrival : Arrival T}
    {tracks : List (Track K T)} {detections : List (Detection K T)}
    (member : arrival ∈
      arrivals (run settings criteria encode tracks detections)) :
    ∃ track : Track K T, announce encode track = arrival := by
  induction detections generalizing tracks with
  | nil => cases member
  | cons detection others ih =>
      rw [run, arrivals_cons, List.mem_append, Option.mem_toList] at member
      rcases member with first | later
      · exact exists_announce_of_step settings criteria encode first
      · exact ih later

end Tracker

end DrivewayWatch
