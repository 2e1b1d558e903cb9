import DrivewayWatch.Proofs.Tracking.Growth
import DrivewayWatch.Tracking.Tracker

/-!
# What one detection does

A detection joins one of the tracks that are still waiting, or begins a track
behind all of them.  `step_cases` lists both cases with everything that comes
of them, so that the laws of whole runs need not look into the step again.
-/

namespace DrivewayWatch

namespace Tracker

theorem modify_append_cons_length {α : Type} (before after : List α)
    (element : α) (change : α → α) :
    (before ++ element :: after).modify before.length change =
      before ++ change element :: after := by
  induction before with
  | nil => rfl
  | cons first before ih => simp [ih]

variable {K T : Type} [Scalar K]

/-- A detection connects to a track if it overlaps the recent boxes of the
track more than is needed. -/
def Connects (settings : TrackerSettings K) (track : Track K T)
    (detection : Detection K T) : Prop :=
  neededOverlap settings track detection < overlapWith track detection

instance (settings : TrackerSettings K) (track : Track K T)
    (detection : Detection K T) :
    Decidable (Connects settings track detection) :=
  inferInstanceAs (Decidable (_ < _))

theorem better_of_not_connects {settings : TrackerSettings K}
    {detection : Detection K T} {track : Track K T}
    (apart : ¬ Connects settings track detection)
    (best : Option (Nat × K)) (place : Nat) :
    better settings detection best place track = best := by
  unfold Connects at apart
  simp [better, apart]

theorem better_none_of_connects {settings : TrackerSettings K}
    {detection : Detection K T} {track : Track K T}
    (connects : Connects settings track detection) (place : Nat) :
    better settings detection none place track =
      some (place, overlapWith track detection) := by
  unfold Connects at connects
  simp [better, connects]

theorem better_of_connects_of_lt {settings : TrackerSettings K}
    {detection : Detection K T} {track : Track K T}
    (connects : Connects settings track detection) {best : Nat × K}
    (more : best.2 < overlapWith track detection) (place : Nat) :
    better settings detection (some best) place track =
      some (place, overlapWith track detection) := by
  unfold Connects at connects
  simp [better, connects, more]

theorem better_of_not_lt {settings : TrackerSettings K}
    {detection : Detection K T} {track : Track K T} {best : Nat × K}
    (notMore : ¬ best.2 < overlapWith track detection) (place : Nat) :
    better settings detection (some best) place track = some best := by
  simp [better, notMore]

theorem better_cases (settings : TrackerSettings K)
    (detection : Detection K T) (best : Option (Nat × K)) (place : Nat)
    (track : Track K T) :
    better settings detection best place track = best ∨
      (Connects settings track detection ∧
        better settings detection best place track =
          some (place, overlapWith track detection)) := by
  by_cases connects : Connects settings track detection
  · simp only [better]
    split_ifs
    · exact Or.inr ⟨connects, rfl⟩
    · exact Or.inl rfl
  · exact Or.inl (better_of_not_connects connects best place)

theorem matchFrom_cases (settings : TrackerSettings K)
    (detection : Detection K T) (tracks : List (Track K T))
    (best : Option (Nat × K)) (place : Nat) :
    matchFrom settings detection best place tracks = best ∨
      ∃ before track after overlap,
        tracks = before ++ track :: after ∧
        Connects settings track detection ∧
        matchFrom settings detection best place tracks =
          some (place + before.length, overlap) := by
  induction tracks generalizing best place with
  | nil => exact Or.inl rfl
  | cons track tracks ih =>
      rw [matchFrom]
      rcases ih (better settings detection best place track) (place + 1) with
        kept | ⟨before, found, after, overlap, rfl, connects, matched⟩
      · rw [kept]
        rcases better_cases settings detection best place track with
          unchanged | ⟨connects, taken⟩
        · exact Or.inl unchanged
        · exact Or.inr ⟨[], track, tracks, _, rfl, connects, taken⟩
      · refine Or.inr ⟨track :: before, found, after, overlap, rfl,
          connects, ?_⟩
        rw [matched, List.length_cons, Nat.add_assoc, Nat.add_comm 1]

theorem matchFrom_eq_none_iff (settings : TrackerSettings K)
    (detection : Detection K T) (tracks : List (Track K T))
    (best : Option (Nat × K)) (place : Nat) :
    matchFrom settings detection best place tracks = none ↔
      best = none ∧ ∀ track ∈ tracks, ¬ Connects settings track detection := by
  induction tracks generalizing best place with
  | nil => simp [matchFrom]
  | cons track tracks ih =>
      rw [matchFrom, ih, List.forall_mem_cons, ← and_assoc]
      refine and_congr_left fun _ => ?_
      constructor
      · intro stillNone
        rcases better_cases settings detection best place track with
          unchanged | ⟨connects, taken⟩
        · have noneSoFar : best = none := unchanged ▸ stillNone
          subst noneSoFar
          refine ⟨rfl, fun connects => ?_⟩
          rw [better_none_of_connects connects] at stillNone
          exact absurd stillNone (by simp)
        · rw [taken] at stillNone
          exact absurd stillNone (by simp)
      · rintro ⟨rfl, apart⟩
        exact better_of_not_connects apart none place

theorem bestMatch?_eq_none_iff (settings : TrackerSettings K)
    (tracks : List (Track K T)) (detection : Detection K T) :
    bestMatch? settings tracks detection = none ↔
      ∀ track ∈ tracks, ¬ Connects settings track detection := by
  simp [bestMatch?, matchFrom_eq_none_iff]

theorem exists_split_of_bestMatch?_eq_some {settings : TrackerSettings K}
    {tracks : List (Track K T)} {detection : Detection K T} {place : Nat}
    (matched : bestMatch? settings tracks detection = some place) :
    ∃ before track after,
      tracks = before ++ track :: after ∧ before.length = place ∧
      Connects settings track detection := by
  rw [bestMatch?] at matched
  rcases matchFrom_cases settings detection tracks none 0 with
    unchanged | ⟨before, track, after, overlap, split, connects, found⟩
  · simp [unchanged] at matched
  · simp only [found, Option.map_some, Nat.zero_add,
      Option.some.injEq] at matched
    exact ⟨before, track, after, split, matched, connects⟩

variable [Timeline T]

/-- A track is waiting for a detection if the detection comes soon enough
after the last one of the track. -/
def IsWaiting (settings : TrackerSettings K) (detection : Detection K T)
    (track : Track K T) : Prop :=
  Timeline.since detection.time track.lastTime < settings.pruneAge

instance (settings : TrackerSettings K) (detection : Detection K T)
    (track : Track K T) : Decidable (IsWaiting settings detection track) :=
  inferInstanceAs (Decidable (_ < _))

theorem prune_eq_filter (settings : TrackerSettings K)
    (detection : Detection K T) (tracks : List (Track K T)) :
    prune settings.pruneAge detection tracks =
      tracks.filter (IsWaiting settings detection ·) :=
  rfl

/-- A detection sees only the tracks that are still waiting for it. -/
theorem step_congr_prune (settings : TrackerSettings K)
    (criteria : Criteria K T) (encode : Frame → Option Bytes)
    {first second : List (Track K T)} {detection : Detection K T}
    (sameKept : prune settings.pruneAge detection first =
      prune settings.pruneAge detection second) :
    step settings criteria encode first detection =
      step settings criteria encode second detection := by
  unfold step
  rw [sameKept]

/-- The track as it is kept after it has been looked at: marked if it is due
to be announced. -/
def settle (criteria : Criteria K T) (track : Track K T) : Track K T :=
  if isDue criteria track then track.notified else track

@[simp]
theorem detections_settle (criteria : Criteria K T) (track : Track K T) :
    (settle criteria track).detections = track.detections := by
  unfold settle
  split <;> rfl

@[simp]
theorem lastTime_settle (criteria : Criteria K T) (track : Track K T) :
    (settle criteria track).lastTime = track.lastTime := by
  unfold settle
  split <;> rfl

@[simp]
theorem first_settle (criteria : Criteria K T) (track : Track K T) :
    (settle criteria track).first = track.first := by
  unfold settle
  split <;> rfl

@[simp]
theorem rest_settle (criteria : Criteria K T) (track : Track K T) :
    (settle criteria track).rest = track.rest := by
  unfold settle
  split <;> rfl

@[simp]
theorem upTo_settle (criteria : Criteria K T) (track : Track K T) (n : Nat) :
    (settle criteria track).upTo n = track.upTo n := by
  unfold settle
  split <;> rfl

theorem isGrown_settle {track : Track K T} (grown : track.IsGrown)
    (criteria : Criteria K T) : (settle criteria track).IsGrown := by
  unfold settle
  split
  · exact grown.notified
  · exact grown

theorem isNotified_settle (criteria : Criteria K T) (track : Track K T) :
    (settle criteria track).isNotified =
      (track.isNotified || isDue criteria track) := by
  unfold settle
  split <;> simp_all [Track.notified]

/-- The announcement of a track if it is due. -/
def announcement? (criteria : Criteria K T) (encode : Frame → Option Bytes)
    (track : Track K T) : Option (Arrival T) :=
  if isDue criteria track then some (announce encode track) else none

/-- Whatever track a detection is put into, only that track is looked at. -/
theorem step_of_placed {settings : TrackerSettings K}
    {criteria : Criteria K T} {encode : Frame → Option Bytes}
    {tracks before after : List (Track K T)} {detection : Detection K T}
    {track : Track K T}
    (placed :
      Tracker.place (prune settings.pruneAge detection tracks) detection
        (bestMatch? settings (prune settings.pruneAge detection tracks)
          detection) = before ++ track :: after)
    (position :
      (bestMatch? settings (prune settings.pruneAge detection tracks)
        detection).getD (prune settings.pruneAge detection tracks).length =
        before.length) :
    (step settings criteria encode tracks detection).tracks =
        before ++ settle criteria track :: after ∧
      (step settings criteria encode tracks detection).arrival =
        announcement? criteria encode track := by
  by_cases due : isDue criteria track <;>
    simp [step, placed, position, settle, announcement?, due,
      modify_append_cons_length]

/-- What is counted for an arrival, if there is one. -/
def arrivalCounts (arrival : Option (Arrival T)) : List Counter :=
  arrival.toList.map fun arrival => .notificationTriggered arrival.classification

/-- A detection that begins a track is counted, and so is an arrival. -/
theorem counts_step (settings : TrackerSettings K) (criteria : Criteria K T)
    (encode : Frame → Option Bytes) (tracks : List (Track K T))
    (detection : Detection K T) :
    (step settings criteria encode tracks detection).counts =
      (if (bestMatch? settings (prune settings.pruneAge detection tracks)
          detection).isNone then
        [Counter.trackCreated detection.classification]
      else []) ++
        arrivalCounts
          (step settings criteria encode tracks detection).arrival := by
  cases matched : bestMatch? settings
    (prune settings.pruneAge detection tracks) detection
  all_goals
    simp only [step, matched]
    split
    · simp [arrivalCounts]
    · split <;> simp [arrivalCounts, announce]

theorem step_of_matched {settings : TrackerSettings K}
    (criteria : Criteria K T) (encode : Frame → Option Bytes)
    {tracks before after : List (Track K T)} {detection : Detection K T}
    {track : Track K T}
    (split : prune settings.pruneAge detection tracks =
      before ++ track :: after)
    (matched : bestMatch? settings (before ++ track :: after) detection =
      some before.length) :
    (step settings criteria encode tracks detection).tracks =
        before ++ settle criteria (track.append detection) :: after ∧
      (step settings criteria encode tracks detection).arrival =
        announcement? criteria encode (track.append detection) := by
  apply step_of_placed
  · rw [split, matched, Tracker.place, modify_append_cons_length]
  · rw [split, matched, Option.getD_some]

theorem step_of_unmatched {settings : TrackerSettings K}
    (criteria : Criteria K T) (encode : Frame → Option Bytes)
    {tracks : List (Track K T)} {detection : Detection K T}
    (unmatched : bestMatch? settings
      (prune settings.pruneAge detection tracks) detection = none) :
    (step settings criteria encode tracks detection).tracks =
        prune settings.pruneAge detection tracks ++
          [settle criteria (Track.start detection)] ∧
      (step settings criteria encode tracks detection).arrival =
        announcement? criteria encode (Track.start detection) := by
  apply step_of_placed
  · rw [unmatched, Tracker.place]
  · rw [unmatched, Option.getD_none]

/-- A detection either joins a waiting track that it connects to, or, if there
is no such track, begins a new one.  All other waiting tracks are kept as they
are, in their order. -/
theorem step_cases (settings : TrackerSettings K) (criteria : Criteria K T)
    (encode : Frame → Option Bytes) (tracks : List (Track K T))
    (detection : Detection K T) :
    (∃ before track after,
      prune settings.pruneAge detection tracks = before ++ track :: after ∧
      bestMatch? settings (prune settings.pruneAge detection tracks)
        detection = some before.length ∧
      Connects settings track detection ∧
      (step settings criteria encode tracks detection).tracks =
        before ++ settle criteria (track.append detection) :: after ∧
      (step settings criteria encode tracks detection).arrival =
        announcement? criteria encode (track.append detection)) ∨
    (bestMatch? settings (prune settings.pruneAge detection tracks)
        detection = none ∧
      (∀ track ∈ prune settings.pruneAge detection tracks,
        ¬ Connects settings track detection) ∧
      (step settings criteria encode tracks detection).tracks =
        prune settings.pruneAge detection tracks ++
          [settle criteria (Track.start detection)] ∧
      (step settings criteria encode tracks detection).arrival =
        announcement? criteria encode (Track.start detection)) := by
  cases matched : bestMatch? settings
      (prune settings.pruneAge detection tracks) detection with
  | some place =>
      obtain ⟨before, track, after, split, rfl, connects⟩ :=
        exists_split_of_bestMatch?_eq_some matched
      exact Or.inl ⟨before, track, after, split, rfl, connects,
        step_of_matched criteria encode split (split ▸ matched)⟩
  | none =>
      exact Or.inr ⟨rfl, (bestMatch?_eq_none_iff _ _ _).mp matched,
        step_of_unmatched criteria encode matched⟩

end Tracker

end DrivewayWatch
