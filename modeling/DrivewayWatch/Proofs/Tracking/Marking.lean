import DrivewayWatch.Proofs.Geometry.Sides
import DrivewayWatch.Proofs.Tracking.Matching

/-!
# Tracks on two sides

Tracks are marked with the side of a vertical line that their boxes lie on.  A
detection on one side acts on the tracks of that side as if there were no
others.  Of the tracks on the other side it removes those that have waited too
long, and leaves the rest as they are.
-/

namespace DrivewayWatch

/-- The elements that are marked with a side. -/
def ofSide {α : Type} (side : Side) (marked : List (Side × α)) : List α :=
  (marked.filter (·.1 = side)).map (·.2)

section OfSide

variable {α : Type} (side : Side) (first second marked : List (Side × α))

@[simp]
theorem ofSide_append :
    ofSide side (first ++ second) = ofSide side first ++ ofSide side second := by
  simp [ofSide]

@[simp]
theorem ofSide_cons_self (element : α) :
    ofSide side ((side, element) :: marked) = element :: ofSide side marked := by
  simp [ofSide]

theorem ofSide_cons_of_ne {side other : Side} (differ : other ≠ side)
    (element : α) :
    ofSide side ((other, element) :: marked) = ofSide side marked := by
  simp [ofSide, differ]

theorem ofSide_subset : ofSide side marked ⊆ marked.map (·.2) := by
  intro element member
  obtain ⟨entry, inFilter, rfl⟩ := List.mem_map.mp member
  exact List.mem_map_of_mem (List.mem_filter.mp inFilter).1

theorem mem_ofSide {side : Side} {marked : List (Side × α)} {element : α} :
    element ∈ ofSide side marked ↔ (side, element) ∈ marked := by
  simp [ofSide]

theorem ofSide_filter (keep : α → Bool) :
    ofSide side (marked.filter (keep ·.2)) =
      (ofSide side marked).filter keep := by
  simp only [ofSide, List.filter_map, List.filter_filter, Function.comp_def,
    Bool.and_comm]

end OfSide

namespace Track

variable {T : Type}

theorem holds_lastTwoAverage {line : Rat} {side : Side} (first : Box Rat)
    (boxes : List (Box Rat)) (firstHolds : side.Holds line first)
    (othersHold : ∀ box ∈ boxes, side.Holds line box) :
    side.Holds line (lastTwoAverage first boxes) := by
  fun_induction lastTwoAverage first boxes with
  | case1 first => exact firstHolds
  | case2 first second =>
      exact Box.holds_average firstHolds (othersHold second (by simp))
  | case3 first second third others ih =>
      obtain ⟨secondHolds, restHold⟩ := List.forall_mem_cons.mp othersHold
      exact ih secondHolds restHold

/-- A track stays on a side of the line if all its boxes lie there. -/
def StaysOn (line : Rat) (side : Side) (track : Track Rat T) : Prop :=
  ∀ detection ∈ track.detections, side.Holds line detection.box

theorem StaysOn.recentBox {line : Rat} {side : Side} {track : Track Rat T}
    (stays : track.StaysOn line side) : side.Holds line track.recentBox := by
  refine holds_lastTwoAverage _ _ (stays track.first List.mem_cons_self) ?_
  intro box member
  obtain ⟨detection, inRest, rfl⟩ := List.mem_map.mp member
  exact stays detection (List.mem_cons_of_mem _ inRest)

theorem StaysOn.append {line : Rat} {side : Side} {track : Track Rat T}
    (stays : track.StaysOn line side) {detection : Detection Rat T}
    (holds : side.Holds line detection.box) :
    (track.append detection).StaysOn line side :=
  forall_mem_detections_append stays holds

theorem StaysOn.settle {line : Rat} {side : Side} {track : Track Rat T}
    [Timeline T] (stays : track.StaysOn line side)
    (criteria : Criteria Rat T) :
    (Tracker.settle criteria track).StaysOn line side := by
  rwa [StaysOn, Tracker.detections_settle]

theorem staysOn_start {line : Rat} {side : Side}
    {detection : Detection Rat T} (holds : side.Holds line detection.box) :
    (start detection).StaysOn line side :=
  forall_mem_detections_start holds

end Track

namespace Tracker

variable {T : Type}

/-- No detection connects to a track on the other side. -/
theorem not_connects_of_sides {settings : TrackerSettings Rat}
    (threshold : 0 ≤ settings.minOverlap) {line : Rat}
    {trackSide side : Side} (differ : trackSide ≠ side)
    {track : Track Rat T} (stays : track.StaysOn line trackSide)
    {detection : Detection Rat T} (holds : side.Holds line detection.box) :
    ¬ Connects settings track detection := by
  have noOverlap : overlapWith track detection = 0 :=
    Box.overlap_eq_zero_of_sides differ stays.recentBox holds
  have needed : 0 ≤ neededOverlap settings track detection := by
    unfold neededOverlap
    split
    · exact threshold
    · exact mul_nonneg threshold (by change (0 : Rat) ≤ (3 : Nat) / (2 : Nat); norm_num)
  unfold Connects
  rw [noOverlap]
  exact not_lt_of_ge needed

variable [Timeline T]

/-- The marked tracks that are waiting for a detection. -/
def stillWaiting (settings : TrackerSettings Rat)
    (detection : Detection Rat T) (marked : List (Side × Track Rat T)) :
    List (Side × Track Rat T) :=
  marked.filter (IsWaiting settings detection ·.2)

section StillWaiting

variable (settings : TrackerSettings Rat) (detection : Detection Rat T)
  (marked : List (Side × Track Rat T))

theorem stillWaiting_subset :
    stillWaiting settings detection marked ⊆ marked :=
  List.filter_sublist.subset

theorem prune_ofSide (side : Side) :
    prune settings.pruneAge detection (ofSide side marked) =
      ofSide side (stillWaiting settings detection marked) :=
  (ofSide_filter side marked (IsWaiting settings detection ·)).symm

theorem prune_map_snd :
    prune settings.pruneAge detection (marked.map (·.2)) =
      (stillWaiting settings detection marked).map (·.2) := by
  rw [prune_eq_filter, List.filter_map]
  rfl

end StillWaiting

/-- How marked tracks go on when a detection arrives on a side: the tracks of
that side as if there were no others, and those of the other side as if there
were no detection, but that the ones that have waited too long are gone. -/
structure GoesOn (settings : TrackerSettings Rat) (criteria : Criteria Rat T)
    (encode : Frame → Option Bytes) (line : Rat)
    (marked : List (Side × Track Rat T)) (side : Side)
    (detection : Detection Rat T) (next : List (Side × Track Rat T)) :
    Prop where
  tracks : (step settings criteria encode (marked.map (·.2))
    detection).tracks = next.map (·.2)
  arises : ∀ entry ∈ next, entry ∈ marked ∨
    (entry.2.StaysOn line entry.1 ∧ entry.2.lastTime = detection.time)
  sameSide : (step settings criteria encode (ofSide side marked)
    detection).tracks = ofSide side next
  arrival : (step settings criteria encode (marked.map (·.2))
      detection).arrival =
    (step settings criteria encode (ofSide side marked) detection).arrival
  otherSide : ∀ other, other ≠ side → ofSide other next =
    prune settings.pruneAge detection (ofSide other marked)

section GoesOn

variable {settings : TrackerSettings Rat} (criteria : Criteria Rat T)
  (encode : Frame → Option Bytes) {line : Rat}
  {marked : List (Side × Track Rat T)} {side : Side}
  {detection : Detection Rat T}

theorem goesOn_of_unmatched (holds : side.Holds line detection.box)
    (apart : ∀ track ∈ (stillWaiting settings detection marked).map (·.2),
      ¬ Connects settings track detection) :
    GoesOn settings criteria encode line marked side detection
      (stillWaiting settings detection marked ++
        [(side, settle criteria (Track.start detection))]) := by
  have unmatched : bestMatch? settings
      (prune settings.pruneAge detection (marked.map (·.2))) detection =
        none := by
    rw [bestMatch?_eq_none_iff, prune_map_snd]
    exact apart
  have unmatchedOnSide : bestMatch? settings
      (prune settings.pruneAge detection (ofSide side marked)) detection =
        none := by
    rw [bestMatch?_eq_none_iff, prune_ofSide]
    intro track member
    exact apart track (ofSide_subset _ _ member)
  obtain ⟨allTracks, allArrival⟩ :=
    step_of_unmatched criteria encode unmatched
  obtain ⟨sideTracks, sideArrival⟩ :=
    step_of_unmatched criteria encode unmatchedOnSide
  refine ⟨?_, ?_, ?_, allArrival.trans sideArrival.symm, ?_⟩
  · rw [allTracks, prune_map_snd, List.map_append]
    rfl
  · intro entry member
    rcases List.mem_append.mp member with waiting | isNew
    · exact Or.inl (stillWaiting_subset _ _ _ waiting)
    · obtain rfl := List.mem_singleton.mp isNew
      exact Or.inr ⟨(Track.staysOn_start holds).settle criteria, by simp⟩
  · rw [sideTracks, prune_ofSide, ofSide_append, ofSide_cons_self]
    rfl
  · intro other differ
    rw [prune_ofSide, ofSide_append, ofSide_cons_of_ne _ differ.symm]
    exact List.append_nil _

theorem goesOn_of_matched (holds : side.Holds line detection.box)
    {before after : List (Side × Track Rat T)} {track : Track Rat T}
    (split : stillWaiting settings detection marked =
      before ++ (side, track) :: after)
    (stays : track.StaysOn line side)
    (isBest : IsBest settings detection (before.map (·.2)) track
      (after.map (·.2))) :
    GoesOn settings criteria encode line marked side detection
      (before ++ (side, settle criteria (track.append detection)) ::
        after) := by
  have isBestOnSide : IsBest settings detection (ofSide side before) track
      (ofSide side after) :=
    isBest.mono (ofSide_subset _ _) (ofSide_subset _ _)
  have kept : prune settings.pruneAge detection (marked.map (·.2)) =
      before.map (·.2) ++ track :: after.map (·.2) := by
    rw [prune_map_snd, split, List.map_append, List.map_cons]
  have keptOnSide : prune settings.pruneAge detection (ofSide side marked) =
      ofSide side before ++ track :: ofSide side after := by
    rw [prune_ofSide, split, ofSide_append, ofSide_cons_self]
  obtain ⟨allTracks, allArrival⟩ :=
    step_of_matched criteria encode kept isBest.bestMatch?_eq
  obtain ⟨sideTracks, sideArrival⟩ :=
    step_of_matched criteria encode keptOnSide isBestOnSide.bestMatch?_eq
  have waitingInMarked : ∀ entry ∈ before ++ (side, track) :: after,
      entry ∈ marked := by
    intro entry member
    exact stillWaiting_subset settings detection marked (split ▸ member)
  refine ⟨?_, ?_, ?_, allArrival.trans sideArrival.symm, ?_⟩
  · rw [allTracks, List.map_append, List.map_cons]
  · intro entry member
    rcases List.mem_append.mp member with inBefore | later
    · exact Or.inl (waitingInMarked entry (List.mem_append_left _ inBefore))
    · rcases List.mem_cons.mp later with rfl | inAfter
      · exact Or.inr ⟨(stays.append holds).settle criteria, by simp⟩
      · exact Or.inl (waitingInMarked entry
          (List.mem_append_right _ (List.mem_cons_of_mem _ inAfter)))
  · rw [sideTracks, ofSide_append, ofSide_cons_self]
  · intro other differ
    rw [prune_ofSide, split, ofSide_append, ofSide_append,
      ofSide_cons_of_ne _ differ.symm, ofSide_cons_of_ne _ differ.symm]

/-- Tracks that stay on the two sides go on without regard to each other. -/
theorem exists_goesOn (threshold : 0 ≤ settings.minOverlap)
    (stay : ∀ entry ∈ marked, entry.2.StaysOn line entry.1)
    (holds : side.Holds line detection.box) :
    ∃ next, GoesOn settings criteria encode line marked side detection
      next := by
  rcases bestMatch?_cases settings detection
      ((stillWaiting settings detection marked).map (·.2)) with
    ⟨-, apart⟩ | ⟨before, track, after, split, isBest, -⟩
  · exact ⟨_, goesOn_of_unmatched criteria encode holds apart⟩
  · obtain ⟨markedBefore, markedRest, markedSplit, rfl, restSplit⟩ :=
      List.map_eq_append_iff.mp split
    obtain ⟨⟨trackSide, track⟩, markedAfter, rfl, rfl, rfl⟩ :=
      List.map_eq_cons_iff.mp restSplit
    have stays : track.StaysOn line trackSide := by
      refine stay (trackSide, track)
        (stillWaiting_subset settings detection marked ?_)
      rw [markedSplit]
      exact List.mem_append_right _ List.mem_cons_self
    -- A track that the detection connects to is on its side.
    obtain rfl : trackSide = side := by
      by_contra differ
      exact not_connects_of_sides threshold differ stays holds
        isBest.connects
    exact ⟨_, goesOn_of_matched criteria encode holds markedSplit stays
      isBest⟩

end GoesOn

end Tracker

end DrivewayWatch
