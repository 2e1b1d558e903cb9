import DrivewayWatch.Proofs.Number.Rational
import DrivewayWatch.Proofs.Tracking.Step

/-!
# The best match

Over exact numbers the best match is the first of the greatest: no track that
the detection connects to overlaps more, and those before it overlap less.  This
determines the best match, and leaving out other tracks does not change it.
-/

namespace DrivewayWatch

namespace Tracker

variable {T : Type} (settings : TrackerSettings Rat)
  (detection : Detection Rat T)

/-- A track is best among the tracks before and after it if the detection
connects to it, and of the others that it connects to, those before overlap
less and those after do not overlap more. -/
structure IsBest (before : List (Track Rat T)) (track : Track Rat T)
    (after : List (Track Rat T)) : Prop where
  connects : Connects settings track detection
  exceeds : ∀ other ∈ before, Connects settings other detection →
    overlapWith other detection < overlapWith track detection
  notExceeded : ∀ other ∈ after, Connects settings other detection →
    overlapWith other detection ≤ overlapWith track detection

/-- The place and the overlap of the best track among those that were passed, or
nothing if the detection connects to none of them. -/
def IsBestOf (passed : List (Track Rat T)) : Option (Nat × Rat) → Prop
  | none => ∀ track ∈ passed, ¬ Connects settings track detection
  | some (place, overlap) => ∃ before track after,
      passed = before ++ track :: after ∧
      IsBest settings detection before track after ∧
      place = before.length ∧ overlap = overlapWith track detection

variable {settings detection}

theorem neededOverlap_rational (track : Track Rat T) :
    neededOverlap settings track detection =
      if track.classification = detection.classification then
        settings.minOverlap
      else settings.minOverlap * (3 / 2) :=
  rfl

theorem IsBest.le {before after : List (Track Rat T)}
    {track other : Track Rat T}
    (isBest : IsBest settings detection before track after)
    (member : other ∈ before ++ track :: after)
    (connects : Connects settings other detection) :
    overlapWith other detection ≤ overlapWith track detection := by
  rcases List.mem_append.mp member with inBefore | others
  · exact (isBest.exceeds other inBefore connects).le
  rcases List.mem_cons.mp others with rfl | inAfter
  · exact le_rfl
  · exact isBest.notExceeded other inAfter connects

/-- The best track stays the best before one more that does not surpass it. -/
theorem IsBest.concat {before after : List (Track Rat T)}
    {track next : Track Rat T}
    (isBest : IsBest settings detection before track after)
    (notMore : Connects settings next detection →
      overlapWith next detection ≤ overlapWith track detection) :
    IsBest settings detection before track (after ++ [next]) where
  connects := isBest.connects
  exceeds := isBest.exceeds
  notExceeded := by
    intro other member connects
    rcases List.mem_append.mp member with inAfter | isNext
    · exact isBest.notExceeded other inAfter connects
    · obtain rfl := List.mem_singleton.mp isNext
      exact notMore connects

/-- One more track is passed: it becomes the best one if the detection connects
to it and overlaps it more than the best one so far. -/
theorem IsBestOf.better {passed : List (Track Rat T)}
    {best : Option (Nat × Rat)}
    (isBestOf : IsBestOf settings detection passed best)
    (track : Track Rat T) :
    IsBestOf settings detection (passed ++ [track])
      (better settings detection best passed.length track) := by
  by_cases connects : Connects settings track detection
  · cases best with
    | none =>
        rw [better_none_of_connects connects]
        refine ⟨passed, track, [], rfl, ⟨connects, ?_, by simp⟩, rfl, rfl⟩
        intro other member otherConnects
        exact absurd otherConnects (isBestOf other member)
    | some soFar =>
        obtain ⟨before, leader, after, rfl, isBest, isPlace, isOverlap⟩ :=
          isBestOf
        by_cases more : soFar.2 < overlapWith track detection
        · have surpassed : overlapWith leader detection <
              overlapWith track detection := isOverlap ▸ more
          rw [better_of_connects_of_lt connects more]
          refine ⟨_, track, [], rfl, ⟨connects, ?_, by simp⟩, rfl, rfl⟩
          intro other member otherConnects
          exact (isBest.le member otherConnects).trans_lt surpassed
        · have notSurpassed : overlapWith track detection ≤
              overlapWith leader detection := isOverlap ▸ le_of_not_gt more
          rw [better_of_not_lt more]
          exact ⟨before, leader, after ++ [track], by simp,
            isBest.concat fun _ => notSurpassed, isPlace, isOverlap⟩
  · rw [better_of_not_connects connects]
    cases best with
    | none =>
        intro other member
        rcases List.mem_append.mp member with inPassed | isTrack
        · exact isBestOf other inPassed
        · rwa [List.mem_singleton.mp isTrack]
    | some soFar =>
        obtain ⟨before, leader, after, rfl, isBest, isPlace, isOverlap⟩ :=
          isBestOf
        exact ⟨before, leader, after ++ [track], by simp,
          isBest.concat fun joins => absurd joins connects, isPlace, isOverlap⟩

theorem IsBestOf.matchFrom {passed : List (Track Rat T)}
    {best : Option (Nat × Rat)}
    (isBestOf : IsBestOf settings detection passed best)
    (tracks : List (Track Rat T)) :
    IsBestOf settings detection (passed ++ tracks)
      (matchFrom settings detection best passed.length tracks) := by
  induction tracks generalizing passed best with
  | nil => simpa [Tracker.matchFrom] using isBestOf
  | cons track tracks ih =>
      have goesOn := ih (isBestOf.better track)
      rw [List.length_append, List.length_singleton] at goesOn
      rw [Tracker.matchFrom, List.append_cons]
      exact goesOn

variable (settings detection)

theorem bestMatch?_cases (tracks : List (Track Rat T)) :
    (bestMatch? settings tracks detection = none ∧
      ∀ track ∈ tracks, ¬ Connects settings track detection) ∨
    ∃ before track after,
      tracks = before ++ track :: after ∧
      IsBest settings detection before track after ∧
      bestMatch? settings tracks detection = some before.length := by
  have noneSoFar : IsBestOf settings detection [] none := by simp [IsBestOf]
  have found := noneSoFar.matchFrom tracks
  rw [List.nil_append, List.length_nil] at found
  unfold bestMatch?
  cases matched : matchFrom settings detection none 0 tracks with
  | none =>
      rw [matched] at found
      exact Or.inl ⟨rfl, found⟩
  | some best =>
      rw [matched] at found
      obtain ⟨before, track, after, split, isBest, isPlace, -⟩ := found
      exact Or.inr ⟨before, track, after, split, isBest, by
        rw [Option.map_some, isPlace]⟩

variable {settings detection}

theorem IsBest.not_isBest_later {before between after : List (Track Rat T)}
    {track later : Track Rat T}
    (isBest : IsBest settings detection before track
      (between ++ later :: after)) :
    ¬ IsBest settings detection (before ++ track :: between) later after := by
  intro laterIsBest
  have notMore : overlapWith later detection ≤ overlapWith track detection :=
    isBest.notExceeded later (List.mem_append_right _ List.mem_cons_self)
      laterIsBest.connects
  have less : overlapWith track detection < overlapWith later detection :=
    laterIsBest.exceeds track (List.mem_append_right _ List.mem_cons_self)
      isBest.connects
  exact absurd less (not_lt_of_ge notMore)

/-- A list has at most one best track. -/
theorem IsBest.before_eq {before before' after after' : List (Track Rat T)}
    {track track' : Track Rat T}
    (isBest : IsBest settings detection before track after)
    (isBest' : IsBest settings detection before' track' after')
    (sameList : before ++ track :: after = before' ++ track' :: after') :
    before = before' := by
  rcases List.append_eq_append_iff.mp sameList with
    ⟨between, rfl, others⟩ | ⟨between, rfl, others⟩
  · cases between with
    | nil => simp
    | cons first between =>
        simp only [List.cons_append, List.cons.injEq] at others
        obtain ⟨rfl, rfl⟩ := others
        exact absurd isBest' isBest.not_isBest_later
  · cases between with
    | nil => simp
    | cons first between =>
        simp only [List.cons_append, List.cons.injEq] at others
        obtain ⟨rfl, rfl⟩ := others
        exact absurd isBest isBest'.not_isBest_later

theorem IsBest.bestMatch?_eq {before after : List (Track Rat T)}
    {track : Track Rat T}
    (isBest : IsBest settings detection before track after) :
    bestMatch? settings (before ++ track :: after) detection =
      some before.length := by
  rcases bestMatch?_cases settings detection (before ++ track :: after) with
    ⟨-, apart⟩ | ⟨before', track', after', sameList, isBest', matched⟩
  · exact absurd isBest.connects
      (apart track (List.mem_append_right _ List.mem_cons_self))
  · rw [matched, isBest.before_eq isBest' sameList]

theorem IsBest.mono {before fewerBefore after fewerAfter :
    List (Track Rat T)} {track : Track Rat T}
    (isBest : IsBest settings detection before track after)
    (subsetBefore : fewerBefore ⊆ before) (subsetAfter : fewerAfter ⊆ after) :
    IsBest settings detection fewerBefore track fewerAfter where
  connects := isBest.connects
  exceeds := fun other member => isBest.exceeds other (subsetBefore member)
  notExceeded := fun other member =>
    isBest.notExceeded other (subsetAfter member)

variable (settings detection)

/-- The track that a detection joins. -/
def matched? (tracks : List (Track Rat T)) : Option (Track Rat T) :=
  (bestMatch? settings tracks detection).bind (tracks[·]?)

variable {settings detection}

theorem IsBest.matched?_eq {before after : List (Track Rat T)}
    {track : Track Rat T}
    (isBest : IsBest settings detection before track after) :
    matched? settings detection (before ++ track :: after) = some track := by
  rw [matched?, isBest.bestMatch?_eq, Option.bind_some,
    List.getElem?_append_right le_rfl]
  simp

variable (settings detection)

/-- The tracks that a detection does not connect to have no say in which track
it joins. -/
theorem matched?_filter_connects (tracks : List (Track Rat T)) :
    matched? settings detection
        (tracks.filter (Connects settings · detection)) =
      matched? settings detection tracks := by
  rcases bestMatch?_cases settings detection tracks with
    ⟨unmatched, apart⟩ | ⟨before, track, after, rfl, isBest, -⟩
  · have noneLeft : tracks.filter (Connects settings · detection) = [] := by
      simpa [List.filter_eq_nil_iff] using apart
    rw [noneLeft, matched?, matched?, unmatched]
    rfl
  · have stillBest : IsBest settings detection
        (before.filter (Connects settings · detection)) track
        (after.filter (Connects settings · detection)) :=
      isBest.mono List.filter_sublist.subset List.filter_sublist.subset
    rw [List.filter_append, List.filter_cons_of_pos (by simp [isBest.connects]),
      stillBest.matched?_eq, isBest.matched?_eq]

/-- A detection connects to a track that it overlaps more than the minimum, half
as much again if the classifications differ.  It joins no track exactly if it
connects to none.  Else it joins the first of those that it overlaps most among
the tracks that it connects to: it connects to this track, overlaps those before
it less and those behind it no more, as far as it connects to them, and there is
only one such place.  The tracks that it does not connect to change nothing,
however much it overlaps them. -/
theorem best_match_is_first_greatest (tracks : List (Track Rat T)) :
    (∀ track : Track Rat T, Connects settings track detection ↔
      (if track.classification = detection.classification then
        settings.minOverlap
      else settings.minOverlap * (3 / 2)) <
        track.recentBox.overlap detection.box) ∧
    (bestMatch? settings tracks detection = none ↔
      ∀ track ∈ tracks, ¬ Connects settings track detection) ∧
    (∀ place, bestMatch? settings tracks detection = some place ↔
      ∃ before track after,
        tracks = before ++ track :: after ∧ before.length = place ∧
        IsBest settings detection before track after) ∧
    matched? settings detection
        (tracks.filter (Connects settings · detection)) =
      matched? settings detection tracks := by
  refine ⟨?_, bestMatch?_eq_none_iff settings tracks detection, ?_,
    matched?_filter_connects settings detection tracks⟩
  · intro track
    rw [Connects, neededOverlap_rational]
    rfl
  intro place
  constructor
  · intro matched
    rcases bestMatch?_cases settings detection tracks with
      ⟨unmatched, -⟩ | ⟨before, track, after, split, isBest, found⟩
    · rw [unmatched] at matched
      cases matched
    · rw [found, Option.some.injEq] at matched
      exact ⟨before, track, after, split, matched, isBest⟩
  · rintro ⟨before, track, after, rfl, rfl, isBest⟩
    exact isBest.bestMatch?_eq

end Tracker

end DrivewayWatch
