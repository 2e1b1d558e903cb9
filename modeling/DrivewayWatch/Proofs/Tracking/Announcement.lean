import DrivewayWatch.Proofs.Tracking.Partition

/-!
# When tracks are announced

A track is announced at the first of its stages that qualifies, and never
again.  The mark of the announcement tells whether there has been such a stage,
and this one bit is all that the tracker remembers of the stages before.
-/

namespace DrivewayWatch

namespace Criteria

variable {K T : Type} [Scalar K] [Timeline T] (criteria : Criteria K T)

theorem qualifies_append_of_le {track : Track K T} {n : Nat}
    (reached : n ≤ track.rest.length) (detection : Detection K T) :
    criteria.Qualifies (track.append detection) n ↔
      criteria.Qualifies track n := by
  unfold Qualifies
  rw [Track.upTo_append_of_le reached]
  have stillReached : n ≤ (track.append detection).rest.length := by
    simp only [Track.append, List.length_append, List.length_singleton]
    omega
  simp [reached, stillReached]

@[simp]
theorem qualifies_settle (track : Track K T) (n : Nat) :
    criteria.Qualifies (Tracker.settle criteria track) n ↔
      criteria.Qualifies track n := by
  simp [Qualifies]

@[simp]
theorem firstQualifies_settle (track : Track K T) (n : Nat) :
    criteria.FirstQualifies (Tracker.settle criteria track) n ↔
      criteria.FirstQualifies track n := by
  simp [FirstQualifies]

theorem firstQualifies_append_of_le {track : Track K T} {n : Nat}
    (reached : n ≤ track.rest.length) (detection : Detection K T) :
    criteria.FirstQualifies (track.append detection) n ↔
      criteria.FirstQualifies track n := by
  unfold FirstQualifies
  refine and_congr (criteria.qualifies_append_of_le reached detection) ?_
  refine forall₂_congr fun m below => ?_
  rw [criteria.qualifies_append_of_le (by omega) detection]

theorem FirstQualifies.unique {criteria : Criteria K T} {track : Track K T}
    {first second : Nat} (isFirst : criteria.FirstQualifies track first)
    (isSecond : criteria.FirstQualifies track second) : first = second := by
  rcases Nat.lt_trichotomy first second with before | same | after
  · exact absurd isFirst.1 (isSecond.2 first before)
  · exact same
  · exact absurd isSecond.1 (isFirst.2 second after)

end Criteria

namespace Tracker

variable {K T : Type} [Scalar K] [Timeline T] {criteria : Criteria K T}

/-- A grown track is due if its last stage qualifies and no mark says that an
earlier one did. -/
theorem isDue_iff {track : Track K T} (grown : track.IsGrown) :
    isDue criteria track = true ↔
      criteria.Qualifies track track.rest.length ∧
        track.isNotified = false := by
  have confirmed :
      (track.upTo track.rest.length).isConfirmed = track.isConfirmed := by
    rw [← grown]
    rfl
  have decided : criteria.decide (track.upTo track.rest.length) =
      criteria.decide track := by
    rw [← grown, Criteria.decide_unmarked]
  simp only [isDue, Criteria.Qualifies, confirmed, decided, Bool.and_eq_true,
    Bool.not_eq_true', beq_iff_eq, Nat.le_refl, true_and]
  tauto

omit [Timeline T] in
theorem announce_upTo_length {track : Track K T} (grown : track.IsGrown)
    (encode : Frame → Option Bytes) :
    announce encode (track.upTo track.rest.length) =
      announce encode track := by
  rw [← grown]
  rfl

/-- The mark tells whether the track has qualified before its last stage. -/
def IsMarkedBefore (criteria : Criteria K T) (track : Track K T) : Prop :=
  track.isNotified = true ↔
    ∃ n < track.rest.length, criteria.Qualifies track n

/-- The mark tells whether the track has qualified at any of its stages. -/
def IsMarked (criteria : Criteria K T) (track : Track K T) : Prop :=
  track.isNotified = true ↔ ∃ n, criteria.Qualifies track n

theorem isMarkedBefore_start (detection : Detection K T) :
    IsMarkedBefore criteria (Track.start detection) := by
  simp [IsMarkedBefore, Track.start]

theorem isMarkedBefore_append {track : Track K T}
    (marked : IsMarked criteria track) (detection : Detection K T) :
    IsMarkedBefore criteria (track.append detection) := by
  have restLength :
      (track.append detection).rest.length = track.rest.length + 1 := by
    simp [Track.append]
  unfold IsMarkedBefore
  rw [restLength]
  refine marked.trans ⟨?_, ?_⟩
  · rintro ⟨n, qualifies⟩
    exact ⟨n, Nat.lt_succ_of_le qualifies.1,
      (criteria.qualifies_append_of_le qualifies.1 detection).mpr qualifies⟩
  · rintro ⟨n, below, qualifies⟩
    exact ⟨n, (criteria.qualifies_append_of_le (Nat.le_of_lt_succ below)
      detection).mp qualifies⟩

/-- Looking at a track keeps its mark up to date. -/
theorem isMarked_settle {track : Track K T} (grown : track.IsGrown)
    (marked : IsMarkedBefore criteria track) :
    IsMarked criteria (settle criteria track) := by
  unfold IsMarked
  simp only [isNotified_settle, Criteria.qualifies_settle, Bool.or_eq_true,
    isDue_iff grown]
  constructor
  · rintro (alreadyMarked | ⟨qualifies, -⟩)
    · obtain ⟨n, -, qualifies⟩ := marked.mp alreadyMarked
      exact ⟨n, qualifies⟩
    · exact ⟨_, qualifies⟩
  · rintro ⟨n, qualifies⟩
    cases mark : track.isNotified with
    | true => exact Or.inl rfl
    | false =>
        -- No earlier stage has qualified, so it is the last one that does.
        rcases Nat.lt_or_eq_of_le qualifies.1 with before | last
        · rw [marked.mpr ⟨n, before, qualifies⟩] at mark
          exact absurd mark (by decide)
        · exact Or.inr ⟨last ▸ qualifies, rfl⟩

/-- A track is announced if its last stage is the first that qualifies. -/
theorem announcement?_eq {track : Track K T} (grown : track.IsGrown)
    (marked : IsMarkedBefore criteria track)
    (encode : Frame → Option Bytes) :
    announcement? criteria encode track =
      if criteria.FirstQualifies track track.rest.length then
        some (announce encode (track.upTo track.rest.length))
      else none := by
  have dueIff : isDue criteria track = true ↔
      criteria.FirstQualifies track track.rest.length := by
    rw [isDue_iff grown]
    refine and_congr_right fun _ => ?_
    rw [← Bool.not_eq_true, not_congr marked]
    simp only [not_exists, not_and]
  unfold announcement?
  simp only [dueIff, announce_upTo_length grown]

/-- A trail is announced rightly if its track carries the right mark, and if
each of its detections brought an announcement exactly if it led to the first
stage that qualifies. -/
structure Trail.IsAnnounced (settings : TrackerSettings K)
    (criteria : Criteria K T) (encode : Frame → Option Bytes)
    (detections : List (Detection K T)) (trail : Trail K T) : Prop where
  sound : trail.IsSound detections
  marked : IsMarked criteria trail.track
  announced : ∀ n place, trail.places[n]? = some place →
    (run settings criteria encode [] detections)[place]?.bind (·.arrival) =
      if criteria.FirstQualifies trail.track n then
        some (announce encode (trail.track.upTo n))
      else none

variable (settings : TrackerSettings K) (criteria : Criteria K T)
  (encode : Frame → Option Bytes)

namespace Trail.IsAnnounced

variable {settings criteria encode} {detections : List (Detection K T)}
  {trail : Trail K T}

theorem concat
    (announced : trail.IsAnnounced settings criteria encode detections)
    (detection : Detection K T) :
    trail.IsAnnounced settings criteria encode
      (detections ++ [detection]) where
  sound := announced.sound.concat detection
  marked := announced.marked
  announced := by
    intro n place found
    have inside := announced.sound.inside place (List.mem_of_getElem? found)
    rw [getElem?_run_append_left _ _ _ _ _ inside]
    exact announced.announced n place found

theorem start {detection : Detection K T}
    (arrival : (step settings criteria encode
        (tracksAfter settings criteria encode [] detections)
        detection).arrival =
      announcement? criteria encode (Track.start detection)) :
    (Trail.start criteria detection detections.length).IsAnnounced settings
      criteria encode (detections ++ [detection]) where
  sound := Trail.IsSound.start criteria detections detection
  marked := isMarked_settle (Track.isGrown_start detection)
    (isMarkedBefore_start detection)
  announced := by
    intro n place found
    have atFirst : n = 0 ∧ place = detections.length := by
      cases n with
      | zero => simpa using found.symm
      | succ n => simp at found
    obtain ⟨rfl, rfl⟩ := atFirst
    have restLength : (Track.start detection).rest.length = 0 := rfl
    rw [getElem?_run_concat_length, Option.bind_some, arrival,
      announcement?_eq (Track.isGrown_start detection)
        (isMarkedBefore_start detection), restLength]
    simp

theorem join
    (announced : trail.IsAnnounced settings criteria encode detections)
    {detection : Detection K T}
    (arrival : (step settings criteria encode
        (tracksAfter settings criteria encode [] detections)
        detection).arrival =
      announcement? criteria encode (trail.track.append detection)) :
    (trail.join criteria detection detections.length).IsAnnounced settings
      criteria encode (detections ++ [detection]) where
  sound := announced.sound.join criteria detection
  marked := isMarked_settle (announced.sound.grown.append detection)
    (isMarkedBefore_append announced.marked detection)
  announced := by
    intro n place found
    have length := announced.sound.length_places
    rw [Trail.places_join] at found
    rw [Trail.track_join, upTo_settle]
    simp only [Criteria.firstQualifies_settle]
    rcases Nat.lt_or_ge n trail.places.length with earlier | last
    · rw [List.getElem?_append_left earlier] at found
      have reached : n ≤ trail.track.rest.length := by omega
      rw [(announced.concat detection).announced n place found,
        Track.upTo_append_of_le reached]
      simp only [criteria.firstQualifies_append_of_le reached detection]
    · obtain rfl : n = trail.places.length := by
        have within := (List.getElem?_eq_some_iff.mp found).1
        rw [List.length_append, List.length_singleton] at within
        omega
      rw [List.getElem?_concat_length] at found
      obtain rfl := Option.some.inj found
      have restLength : (trail.track.append detection).rest.length =
          trail.places.length := by
        rw [length]
        simp [Track.append]
      rw [getElem?_run_concat_length, Option.bind_some, arrival,
        announcement?_eq (announced.sound.grown.append detection)
          (isMarkedBefore_append announced.marked detection), restLength]

end Trail.IsAnnounced

theorem Chronicle.isAnnounced_of_mem_trails
    (detections : List (Detection K T)) :
    ∀ trail ∈ (ofStream settings criteria detections).trails,
      trail.IsAnnounced settings criteria encode detections := by
  refine forall_trails encode ?_ ?_ ?_ detections
  · intro _ detection _ announced
    exact announced.concat detection
  · intro _ _ _ arrival
    exact Trail.IsAnnounced.start arrival
  · intro _ _ _ _ announced _ _ arrival
    exact announced.join arrival

/-- Whatever is announced is the first qualifying stage of a trail. -/
theorem exists_trail_of_arrival {detections : List (Detection K T)}
    {place : Nat} {arrival : Arrival T}
    (arrived : (run settings criteria encode [] detections)[place]?.bind
      (·.arrival) = some arrival) :
    ∃ trail ∈ (Chronicle.ofStream settings criteria detections).trails,
      ∃ n, trail.places[n]? = some place ∧
        criteria.FirstQualifies trail.track n ∧
        arrival = announce encode (trail.track.upTo n) := by
  have inside : place < detections.length := by
    by_contra outside
    rw [List.getElem?_eq_none (by simpa using outside)] at arrived
    simp at arrived
  obtain ⟨trail, member, inTrail⟩ :=
    Chronicle.exists_trail_of_place settings criteria inside
  obtain ⟨n, found⟩ := List.mem_iff_getElem?.mp inTrail
  have announced := (Chronicle.isAnnounced_of_mem_trails settings criteria
    encode detections trail member).announced n place found
  rw [arrived] at announced
  split at announced
  · rename_i isFirst
    exact ⟨trail, member, n, found, isFirst, Option.some.inj announced⟩
  · simp at announced

omit [Timeline T] in
theorem announce_upTo {track : Track K T} (grown : track.IsGrown) (n : Nat) :
    announce encode (track.upTo n) =
      { time := track.firstTime
        classification := (track.upTo n).classification
        event := "arrived in driveway"
        id := track.id
        photo := encode (track.upTo n).bestFrame
        description := none } := by
  simp [announce, arrivalEvent, Track.firstTime, grown.id_eq]

end Tracker

end DrivewayWatch
