import DrivewayWatch.Proofs.Tracking.Announcement
import DrivewayWatch.Proofs.Tracking.Correspondence
import Mathlib.Data.Nat.Find

/-!
# Looser criteria

The criteria decide which tracks are announced and marked, and nothing else:
runs that differ in the criteria alone hold the same tracks but for the marks.
So a track has the same stages in both, and criteria that pass whatever the
others pass announce it no later.
-/

namespace DrivewayWatch

namespace Track

variable {K T : Type} [Scalar K]

theorem upTo_congr {track other : Track K T}
    (same : track.unmarked = other.unmarked) (n : Nat) :
    track.upTo n = other.upTo n :=
  congrArg (·.upTo n) same

theorem unmarked_append (track : Track K T) (detection : Detection K T) :
    (track.append detection).unmarked = track.unmarked.append detection :=
  rfl

end Track

namespace Criteria

variable {K T : Type} [Scalar K] [Timeline T]

theorem Qualifies.exists_firstQualifies {criteria : Criteria K T}
    {track : Track K T} {n : Nat} (qualifies : criteria.Qualifies track n) :
    ∃ m ≤ n, criteria.FirstQualifies track m := by
  have atSomeStage : ∃ m, criteria.Qualifies track m := ⟨n, qualifies⟩
  exact ⟨Nat.find atSomeStage, Nat.find_min' atSomeStage qualifies,
    Nat.find_spec atSomeStage, fun m => Nat.find_min atSomeStage⟩

/-- A track that qualifies at a stage qualifies there by looser criteria too,
whatever its mark is. -/
theorem Qualifies.loosen {strict loose : Criteria K T}
    (looser : ∀ track : Track K T,
      strict.decide track = .pass → loose.decide track = .pass)
    {track other : Track K T} (same : track.unmarked = other.unmarked)
    {n : Nat} (qualifies : strict.Qualifies track n) :
    loose.Qualifies other n := by
  obtain ⟨reached, confirmed, passes⟩ := qualifies
  have sameRest : track.unmarked.rest = other.unmarked.rest := by rw [same]
  rw [Track.upTo_congr same] at confirmed passes
  exact ⟨sameRest ▸ reached, confirmed, looser _ passes⟩

theorem decide_eq_pass_iff (criteria : Criteria K T) (track : Track K T) :
    criteria.decide track = .pass ↔
      allows criteria.settings.allowed track.classification = true ∧
      blocks criteria.settings.blocked track.classification = false ∧
      ¬ track.length < criteria.settings.minLength track.classification ∧
      accepts criteria.rule track.view = true := by
  unfold decide
  grind

end Criteria

namespace Tracker

variable {K T : Type} [Scalar K] [Timeline T]

theorem unmarked_settle (criteria : Criteria K T) (track : Track K T) :
    (settle criteria track).unmarked = track.unmarked := by
  unfold settle
  split <;> rfl

/-- Runs over the same detections correspond whatever their criteria are: their
tracks are the same but for the marks. -/
def Correspondence.butForMarks (strict loose : Criteria K T) :
    Correspondence strict loose where
  detections := Eq
  tracks track other := track.unmarked = other.unmarked
  sameLook := by
    rintro detection _ rfl
    exact ⟨rfl, rfl⟩
  sameOutline := congrArg Track.outline
  sameAge := by
    rintro detection _ track otherTrack rfl same
    have sameLast : track.unmarked.lastTime = otherTrack.unmarked.lastTime := by
      rw [same]
    exact congrArg (Timeline.since detection.time) sameLast
  start := by
    rintro detection _ rfl
    rfl
  append := by
    rintro detection _ track otherTrack rfl same
    rw [Track.unmarked_append, Track.unmarked_append, same]
  settle := by
    intro track other same
    rw [unmarked_settle, unmarked_settle, same]

variable (settings : TrackerSettings K) (encode : Frame → Option Bytes)

/-- What strict criteria announce at a stage of a track, looser ones announce
at that stage or at an earlier one. -/
theorem Trail.IsAnnounced.exists_sooner {strict loose : Criteria K T}
    (looser : ∀ track : Track K T,
      strict.decide track = .pass → loose.decide track = .pass)
    {detections : List (Detection K T)} {trail twin : Trail K T}
    (twinAnnounced : twin.IsAnnounced settings loose encode detections)
    (sameTrack : trail.track.unmarked = twin.track.unmarked)
    (samePlaces : trail.places = twin.places) {n place : Nat}
    (found : trail.places[n]? = some place)
    (qualifies : strict.Qualifies trail.track n) :
    ∃ sooner ∈ twin.places, sooner ≤ place ∧ ∃ m,
      (run settings loose encode [] detections)[sooner]?.bind (·.arrival) =
        some (announce encode (twin.track.upTo m)) := by
  obtain ⟨m, notLater, isFirst⟩ :=
    (qualifies.loosen looser sameTrack).exists_firstQualifies
  rw [samePlaces] at found
  obtain ⟨inside, rfl⟩ := List.getElem?_eq_some_iff.mp found
  have soonerInside : m < twin.places.length := by omega
  refine ⟨twin.places[m], List.getElem_mem soonerInside, ?_, m, ?_⟩
  · rcases Nat.lt_or_eq_of_le notLater with before | rfl
    · exact Nat.le_of_lt (List.pairwise_iff_getElem.mp
        twinAnnounced.sound.ascending m n soonerInside inside before)
    · exact Nat.le_refl _
  · rw [twinAnnounced.announced m _ (List.getElem?_eq_getElem soonerInside),
      if_pos isFirst]

/-- The criteria have no part in which track a detection joins, and looser ones
neither miss nor delay an announcement.  After each detection the tracks of two
runs with different criteria are the same but for the marks.  If one of the
criteria pass every track that the others pass, every track that the others
announce is announced by them too, at the same detection of the stream or at an
earlier one. -/
theorem looser_criteria_announce_no_later (strict loose : Criteria K T)
    (detections : List (Detection K T)) :
    (run settings strict encode [] detections).map
        (·.tracks.map Track.unmarked) =
      (run settings loose encode [] detections).map
        (·.tracks.map Track.unmarked) ∧
    ((∀ track : Track K T,
        strict.decide track = .pass → loose.decide track = .pass) →
      ∀ place arrival,
        (run settings strict encode [] detections)[place]?.bind (·.arrival) =
          some arrival →
        ∃ trail ∈ (Chronicle.ofStream settings strict detections).trails,
          ∃ twin ∈ (Chronicle.ofStream settings loose detections).trails,
            place ∈ trail.places ∧ trail.places = twin.places ∧
            trail.track.unmarked = twin.track.unmarked ∧
            ∃ sooner ∈ twin.places, sooner ≤ place ∧ ∃ other,
              (run settings loose encode [] detections)[sooner]?.bind
                (·.arrival) = some other ∧
              other.id = arrival.id) := by
  let link := Correspondence.butForMarks strict loose
  have sameStream : List.Forall₂ Eq detections detections :=
    List.forall₂_refl detections
  constructor
  · have outcomes := link.outcomes_run settings encode sameStream .nil
    refine map_eq_map_of_forall₂ outcomes fun outcome other linked => ?_
    exact map_eq_map_of_forall₂ linked.tracks fun _ _ same => same
  · intro looser place arrival arrived
    obtain ⟨trail, member, n, found, isFirst, rfl⟩ :=
      exists_trail_of_arrival settings strict encode arrived
    have chronicles := link.chronicles_ofStream settings sameStream
    obtain ⟨twin, twinMember, sameTrack, samePlaces⟩ :=
      exists_related_of_mem chronicles.trails member
    have twinAnnounced := Chronicle.isAnnounced_of_mem_trails settings loose
      encode detections twin twinMember
    obtain ⟨sooner, soonerMember, notLater, m, soonerArrived⟩ :=
      twinAnnounced.exists_sooner settings encode looser sameTrack samePlaces
        found isFirst.1
    refine ⟨trail, member, twin, twinMember, List.mem_of_getElem? found,
      samePlaces, sameTrack, sooner, soonerMember, notLater, _, soonerArrived,
      ?_⟩
    have sameId : trail.track.unmarked.id = twin.track.unmarked.id :=
      congrArg Track.id sameTrack
    have sound := Chronicle.isSound_of_mem_trails settings strict detections
      trail member
    have twinSound := Chronicle.isSound_of_mem_trails settings loose detections
      twin twinMember
    rw [announce_upTo encode sound.grown, announce_upTo encode twinSound.grown]
    exact sameId.symm

/-- Criteria that ask for a length alone. -/
def lasting (seconds : Float) : Criteria Float Instant :=
  ⟨{ CriteriaSettings.standard with minSeconds := seconds }, none⟩

/-- A lesser length is looser. -/
theorem decide_lasting_of_le {short long : Float}
    (shorter : Duration.ofSeconds short ≤ Duration.ofSeconds long)
    (track : Track Float Instant) (passes : (lasting long).decide track = .pass) :
    (lasting short).decide track = .pass := by
  have minLength_lasting (seconds : Float) :
      (lasting seconds).settings.minLength track.classification =
        Duration.ofSeconds seconds :=
    rfl
  rw [Criteria.decide_eq_pass_iff, minLength_lasting] at passes ⊢
  obtain ⟨allowed, notBlocked, longEnough, accepted⟩ := passes
  refine ⟨allowed, notBlocked, fun tooShort => longEnough ?_, accepted⟩
  exact Int.lt_of_lt_of_le tooShort shorter

/-- Tracks of a second are announced at the third sight; if half a second is
enough, not later than that. -/
theorem looser_criteria_announce_no_later_of_threeSights :
    (∀ track : Track Float Instant,
      (lasting 1.0).decide track = .pass →
        (lasting 0.5).decide track = .pass) ∧
    ((run TrackerSettings.standard (lasting 1.0) (fun _ => none) []
      threeSights)[2]?.bind (·.arrival)).isSome ∧
    ∃ sooner ≤ 2, ((run TrackerSettings.standard (lasting 0.5)
      (fun _ => none) [] threeSights)[sooner]?.bind (·.arrival)).isSome := by
  have looser := @decide_lasting_of_le 0.5 1.0 (by decide +kernel)
  have arrived : ((run TrackerSettings.standard (lasting 1.0) (fun _ => none)
      [] threeSights)[2]?.bind (·.arrival)).isSome := by
    decide +kernel
  obtain ⟨arrival, found⟩ := Option.isSome_iff_exists.mp arrived
  obtain ⟨-, noLater⟩ := looser_criteria_announce_no_later
    TrackerSettings.standard (fun _ => none) (lasting 1.0) (lasting 0.5)
    threeSights
  obtain ⟨-, -, -, -, -, -, -, sooner, -, notLater, other, otherFound, -⟩ :=
    noLater looser 2 arrival found
  exact ⟨looser, arrived, sooner, notLater, by rw [otherFound]; rfl⟩

end Tracker

end DrivewayWatch
