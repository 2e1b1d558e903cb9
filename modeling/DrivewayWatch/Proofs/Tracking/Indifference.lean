import DrivewayWatch.Proofs.Tracking.Announcement
import DrivewayWatch.Proofs.Tracking.Correspondence

/-!
# What decisions do not depend on

Pictures, the names of detections and the numbers of models are carried along,
but nothing is decided by them: neither which track a detection joins, nor
which picture is best, nor what a rule sees of a track.  Streams that differ in
them alone make the same tracks of the same places and bring announcements at
the same places.
-/

namespace DrivewayWatch

namespace Detection

variable {K T : Type}

/-- What a rule sees of a detection. -/
def sighting (detection : Detection K T) : Sighting K T :=
  ⟨detection.time, detection.classification, detection.box⟩

/-- Detections agree if they differ at most in their pictures, their names and
the models that made them. -/
structure Agrees (first second : Detection K T) : Prop where
  time : first.time = second.time
  classification : first.classification = second.classification
  isConfirmed : first.isConfirmed = second.isConfirmed
  box : first.box = second.box

theorem Agrees.sighting {first second : Detection K T}
    (agree : first.Agrees second) : first.sighting = second.sighting := by
  simp only [Detection.sighting, agree.time, agree.classification, agree.box]

end Detection

namespace Track

variable {K T : Type}

def sightings (track : Track K T) : List (Sighting K T) :=
  track.detections.map Detection.sighting

theorem outline_eq_map_sightings (track : Track K T) :
    track.outline = track.sightings.map fun sighting =>
      (sighting.classification, sighting.box) := by
  simp only [outline, sightings, List.map_map]
  rfl

theorem boxes_eq_map_sightings (track : Track K T) :
    track.boxes = track.sightings.map (·.box) := by
  simp only [boxes, sightings, List.map_map]
  rfl

theorem sighting_last_congr {track other : Track K T}
    (same : track.sightings = other.sightings) :
    track.last.sighting = other.last.sighting := by
  have getLast?_sightings (track : Track K T) :
      track.sightings.getLast? = some track.last.sighting := by
    rw [sightings, List.getLast?_map, getLast?_detections, Option.map_some]
  have sameLast := congrArg List.getLast? same
  rw [getLast?_sightings, getLast?_sightings] at sameLast
  exact Option.some.inj sameLast

variable [Scalar K]

/-- The view of a track depends on its sightings alone. -/
theorem view_congr [Timeline T] {track other : Track K T}
    (same : track.sightings = other.sightings) : track.view = other.view := by
  have sameFirst : track.first.sighting = other.first.sighting :=
    (List.cons.inj same).1
  have sameLast := sighting_last_congr same
  have firstTime : track.firstTime = other.firstTime :=
    congrArg Sighting.time sameFirst
  have lastTime : track.lastTime = other.lastTime :=
    congrArg Sighting.time sameLast
  have firstBox : track.firstBox = other.firstBox :=
    congrArg Sighting.box sameFirst
  have lastBox : track.lastBox = other.lastBox :=
    congrArg Sighting.box sameLast
  have sameBoxes : track.boxes = other.boxes := by
    rw [boxes_eq_map_sightings, boxes_eq_map_sightings, same]
  have sameLabel : track.classification = other.classification := by
    apply classification_congr
    rw [outline_eq_map_sightings, outline_eq_map_sightings, same]
  change TrackView.mk track.sightings track.firstTime _ _ _ _ _ _ _ = _
  rw [same, averageBox, totalBox, length, firstTime, lastTime, firstBox,
    lastBox, sameBoxes, sameLabel]
  rfl

/-- Tracks agree if they differ at most in their pictures and in the names and
models of their detections. -/
structure Agrees (first second : Track K T) : Prop where
  sightings : first.sightings = second.sightings
  bestCoverage : first.bestCoverage = second.bestCoverage
  isConfirmed : first.isConfirmed = second.isConfirmed
  isNotified : first.isNotified = second.isNotified

theorem Agrees.start {first second : Detection K T}
    (agree : first.Agrees second) :
    (start first).Agrees (start second) where
  sightings := by
    simp only [Track.sightings, detections_start, List.map_singleton,
      agree.sighting]
  bestCoverage := congrArg Box.area agree.box
  isConfirmed := agree.isConfirmed
  isNotified := rfl

theorem Agrees.append {track other : Track K T} (agree : track.Agrees other)
    {first second : Detection K T} (next : first.Agrees second) :
    (track.append first).Agrees (other.append second) where
  sightings := by
    have sameSightings := agree.sightings
    simp only [Track.sightings] at sameSightings
    simp only [Track.sightings, detections_append, List.map_append,
      sameSightings, List.map_singleton, next.sighting]
  bestCoverage := by
    simp only [Track.append, next.box, agree.bestCoverage]
  isConfirmed := by
    simp only [Track.append, next.isConfirmed, agree.isConfirmed]
  isNotified := agree.isNotified

end Track

/-- A decision depends on the view alone. -/
theorem Criteria.decide_congr {K T : Type} [Scalar K] [Timeline T]
    (criteria : Criteria K T) {track other : Track K T}
    (same : track.view = other.view) :
    criteria.decide track = criteria.decide other := by
  have sameLabel : track.classification = other.classification :=
    congrArg TrackView.classification same
  have sameLength : track.length = other.length :=
    congrArg TrackView.length same
  simp only [Criteria.decide, sameLabel, sameLength, same]

namespace Tracker

variable {K T : Type} [Scalar K] [Timeline T] (criteria : Criteria K T)

theorem isDue_congr {track other : Track K T} (agree : track.Agrees other) :
    isDue criteria track = isDue criteria other := by
  rw [isDue, isDue, agree.isConfirmed, agree.isNotified,
    criteria.decide_congr (Track.view_congr agree.sightings)]

theorem agrees_settle {track other : Track K T} (agree : track.Agrees other) :
    (settle criteria track).Agrees (settle criteria other) := by
  rw [settle, settle, isDue_congr criteria agree]
  split
  · exact ⟨agree.sightings, agree.bestCoverage, agree.isConfirmed, rfl⟩
  · exact agree

/-- Runs over detections that agree correspond: their tracks agree. -/
def Correspondence.butForPictures : Correspondence criteria criteria where
  detections := Detection.Agrees
  tracks := Track.Agrees
  sameLook := fun agree => ⟨agree.classification, agree.box⟩
  sameOutline := by
    intro track other agree
    rw [Track.outline_eq_map_sightings, Track.outline_eq_map_sightings,
      agree.sightings]
  sameAge := by
    intro detection other track otherTrack agree tracksAgree
    have sameLast : track.lastTime = otherTrack.lastTime :=
      congrArg Sighting.time (Track.sighting_last_congr tracksAgree.sightings)
    rw [agree.time, sameLast]
  start := Track.Agrees.start
  append := fun next agree => agree.append next
  settle := agrees_settle criteria

variable (settings : TrackerSettings K) (encode : Frame → Option Bytes)

/-- An announcement is named after the detection that began the track. -/
theorem exists_trail_of_arrival_id {detections : List (Detection K T)}
    {place : Nat} {arrival : Arrival T}
    (arrived : (run settings criteria encode [] detections)[place]?.bind
      (·.arrival) = some arrival) :
    ∃ trail ∈ (Chronicle.ofStream settings criteria detections).trails,
      place ∈ trail.places ∧
      detections[trail.created]?.map (·.id) = some arrival.id := by
  obtain ⟨trail, member, n, found, -, rfl⟩ :=
    exists_trail_of_arrival settings criteria encode arrived
  have sound := Chronicle.isSound_of_mem_trails settings criteria detections
    trail member
  refine ⟨trail, member, List.mem_of_getElem? found, ?_⟩
  rw [sound.getElem?_created, announce_upTo encode sound.grown,
    sound.grown.id_eq]
  rfl

/-- Tracks that agree are announced both or not at all, at the same time and in
the same words. -/
theorem announcement?_rel {track other : Track K T}
    (agree : track.Agrees other) :
    Option.Rel (fun arrival otherArrival =>
        arrival.time = otherArrival.time ∧
        arrival.classification = otherArrival.classification ∧
        arrival.event = otherArrival.event)
      (announcement? criteria encode track)
      (announcement? criteria encode other) := by
  have sameView := Track.view_congr agree.sightings
  rw [announcement?, announcement?, isDue_congr criteria agree]
  split
  · exact .some ⟨congrArg TrackView.firstTime sameView,
      congrArg TrackView.classification sameView, rfl⟩
  · exact .none

/-- Announcements at one place are named after detections at one place. -/
theorem exists_created_of_agrees {first second : List (Detection K T)}
    (agree : List.Forall₂ Detection.Agrees first second) {place : Nat}
    {arrival other : Arrival T}
    (arrived : (run settings criteria encode [] first)[place]?.bind
      (·.arrival) = some arrival)
    (otherArrived : (run settings criteria encode [] second)[place]?.bind
      (·.arrival) = some other) :
    ∃ trail ∈ (Chronicle.ofStream settings criteria first).trails,
      place ∈ trail.places ∧
      first[trail.created]?.map (·.id) = some arrival.id ∧
      second[trail.created]?.map (·.id) = some other.id := by
  obtain ⟨trail, member, inTrail, named⟩ :=
    exists_trail_of_arrival_id criteria settings encode arrived
  obtain ⟨twin, twinMember, inTwin, otherNamed⟩ :=
    exists_trail_of_arrival_id criteria settings encode otherArrived
  obtain ⟨linkedTwin, linkedMember, linked⟩ := exists_related_of_mem
    ((Correspondence.butForPictures criteria).chronicles_ofStream settings
      agree).trails member
  -- The trail that corresponds is the one that the place belongs to.
  obtain rfl := Chronicle.eq_of_common_place settings criteria linkedMember
    twinMember (linked.2 ▸ inTrail) inTwin
  have sameCreated : trail.created = linkedTwin.created :=
    (List.cons.inj linked.2).1
  exact ⟨trail, member, inTrail, named, sameCreated ▸ otherNamed⟩

/-- Pictures, names and models influence no decision.  If two streams differ in
them alone, both bring an announcement at a place or neither does; the two
announcements agree in all but the photo and the name, and each is named after
the detection of its own stream that began the track, which has the same place
in both.  All the while the live tracks of both have the same places. -/
theorem decisions_ignore_pictures_and_names
    {first second : List (Detection K T)}
    (agree : List.Forall₂ Detection.Agrees first second) :
    (∀ place,
      Option.Rel (fun arrival other =>
        arrival.time = other.time ∧
        arrival.classification = other.classification ∧
        arrival.event = other.event ∧
        ∃ trail ∈ (Chronicle.ofStream settings criteria first).trails,
          place ∈ trail.places ∧
          first[trail.created]?.map (·.id) = some arrival.id ∧
          second[trail.created]?.map (·.id) = some other.id)
        ((run settings criteria encode [] first)[place]?.bind (·.arrival))
        ((run settings criteria encode [] second)[place]?.bind (·.arrival))) ∧
    (∀ n,
      (Chronicle.ofStream settings criteria (first.take n)).live.map
          (·.places) =
        (Chronicle.ofStream settings criteria (second.take n)).live.map
          (·.places)) ∧
    (∀ stream,
      (Chronicle.ofStream settings criteria stream).live.map (·.track) =
        tracksAfter settings criteria encode [] stream) := by
  refine ⟨fun place => ?_, fun n => ?_,
    Chronicle.live_ofStream settings criteria encode⟩
  · have outcomes := rel_getElem?_of_forall₂
      ((Correspondence.butForPictures criteria).outcomes_run settings encode
        agree .nil) place
    have arrivals := rel_bind outcomes fun outcome other linked => by
      obtain ⟨track, otherTrack, tracksAgree, arrivalEq, otherArrivalEq⟩ :=
        linked.arrival
      have announced := announcement?_rel criteria encode tracksAgree
      rwa [← arrivalEq, ← otherArrivalEq] at announced
    refine rel_strengthen arrivals fun arrival other arrived otherArrived same => ?_
    obtain ⟨sameTime, sameLabel, sameEvent⟩ := same
    exact ⟨sameTime, sameLabel, sameEvent,
      exists_created_of_agrees criteria settings encode agree arrived
        otherArrived⟩
  · have chronicles :=
      (Correspondence.butForPictures criteria).chronicles_ofStream settings
        (List.forall₂_take n agree)
    exact map_eq_map_of_forall₂ chronicles.live fun _ _ linked => linked.2

/-- Three sights of a car by another model, under another name and with a
picture that cannot be encoded. -/
def unseenSights : List (Detection Float Instant) :=
  threeSights.map fun detection =>
    { detection with id := "unseen", modelId := 2, frame := ⟨0, 0, []⟩ }

def encodeUnlessEmpty (frame : Frame) : Option Bytes :=
  if frame.width = 0 then none else some [0xFF, 0xD8]

/-- A car is announced at the third sight, whether it can be pictured or not. -/
theorem decisions_ignore_pictures_and_names_of_unseenSights :
    List.Forall₂ Detection.Agrees threeSights unseenSights ∧
    ((run TrackerSettings.standard ⟨CriteriaSettings.standard, none⟩
      encodeUnlessEmpty [] threeSights)[2]?.bind (·.arrival)).isSome ∧
    ((run TrackerSettings.standard ⟨CriteriaSettings.standard, none⟩
      encodeUnlessEmpty [] unseenSights)[2]?.bind (·.arrival)).isSome := by
  have agree : List.Forall₂ Detection.Agrees threeSights unseenSights := by
    rw [unseenSights, List.forall₂_map_right_iff, List.forall₂_same]
    exact fun detection _ => ⟨rfl, rfl, rfl, rfl⟩
  have arrived : ((run TrackerSettings.standard
      ⟨CriteriaSettings.standard, none⟩ encodeUnlessEmpty []
      threeSights)[2]?.bind (·.arrival)).isSome := by
    decide +kernel
  refine ⟨agree, arrived, ?_⟩
  have related := (decisions_ignore_pictures_and_names
    ⟨CriteriaSettings.standard, none⟩ TrackerSettings.standard
    encodeUnlessEmpty agree).1 2
  obtain ⟨arrival, found⟩ := Option.isSome_iff_exists.mp arrived
  rw [found] at related
  generalize (run TrackerSettings.standard ⟨CriteriaSettings.standard, none⟩
    encodeUnlessEmpty [] unseenSights)[2]?.bind (·.arrival) = other at related ⊢
  cases related
  rfl

end Tracker

end DrivewayWatch
