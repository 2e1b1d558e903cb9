import DrivewayWatch.Proofs.Tracking.Chronicle
import Mathlib.Data.List.Forall2

/-!
# Corresponding runs

Which track a detection joins depends on little: on the labels and boxes of the
tracks, and on the time since their last detections.  A correspondence relates
the detections and tracks of two runs so that they agree in this, and it is
kept by all that can happen to a track.  Runs over corresponding detections
then correspond throughout, in the tracker and in the chronicle.
-/

namespace DrivewayWatch

section Related

variable {α β : Type} {related : α → β → Prop}

theorem exists_split_of_forall₂ {before after : List α} {element : α}
    {others : List β}
    (alike : List.Forall₂ related (before ++ element :: after) others) :
    ∃ otherBefore other otherAfter,
      others = otherBefore ++ other :: otherAfter ∧
      List.Forall₂ related before otherBefore ∧ related element other ∧
      List.Forall₂ related after otherAfter := by
  induction before generalizing others with
  | nil =>
      obtain ⟨other, otherAfter, isRelated, afterAlike, rfl⟩ :=
        List.forall₂_cons_left_iff.mp alike
      exact ⟨[], other, otherAfter, rfl, .nil, isRelated, afterAlike⟩
  | cons first before ih =>
      obtain ⟨otherFirst, _, firstRelated, restAlike, rfl⟩ :=
        List.forall₂_cons_left_iff.mp alike
      obtain ⟨otherBefore, other, otherAfter, rfl, beforeAlike, isRelated,
        afterAlike⟩ := ih restAlike
      exact ⟨otherFirst :: otherBefore, other, otherAfter, rfl,
        .cons firstRelated beforeAlike, isRelated, afterAlike⟩

theorem map_eq_map_of_forall₂ {γ : Type} {read : α → γ} {otherRead : β → γ}
    {elements : List α} {others : List β}
    (alike : List.Forall₂ related elements others)
    (same : ∀ element other, related element other →
      read element = otherRead other) :
    elements.map read = others.map otherRead := by
  rw [← List.forall₂_eq_eq_eq, List.forall₂_map_left_iff,
    List.forall₂_map_right_iff]
  exact alike.imp same

theorem eq_map_of_forall₂ {read : α → β} {elements : List α}
    {others : List β} (alike : List.Forall₂ related elements others)
    (same : ∀ element other, related element other → other = read element) :
    others = elements.map read := by
  have sameReadings := map_eq_map_of_forall₂ alike
    fun element other isRelated => (same element other isRelated).symm
  rw [sameReadings, List.map_id']

theorem rel_getElem?_of_forall₂ {elements : List α} {others : List β}
    (alike : List.Forall₂ related elements others) (place : Nat) :
    Option.Rel related elements[place]? others[place]? := by
  induction alike generalizing place with
  | nil => exact .none
  | cons isRelated _ ih =>
      cases place with
      | zero => exact .some isRelated
      | succ place => exact ih place

theorem rel_bind {γ δ : Type} {finer : γ → δ → Prop} {found : Option α}
    {other : Option β} (alike : Option.Rel related found other)
    {next : α → Option γ} {otherNext : β → Option δ}
    (kept : ∀ element otherElement, related element otherElement →
      Option.Rel finer (next element) (otherNext otherElement)) :
    Option.Rel finer (found.bind next) (other.bind otherNext) := by
  cases alike with
  | none => exact .none
  | some isRelated => exact kept _ _ isRelated

theorem rel_strengthen {finer : α → β → Prop} {found : Option α}
    {other : Option β} (alike : Option.Rel related found other)
    (refined : ∀ element otherElement, found = some element →
      other = some otherElement → related element otherElement →
      finer element otherElement) : Option.Rel finer found other := by
  cases alike with
  | none => exact .none
  | some isRelated => exact .some (refined _ _ rfl rfl isRelated)

theorem exists_related_of_mem {elements : List α} {others : List β}
    (alike : List.Forall₂ related elements others) {element : α}
    (member : element ∈ elements) : ∃ other ∈ others, related element other := by
  obtain ⟨before, after, rfl⟩ := List.append_of_mem member
  obtain ⟨otherBefore, other, otherAfter, rfl, -, isRelated, -⟩ :=
    exists_split_of_forall₂ alike
  exact ⟨other, List.mem_append_right _ List.mem_cons_self, isRelated⟩

theorem forall₂_modify {change : α → α} {otherChange : β → β}
    (kept : ∀ element other, related element other →
      related (change element) (otherChange other))
    {elements : List α} {others : List β}
    (alike : List.Forall₂ related elements others) (place : Nat) :
    List.Forall₂ related (elements.modify place change)
      (others.modify place otherChange) := by
  induction alike generalizing place with
  | nil => simp
  | cons isRelated restAlike ih =>
      cases place with
      | zero => exact .cons (kept _ _ isRelated) restAlike
      | succ place => exact .cons isRelated (ih place)

end Related

namespace Track

variable {K T : Type}

/-- The labels and boxes of a track: what decides whether a detection overlaps
it enough. -/
def outline (track : Track K T) : List (String × Box K) :=
  track.detections.map fun detection =>
    (detection.classification, detection.box)

theorem classification_congr {track other : Track K T}
    (same : track.outline = other.outline) :
    track.classification = other.classification := by
  have votes_eq (track : Track K T) : track.votes =
      track.outline.foldl (fun votes entry => addVote votes entry.1) [] := by
    simp [votes, outline, List.foldl_map]
  simp only [classification, votes_eq, same]

theorem recentBox_congr [Scalar K] {track other : Track K T}
    (same : track.outline = other.outline) :
    track.recentBox = other.recentBox := by
  have boxes_eq (track : Track K T) :
      track.boxes = track.outline.map Prod.snd := by
    simp [boxes, outline]
  have sameBoxes : track.boxes = other.boxes := by
    rw [boxes_eq, boxes_eq, same]
  obtain ⟨sameFirst, sameRest⟩ := List.cons.inj sameBoxes
  simp only [recentBox, firstBox, sameFirst, sameRest]

end Track

namespace Tracker

variable {K T : Type} [Scalar K] [Timeline T]

/-- A correspondence between two runs relates their detections and their
tracks.  Related detections look the same, related tracks have the same outline
and wait as long for related detections, and what happens to tracks keeps them
related: to begin, to grow, and to be looked at. -/
structure Correspondence (criteria otherCriteria : Criteria K T) where
  detections : Detection K T → Detection K T → Prop
  tracks : Track K T → Track K T → Prop
  sameLook : ∀ {detection other}, detections detection other →
    detection.classification = other.classification ∧
      detection.box = other.box
  sameOutline : ∀ {track other}, tracks track other →
    track.outline = other.outline
  sameAge : ∀ {detection other track otherTrack},
    detections detection other → tracks track otherTrack →
    Timeline.since detection.time track.lastTime =
      Timeline.since other.time otherTrack.lastTime
  start : ∀ {detection other}, detections detection other →
    tracks (Track.start detection) (Track.start other)
  append : ∀ {detection other track otherTrack},
    detections detection other → tracks track otherTrack →
    tracks (track.append detection) (otherTrack.append other)
  settle : ∀ {track other}, tracks track other →
    tracks (settle criteria track) (settle otherCriteria other)

namespace Correspondence

variable {criteria otherCriteria : Criteria K T}
  (link : Correspondence criteria otherCriteria)
  (settings : TrackerSettings K) (encode : Frame → Option Bytes)
  {detection other : Detection K T}
  {tracks otherTracks : List (Track K T)}

theorem forall₂_prune (linked : link.detections detection other)
    (allLinked : List.Forall₂ link.tracks tracks otherTracks) :
    List.Forall₂ link.tracks (prune settings.pruneAge detection tracks)
      (prune settings.pruneAge other otherTracks) := by
  refine List.rel_filter ?_ allLinked
  intro track otherTrack trackLinked
  simp only [link.sameAge linked trackLinked]

theorem better_eq (linked : link.detections detection other)
    {track otherTrack : Track K T} (trackLinked : link.tracks track otherTrack)
    (best : Option (Nat × K)) (place : Nat) :
    better settings detection best place track =
      better settings other best place otherTrack := by
  obtain ⟨sameLabel, sameBox⟩ := link.sameLook linked
  have sameOutline := link.sameOutline trackLinked
  have sameNeeded : neededOverlap settings track detection =
      neededOverlap settings otherTrack other := by
    rw [neededOverlap, neededOverlap, Track.classification_congr sameOutline,
      sameLabel]
  have sameOverlap : overlapWith track detection =
      overlapWith otherTrack other := by
    rw [overlapWith, overlapWith, Track.recentBox_congr sameOutline, sameBox]
  simp only [better, sameNeeded, sameOverlap]

theorem bestMatch?_eq (linked : link.detections detection other)
    (allLinked : List.Forall₂ link.tracks tracks otherTracks) :
    bestMatch? settings tracks detection =
      bestMatch? settings otherTracks other := by
  have matchFrom_eq (best : Option (Nat × K)) (place : Nat) :
      matchFrom settings detection best place tracks =
        matchFrom settings other best place otherTracks := by
    induction allLinked generalizing best place with
    | nil => rfl
    | cons trackLinked _ ih =>
        rw [matchFrom, matchFrom, link.better_eq settings linked trackLinked,
          ih]
  rw [bestMatch?, bestMatch?, matchFrom_eq]

/-- Outcomes correspond if their tracks do, if their arrivals are what two
corresponding tracks bring, and if they count the same but for that. -/
structure Outcomes (outcome otherOutcome : Outcome K T) : Prop where
  tracks : List.Forall₂ link.tracks outcome.tracks otherOutcome.tracks
  arrival : ∃ track otherTrack, link.tracks track otherTrack ∧
    outcome.arrival = announcement? criteria encode track ∧
    otherOutcome.arrival = announcement? otherCriteria encode otherTrack
  counts : ∃ created,
    outcome.counts = created ++ arrivalCounts outcome.arrival ∧
    otherOutcome.counts = created ++ arrivalCounts otherOutcome.arrival

/-- One detection in each of two corresponding runs. -/
theorem outcomes_step (linked : link.detections detection other)
    (allLinked : List.Forall₂ link.tracks tracks otherTracks) :
    link.Outcomes encode (step settings criteria encode tracks detection)
      (step settings otherCriteria encode otherTracks other) := by
  have keptLinked := link.forall₂_prune settings linked allLinked
  have sameMatch := link.bestMatch?_eq settings linked keptLinked
  have sameCreated : ∃ created,
      (step settings criteria encode tracks detection).counts =
        created ++ arrivalCounts
          (step settings criteria encode tracks detection).arrival ∧
      (step settings otherCriteria encode otherTracks other).counts =
        created ++ arrivalCounts
          (step settings otherCriteria encode otherTracks other).arrival := by
    refine ⟨_, counts_step settings criteria encode tracks detection, ?_⟩
    rw [counts_step, sameMatch, (link.sameLook linked).1]
  rcases step_cases settings criteria encode tracks detection with
    ⟨before, track, after, split, matched, -, tracksEq, arrivalEq⟩ |
      ⟨unmatched, -, tracksEq, arrivalEq⟩
  · rw [split] at keptLinked
    obtain ⟨otherBefore, otherTrack, otherAfter, otherSplit, beforeLinked,
      trackLinked, afterLinked⟩ := exists_split_of_forall₂ keptLinked
    have otherMatched : bestMatch? settings
        (otherBefore ++ otherTrack :: otherAfter) other =
          some otherBefore.length := by
      rw [← otherSplit, ← sameMatch, matched, beforeLinked.length_eq]
    obtain ⟨otherTracksEq, otherArrivalEq⟩ :=
      step_of_matched otherCriteria encode otherSplit otherMatched
    have grownLinked := link.append linked trackLinked
    refine ⟨?_, ⟨_, _, grownLinked, arrivalEq, otherArrivalEq⟩, sameCreated⟩
    rw [tracksEq, otherTracksEq]
    exact List.rel_append beforeLinked
      (.cons (link.settle grownLinked) afterLinked)
  · obtain ⟨otherTracksEq, otherArrivalEq⟩ :=
      step_of_unmatched otherCriteria encode (sameMatch ▸ unmatched)
    have startLinked := link.start linked
    refine ⟨?_, ⟨_, _, startLinked, arrivalEq, otherArrivalEq⟩, sameCreated⟩
    rw [tracksEq, otherTracksEq]
    exact List.rel_append keptLinked (.cons (link.settle startLinked) .nil)

/-- Runs over corresponding detections, from corresponding tracks, correspond
at every detection. -/
theorem outcomes_run {stream otherStream : List (Detection K T)}
    (linked : List.Forall₂ link.detections stream otherStream)
    (allLinked : List.Forall₂ link.tracks tracks otherTracks) :
    List.Forall₂ (link.Outcomes encode)
      (run settings criteria encode tracks stream)
      (run settings otherCriteria encode otherTracks otherStream) := by
  induction linked generalizing tracks otherTracks with
  | nil => exact .nil
  | cons firstLinked _ ih =>
      have outcomes :=
        link.outcomes_step settings encode firstLinked allLinked
      exact .cons outcomes (ih outcomes.tracks)

/-- Trails correspond if their tracks do and they have the same places. -/
def Trails (trail otherTrail : Trail K T) : Prop :=
  link.tracks trail.track otherTrail.track ∧
    trail.places = otherTrail.places

/-- Chronicles correspond if their trails do, the removed ones and the live
ones. -/
structure Chronicles (chronicle otherChronicle : Chronicle K T) : Prop where
  removed : List.Forall₂ link.Trails chronicle.removed otherChronicle.removed
  live : List.Forall₂ link.Trails chronicle.live otherChronicle.live

section Chronicles

variable {link} {chronicle otherChronicle : Chronicle K T}

theorem Chronicles.trails (linked : link.Chronicles chronicle otherChronicle) :
    List.Forall₂ link.Trails chronicle.trails otherChronicle.trails :=
  List.rel_append linked.removed linked.live

theorem Trails.start (linked : link.detections detection other)
    (place : Nat) :
    link.Trails (.start criteria detection place)
      (.start otherCriteria other place) :=
  ⟨link.settle (link.start linked), rfl⟩

theorem Trails.join (linked : link.detections detection other)
    {trail otherTrail : Trail K T} (trailsLinked : link.Trails trail otherTrail)
    (place : Nat) :
    link.Trails (trail.join criteria detection place)
      (otherTrail.join otherCriteria other place) := by
  obtain ⟨trackLinked, samePlaces⟩ := trailsLinked
  refine ⟨link.settle (link.append linked trackLinked), ?_⟩
  rw [Trail.places_join, Trail.places_join, samePlaces]

theorem Trails.isWaiting_iff (linked : link.detections detection other)
    {trail otherTrail : Trail K T}
    (trailsLinked : link.Trails trail otherTrail) :
    IsWaiting settings detection trail.track ↔
      IsWaiting settings other otherTrail.track := by
  rw [IsWaiting, IsWaiting, link.sameAge linked trailsLinked.1]

theorem Chronicles.enter (linked : link.detections detection other)
    (chroniclesLinked : link.Chronicles chronicle otherChronicle)
    (place : Nat) :
    link.Chronicles (chronicle.enter settings criteria detection place)
      (otherChronicle.enter settings otherCriteria other place) := by
  have waitingLinked : List.Forall₂ link.Trails
      (chronicle.waiting settings detection)
      (otherChronicle.waiting settings other) := by
    refine List.rel_filter ?_ chroniclesLinked.live
    intro trail otherTrail trailsLinked
    simp only [decide_eq_true_eq]
    exact Trails.isWaiting_iff settings linked trailsLinked
  have expiredLinked : List.Forall₂ link.Trails
      (chronicle.expired settings detection)
      (otherChronicle.expired settings other) := by
    refine List.rel_filter ?_ chroniclesLinked.live
    intro trail otherTrail trailsLinked
    simp only [Bool.not_eq_true', decide_eq_false_iff_not]
    exact not_congr (Trails.isWaiting_iff settings linked trailsLinked)
  have sameMatch : bestMatch? settings
      ((chronicle.waiting settings detection).map (·.track)) detection =
        bestMatch? settings
          ((otherChronicle.waiting settings other).map (·.track)) other := by
    refine link.bestMatch?_eq settings linked ?_
    exact List.rel_map (fun _ _ trailsLinked => trailsLinked.1) waitingLinked
  refine ⟨List.rel_append chroniclesLinked.removed expiredLinked, ?_⟩
  simp only [Chronicle.enter, sameMatch]
  split
  · exact forall₂_modify
      (fun _ _ trailsLinked => Trails.join linked trailsLinked place)
      waitingLinked _
  · exact List.rel_append waitingLinked (.cons (Trails.start linked place) .nil)

end Chronicles

/-- The chronicles of corresponding streams correspond. -/
theorem chronicles_ofStream {stream otherStream : List (Detection K T)}
    (linked : List.Forall₂ link.detections stream otherStream) :
    link.Chronicles (Chronicle.ofStream settings criteria stream)
      (Chronicle.ofStream settings otherCriteria otherStream) := by
  -- The chronicle enters the last detection last, so the induction is from
  -- that end.
  induction stream using List.reverseRecOn generalizing otherStream with
  | nil =>
      obtain rfl := List.forall₂_nil_left_iff.mp linked
      exact ⟨.nil, .nil⟩
  | append_singleton stream detection ih =>
      obtain ⟨otherBefore, other, otherAfter, rfl, beforeLinked, lastLinked,
        noMore⟩ := exists_split_of_forall₂ linked
      obtain rfl := List.forall₂_nil_left_iff.mp noMore
      rw [Chronicle.ofStream_concat, Chronicle.ofStream_concat,
        beforeLinked.length_eq]
      exact (ih beforeLinked).enter settings lastLinked _

end Correspondence

end Tracker

end DrivewayWatch
