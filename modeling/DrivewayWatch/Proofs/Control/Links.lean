import DrivewayWatch.Control.Server
import DrivewayWatch.Proofs.Control.Keys
import DrivewayWatch.Proofs.Control.Labels
import DrivewayWatch.Proofs.Dispatch.Photos
import DrivewayWatch.Proofs.Text.Utf8

/-!
# Links to photos

A notification links to its photo under the id that it has in the store.  The
last segment of the link is a name that the server takes apart again, so that
exactly the stored bytes are found until the record expires.  Pruning and the
server use two tests of their own for what is expired; they agree, so pruning
that is not ahead of a request does not change its answer.
-/

namespace DrivewayWatch

namespace Net.Url

theorem percentDecoded_of_not_mem {text : List Char} (plain : '%' ∉ text) :
    percentDecoded text = Text.Utf8.encode text := by
  induction text with
  | nil => rfl
  | cons c text ih =>
      rw [List.mem_cons, not_or] at plain
      have noEscape : ∀ (a b : Char) (rest : List Char),
          c = '%' → text = a :: b :: rest → False := by
        intro _ _ _ isPercent _
        exact plain.1 isPercent.symm
      -- The second equation is for characters that begin no escape.
      rw [percentDecoded.eq_2 _ _ noEscape, ih plain.2]
      simp [Text.Utf8.encode]

theorem behindLast_append {mark : Char} {rest : List Char}
    (apart : mark ∉ rest) (front : List Char) :
    behindLast mark (front ++ mark :: rest) = (rest, true) := by
  have kept : ∀ c ∈ rest.reverse, (c != mark) = true := by
    intro c member
    have differs : c ≠ mark := by
      rintro rfl
      exact apart (List.mem_reverse.mp member)
    simpa using differs
  have behind : (front ++ mark :: rest).reverse.takeWhile (· != mark) =
      rest.reverse := by
    rw [List.reverse_append, List.reverse_cons, List.append_assoc,
      List.takeWhile_append_of_pos kept]
    simp
  rw [behindLast, if_pos (by simp), behind, List.reverse_reverse]

end Net.Url

namespace Control

/-- The last segment of the path of an address. -/
def lastSegment (url : String) : List Char :=
  (Net.Url.behindLast '/' url.toList).1

section Names

variable {id : String} (plain : ∀ c ∈ id.toList, c.isAlphanum = true)

include plain

/-- Nothing in the name of a photo is taken for anything else in an address. -/
theorem not_mem_name {c : Char} (isMark : c ∈ ['/', '%', '?', '#']) :
    c ∉ (id ++ ".jpg").toList := by
  simp only [List.mem_cons, List.not_mem_nil, or_false] at isMark
  have notAlphanum : c.isAlphanum = false := by
    rcases isMark with rfl | rfl | rfl | rfl <;> rfl
  have notSuffix : c ∉ ".jpg".toList := by
    rcases isMark with rfl | rfl | rfl | rfl <;> simp
  rw [String.toList_append, List.mem_append, not_or]
  refine ⟨fun member => ?_, notSuffix⟩
  rw [plain c member] at notAlphanum
  cases notAlphanum

theorem lastSegment_photoUrl (baseUrl : String) :
    lastSegment (Ntfy.photoUrl baseUrl id) = (id ++ ".jpg").toList := by
  have split : (Ntfy.photoUrl baseUrl id).toList =
      (baseUrl ++ "/photo").toList ++ '/' :: (id ++ ".jpg").toList := by
    simp [Ntfy.photoUrl]
  rw [lastSegment, split,
    Net.Url.behindLast_append (not_mem_name plain (by simp))]

/-- The name of a photo means itself. -/
theorem read?_name :
    Text.Utf8.read? (Net.Url.percentDecoded (id ++ ".jpg").toList) =
      some (id ++ ".jpg") := by
  rw [Net.Url.percentDecoded_of_not_mem (not_mem_name plain (by simp)),
    Text.Utf8.read?, Text.Utf8.decode_encode, Option.map_some,
    String.ofList_toList]

end Names

section Photos

variable {T : Type} [Timeline T] {photos : PhotoStore T} {now : T} {id : String}

/-- A record with a picture is found to the end of its time. -/
theorem photo_eq_ok_iff {picture : Bytes} :
    photo photos now (id ++ ".jpg") = .ok picture ↔
      ∃ record, photos.get? id = some record ∧
        record.photo = some picture ∧ ¬ record.expires < now := by
  rw [photo, idOfFileName?_append]
  simp only
  cases photos.get? id with
  | none => simp
  | some record =>
      by_cases expired : record.expires < now
      · simp [PhotoRecord.isExpired, expired, Option.filter_some_neg]
      · cases taken : record.photo <;>
          simp [PhotoRecord.isExpired, expired, Option.filter_some_pos, taken]

/-- A name with the suffix is not found or found. -/
theorem status_of_photo_eq_error {refusal : Refusal}
    (isRefused : photo photos now (id ++ ".jpg") = .error refusal) :
    refusal.kind.status = 404 := by
  rw [photo, idOfFileName?_append] at isRefused
  simp only at isRefused
  split at isRefused
  · cases isRefused
    rfl
  · split at isRefused <;> cases isRefused
    rfl

theorem photo_of_not_suffix {name : String}
    (noSuffix : ¬ ".jpg".toList <:+ name.toList) :
    photo photos now name = .error .invalidFileName := by
  have noId : idOfFileName? name = none := by
    rw [idOfFileName?, Option.map_eq_none_iff,
      Option.eq_none_iff_forall_ne_some]
    intro before found
    exact noSuffix ⟨before, (Text.eq_append_of_before?_eq_some found).symm⟩
  rw [photo, noId]

end Photos

/-- Pruning that is not ahead of a request does not change what it finds. -/
theorem photo_prune {photos : PhotoStore Instant} (keyed : photos.IsKeyed)
    {earlier now : Instant} (inOrder : ¬ now < earlier) (name : String) :
    photo (photos.prune earlier) now name = photo photos now name := by
  have sameRecord (id : String) :
      ((photos.prune earlier).get? id).filter (!·.isExpired now) =
        (photos.get? id).filter (!·.isExpired now) := by
    rw [PhotoStore.get?_prune keyed]
    exact Dispatch.alive_alive inOrder _
  simp only [photo, sameRecord]

theorem answerPhoto_foldl_pruned {state : State Instant}
    (keyed : state.photos.IsKeyed) {times : List Instant} {now : Instant}
    (inOrder : ∀ time ∈ times, ¬ now < time) (name : List Char) :
    answerPhoto (times.foldl State.pruned state) now name =
      answerPhoto state now name := by
  induction times generalizing state with
  | nil => rfl
  | cons time times ih =>
      obtain ⟨first, later⟩ := List.forall_mem_cons.mp inOrder
      have keyedAfter : (state.pruned time).photos.IsKeyed := keyed.prune time
      rw [List.foldl_cons, ih keyedAfter later]
      simp only [answerPhoto, State.pruned, photo_prune keyed first]

section Answers

variable {T : Type} [Timeline T] (state : State T) (now : T)

theorem status_answerPhoto_of_not_suffix {name : List Char}
    (noSuffix : ∀ text,
      Text.Utf8.read? (Net.Url.percentDecoded name) = some text →
        ¬ ".jpg".toList <:+ text.toList) :
    (answerPhoto state now name).status = 400 := by
  rw [answerPhoto]
  split
  · rfl
  · next text spelled =>
      rw [photo_of_not_suffix (noSuffix text spelled)]
      rfl

variable {id : String} (plain : ∀ c ∈ id.toList, c.isAlphanum = true)

include plain

theorem answerPhoto_name_of_ok {picture : Bytes}
    (found : photo state.photos now (id ++ ".jpg") = .ok picture) :
    answerPhoto state now (id ++ ".jpg").toList =
      .of 200 (.picture picture) := by
  simp only [answerPhoto, read?_name plain, found]

theorem answerPhoto_name_of_error {refusal : Refusal}
    (found : photo state.photos now (id ++ ".jpg") = .error refusal) :
    answerPhoto state now (id ++ ".jpg").toList = .refused refusal := by
  simp only [answerPhoto, read?_name plain, found]

theorem answerPhoto_name_eq_picture_iff {picture : Bytes} :
    answerPhoto state now (id ++ ".jpg").toList = .of 200 (.picture picture) ↔
      ∃ record, state.photos.get? id = some record ∧
        record.photo = some picture ∧ ¬ record.expires < now := by
  rw [← photo_eq_ok_iff]
  cases found : photo state.photos now (id ++ ".jpg") with
  | ok other =>
      rw [answerPhoto_name_of_ok state now plain found]
      simp [Response.of]
  | error refusal =>
      rw [answerPhoto_name_of_error state now plain found]
      simp [Response.of, Response.refused]

theorem status_answerPhoto_name (missing : ¬ ∃ record picture,
    state.photos.get? id = some record ∧ record.photo = some picture ∧
      ¬ record.expires < now) :
    (answerPhoto state now (id ++ ".jpg").toList).status = 404 := by
  cases found : photo state.photos now (id ++ ".jpg") with
  | error refusal =>
      rw [answerPhoto_name_of_error state now plain found]
      exact status_of_photo_eq_error found
  | ok picture =>
      obtain ⟨record, isFound⟩ := photo_eq_ok_iff.mp found
      exact absurd ⟨record, picture, isFound⟩ missing

/-- A request for the path of a link comes to the photo of its name. -/
theorem ofPath?_name (hasMetrics : Bool) :
    Route.ofPath? hasMetrics ("/photo/".toList ++ (id ++ ".jpg").toList) =
      some (.photo (id ++ ".jpg").toList) := by
  have noSlash := not_mem_name plain (c := '/') (by simp)
  rw [Route.ofPath?, Text.after?_append]
  simpa using noSlash

theorem answer_name {request : Request} (isGet : request.method = "GET")
    (isTarget : request.target.toList =
      "/photo/".toList ++ (id ++ ".jpg").toList)
    (isShort : (announcedLength? request).any (bodyLimit < ·) = false) :
    (answer state now request).2 =
      answerPhoto state now (id ++ ".jpg").toList := by
  have apart {c : Char} (isMark : c ∈ ['?', '#']) :
      c ∉ "/photo/".toList ++ (id ++ ".jpg").toList := by
    rw [List.mem_append, not_or]
    refine ⟨?_, not_mem_name plain ?_⟩
    · simp only [List.mem_cons, List.not_mem_nil, or_false] at isMark
      rcases isMark with rfl | rfl <;> simp
    · exact List.mem_cons_of_mem _ (List.mem_cons_of_mem _ isMark)
  have isPath : pathOf request.target =
      "/photo/".toList ++ (id ++ ".jpg").toList := by
    rw [← isTarget] at apart ⊢
    exact pathOf_eq_toList (apart (by simp)) (apart (by simp))
  have counted : answerCounted state now request =
      (state, answerPhoto state now (id ++ ".jpg").toList) := by
    rw [answerCounted, isShort, if_neg (by simp), isPath,
      ofPath?_name plain state.hasMetrics]
    simp [isGet, Route.methods, answerRoute]
  rw [answer, if_neg (by simp [isGet]), counted]

end Answers

/-- Links to photos resolve to the exact bytes until they expire.  Take the last
segment of the link to an id of letters and digits.  The server answers it with
a picture exactly if there is a record of the id with this picture, to the last
instant of its time; else it does not find the photo.  A request for the path of
the link gets this answer.  A name without the suffix is not valid.  Where every
id has one record, pruning any number of times, none of them ahead of the
request, changes no answer.  So the link of an arrival with a photo that is not
suppressed works for a day, as long as no other arrival with its id is
announced, whatever is handled meanwhile; but if that day has no end, the arrival
ends dispatching and leaves the photos as they were. -/
theorem photo_links_resolve_until_expiry {K : Type} [Scalar K]
    (settings : Dispatch.Settings K) (baseUrl : String) {id : String}
    (plain : ∀ c ∈ id.toList, c.isAlphanum = true) :
    let name := lastSegment (Ntfy.photoUrl baseUrl id)
    (∀ (state : State Instant) (now : Instant) (picture : Bytes),
      answerPhoto state now name = .of 200 (.picture picture) ↔
        ∃ record, state.photos.get? id = some record ∧
          record.photo = some picture ∧ ¬ record.expires < now) ∧
    (∀ (state : State Instant) (now : Instant),
      (¬ ∃ record picture, state.photos.get? id = some record ∧
        record.photo = some picture ∧ ¬ record.expires < now) →
      (answerPhoto state now name).status = 404) ∧
    (∀ (state : State Instant) (now : Instant) (request : Request),
      request.method = "GET" →
      request.target.toList = "/photo/".toList ++ name →
      (announcedLength? request).any (bodyLimit < ·) = false →
      (answer state now request).2 = answerPhoto state now name) ∧
    (∀ (state : State Instant) (now : Instant) (other : List Char),
      (∀ text, Text.Utf8.read? (Net.Url.percentDecoded other) = some text →
        ¬ ".jpg".toList <:+ text.toList) →
      (answerPhoto state now other).status = 400) ∧
    (∀ (state : State Instant) (times : List Instant) (now : Instant),
      state.photos.IsKeyed → (∀ time ∈ times, ¬ now < time) →
      ∀ other, answerPhoto (times.foldl State.pruned state) now other =
        answerPhoto state now other) ∧
    (∀ (start : Dispatch.State Instant)
      (surroundings : Dispatch.Surroundings Instant)
      (arrival : Arrival Instant) (picture : Bytes) (expires : Instant)
      (queue : List (Dispatch.Surroundings Instant × Notification Instant))
      (state : State Instant) (now : Instant),
      start.photos.IsKeyed → arrival.id = id → arrival.photo = some picture →
      (Dispatch.suppression settings.ntfy surroundings.mute start.lastSent
        arrival).1 = none →
      Timeline.inSeconds? arrival.time 86400 = some expires →
      (∀ other ∈ Dispatch.announced settings
        (Dispatch.handle settings surroundings start (.arrival arrival)).1
          queue, other.id ≠ id) →
      (∀ entry ∈ (surroundings, .arrival arrival) :: queue,
        ¬ now < entry.1.now) →
      ¬ expires < now →
      state.photos = (Dispatch.run settings start
        ((surroundings, .arrival arrival) :: queue)).1.photos →
      answerPhoto state now name = .of 200 (.picture picture)) ∧
    ∀ (start : Dispatch.State Instant)
      (surroundings : Dispatch.Surroundings Instant)
      (arrival : Arrival Instant)
      (queue : List (Dispatch.Surroundings Instant × Notification Instant)),
      (Dispatch.suppression settings.ntfy surroundings.mute start.lastSent
        arrival).1 = none →
      Timeline.inSeconds? arrival.time 86400 = none →
      (Dispatch.run settings start
        ((surroundings, .arrival arrival) :: queue)).1.photos =
          start.photos := by
  intro name
  have isName : name = (id ++ ".jpg").toList :=
    lastSegment_photoUrl plain baseUrl
  rw [isName]
  refine ⟨fun state now _ => answerPhoto_name_eq_picture_iff state now plain,
    fun state now => status_answerPhoto_name state now plain,
    fun state now _ => answer_name state now plain,
    fun state now _ => status_answerPhoto_of_not_suffix state now,
    fun _ _ _ keyed inOrder => answerPhoto_foldl_pruned keyed inOrder, ?_, ?_⟩
  · rintro start surroundings arrival picture expires queue state now keyed rfl
      isPicture passed ends noOther inOrder notPast samePhotos
    have isKept : Dispatch.recordOf? arrival =
        some ⟨arrival.id, expires, arrival.photo⟩ :=
      PhotoRecord.new?_eq_some_iff.mpr ⟨expires, ends, rfl⟩
    have found := Dispatch.get?_run_of_announced settings keyed passed isKept
      noOther inOrder notPast
    rw [← samePhotos] at found
    exact (answerPhoto_name_eq_picture_iff state now plain).mpr
      ⟨_, found, isPicture, notPast⟩
  · intro start surroundings arrival queue passed endless
    have hasEnded := (Dispatch.handle_eq_none_iff settings surroundings start
      (.arrival arrival)).mpr ⟨arrival, rfl, passed, endless⟩
    rw [Dispatch.run_cons_of_ended hasEnded,
      Dispatch.photos_handle_of_ended settings hasEnded]

/-- The server with the photos that are left when a car was announced and then a
mute command was acknowledged. -/
def afterCar : State Instant :=
  let settings : Dispatch.Settings Float := ⟨.standard, .standard⟩
  { hasMetrics := false
    mute := .silent
    photos := (Dispatch.run settings .start
      [(Dispatch.quiet 100, .arrival
          ⟨⟨100, 0⟩, "car", "arrived", "e0", some [0xFF, 0xD8], none⟩),
        (Dispatch.quiet 200, .feedback (.unmuted "e0"))]).1.photos
    isHeard := true
    queue := []
    counts := [] }

/-- The link of the car works to the last instant of its day. -/
theorem photo_links_resolve_until_expiry_of_car :
    (∀ c ∈ "e0".toList, c.isAlphanum = true) ∧
      answerPhoto afterCar ⟨86500, 0⟩
          (lastSegment (Ntfy.photoUrl "http://gate" "e0")) =
        .of 200 (.picture [0xFF, 0xD8]) := by
  have plain : ∀ c ∈ "e0".toList, c.isAlphanum = true := by
    intro c member
    have isLetter : c = 'e' ∨ c = '0' := by simpa using member
    rcases isLetter with rfl | rfl <;> rfl
  let settings : Dispatch.Settings Float := ⟨.standard, .standard⟩
  obtain ⟨-, -, -, -, -, lasts, -⟩ :=
    photo_links_resolve_until_expiry settings "http://gate" plain
  refine ⟨plain, ?_⟩
  refine lasts .start (Dispatch.quiet 100)
    ⟨⟨100, 0⟩, "car", "arrived", "e0", some [0xFF, 0xD8], none⟩ [0xFF, 0xD8]
    ⟨86500, 0⟩ [(Dispatch.quiet 200, .feedback (.unmuted "e0"))] afterCar
    ⟨86500, 0⟩ PhotoStore.isKeyed_empty rfl rfl ?_ ?_ ?_ ?_ ?_ rfl
  · decide +kernel
  · decide +kernel
  · have noneAnnounced : Dispatch.announced settings
        (Dispatch.handle settings (Dispatch.quiet 100) .start (.arrival
          ⟨⟨100, 0⟩, "car", "arrived", "e0", some [0xFF, 0xD8], none⟩)).1
        [(Dispatch.quiet 200, .feedback (.unmuted "e0"))] = [] :=
      rfl
    rw [noneAnnounced]
    rintro _ ⟨⟩
  · refine List.forall_mem_cons.mpr ⟨by decide, ?_⟩
    exact List.forall_mem_singleton.mpr (by decide)
  · decide

/-- The link of an arrival on the last day of all time is not found, although
that day is not past. -/
theorem link_of_late_photo_is_not_found :
    let settings : Dispatch.Settings Float := ⟨.standard, .standard⟩
    let arrival : Arrival Instant :=
      ⟨⟨8210266876799, 0⟩, "car", "arrived", "e0", some [0xFF, 0xD8], none⟩
    let state := { afterCar with
      photos := (Dispatch.run settings .start
        [(Dispatch.quiet 100, .arrival arrival)]).1.photos }
    (Dispatch.suppression settings.ntfy .silent
        Dispatch.State.start.lastSent arrival).1 = none ∧
      (answerPhoto state ⟨100, 0⟩
        (lastSegment (Ntfy.photoUrl "http://gate" "e0"))).status = 404 := by
  decide +kernel

end Control

end DrivewayWatch
