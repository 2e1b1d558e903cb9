import DrivewayWatch.Proofs.Description.Fences
import DrivewayWatch.Proofs.Dispatch.Bookkeeping

/-!
# Errors that a model reports

A model that cannot describe a photo reports an error.  The report is heard only
if there is no description beside it: then the attempt has failed for the reason
that is reported, the failure is counted, and the arrival is announced as it is.
A description beside the error is sent as if no error had been reported.
-/

namespace DrivewayWatch

open Json

namespace Description

section Reports

variable {members : List (String × Value)} {reason : String}

/-- A description stands in an object, and it says something. -/
def HasDescription (members : List (String × Value))
    (description : String) : Prop :=
  ("desc", .string description) ∈ members ∧ description ≠ "" ∧
    description ≠ "unknown"

theorem describes_iff_of_error (reported : ("error", .string reason) ∈ members)
    (description : String) :
    Describes members description ↔ HasDescription members description :=
  ⟨fun describes => ⟨describes.text, describes.useful⟩,
    fun has => ⟨⟨_, _, reported, .inr rfl⟩, has.1, has.2⟩⟩

theorem errorReason_of_mem (nodup : (members.map Prod.fst).Nodup)
    (reported : ("error", .string reason) ∈ members) (nonempty : reason ≠ "") :
    errorReason (.object members) = reason := by
  have isField := (Value.field?_eq_some_iff_mem nodup).mpr reported
  have notEmpty : reason.isEmpty = false := by
    simpa [String.isEmpty_iff] using nonempty
  simp [errorReason, isField, Value.text?, notEmpty]

/-- An object with an error is read as a description, or it fails for the reason
that it gives. -/
theorem ofAnswer_cases_of_error (nodup : (members.map Prod.fst).Nodup)
    (reported : ("error", .string reason) ∈ members) (nonempty : reason ≠ "") :
    (∃ description, HasDescription members description ∧
        ofAnswer (.object members) = .ok description) ∨
      ((¬ ∃ description, HasDescription members description) ∧
        ofAnswer (.object members) = .error (.useless reason)) := by
  by_cases has : ∃ description, HasDescription members description
  · obtain ⟨description, has⟩ := has
    exact .inl ⟨description, has, (ofAnswer_object_eq_ok_iff nodup).mpr
      ((describes_iff_of_error reported description).mpr has)⟩
  · refine .inr ⟨has, ?_⟩
    have noText : ∀ description,
        ofAnswer (.object members) ≠ .ok description := by
      intro description isRead
      exact has ⟨description, (describes_iff_of_error reported description).mp
        ((ofAnswer_object_eq_ok_iff nodup).mp isRead)⟩
    have present := (kind_iff nodup).mpr ⟨_, _, reported, .inr rfl⟩
    rw [ofAnswer, present] at noText ⊢
    simp only [Bool.false_eq_true, if_false] at noText ⊢
    split at noText
    next useless =>
      rw [if_pos useless, errorReason_of_mem nodup reported nonempty]
    next useful => exact absurd rfl (noText _)

theorem ne_empty_of_read? {content : String} {value : Value}
    (isRead : Value.read? (unfenced content.toList) = some value) :
    content ≠ "" := by
  rintro rfl
  have nothing : (Value.read? (unfenced [])).isNone = true := by decide +kernel
  rw [Option.isNone_iff_eq_none] at nothing
  exact absurd (nothing.symm.trans isRead) nofun

end Reports

end Description

namespace Dispatch

open Description

variable {K T : Type}

section Messages

variable {settings : Settings K} {surroundings : Surroundings T}
  {arrival : Arrival T}

theorem body_of_undescribed
    (notFound : foundDescription? settings surroundings arrival = none) :
    (message settings surroundings (.arrival arrival)).body =
      arrival.message := by
  rw [message, toSend, notFound]
  rfl

theorem body_of_described {description : String} (nonempty : description ≠ "")
    (found : foundDescription? settings surroundings arrival =
      some description) :
    (message settings surroundings (.arrival arrival)).body =
      Text.CaseMap.capitalized ("Likely: " ++ description ++ ".") := by
  have notEmpty : ¬ description.isEmpty = true := by
    simpa [String.isEmpty_iff] using nonempty
  rw [message, toSend, found]
  exact if_neg notEmpty

/-- What the model gave is read once, and all that is sent and counted depends
on how it is read. -/
theorem foundDescription?_of_answered {content : String}
    (answered : IsAnsweredWith settings.description surroundings.files
      surroundings.exchange arrival content) (nonempty : content ≠ "") :
    foundDescription? settings surroundings arrival =
      (ofOutput content.toList).toOption := by
  ext description
  rw [foundDescription?, description_ask_eq_some_iff]
  constructor
  · rintro ⟨found, isFound, -, isRead⟩
    obtain rfl := answered.content_eq isFound
    simp [isRead, Except.toOption]
  · intro isFound
    refine ⟨content, answered, nonempty, ?_⟩
    cases isRead : ofOutput content.toList with
    | error fault => simp [isRead, Except.toOption] at isFound
    | ok read => simpa [isRead, Except.toOption] using isFound

theorem isAskedFor_of_answered {content : String}
    (answered : IsAnsweredWith settings.description surroundings.files
      surroundings.exchange arrival content) :
    ∃ photo prompt, IsAskedFor settings.description surroundings.files arrival
      photo prompt := by
  obtain ⟨photo, prompt, -, isAsked, -⟩ := answered
  exact ⟨photo, prompt, isAsked⟩

/-- Who was asked and found nothing has failed. -/
theorem count_descriptionFailed_of_answered {content : String}
    (answered : IsAnsweredWith settings.description surroundings.files
      surroundings.exchange arrival content) :
    (announce settings surroundings arrival).counts.count .descriptionFailed =
      if foundDescription? settings surroundings arrival = none then 1
      else 0 := by
  rw [count_descriptionFailed_announce]
  have failed_iff : (ask settings.description surroundings.files
      surroundings.exchange arrival).isFailure = true ↔ _ :=
    isFailure_ask_iff
  rw [and_iff_right (isAskedFor_of_answered answered)] at failed_iff
  exact if_congr failed_iff rfl rfl

end Messages

variable [Scalar K] [Timeline T]

/-- An error that a model reports about an arrival that is let through, and whose
photo is kept, makes its announcement plain exactly if no description stands
beside it.  Then the attempt has failed for the reason that
is reported, one failure is counted, and the arrival is announced as it is, with
its title if it had no description before.  Otherwise the description is sent
and no failure is counted.  Through both services it is the same. -/
theorem reported_error_makes_plain_iff (settings : Settings K)
    (state : State T) {surroundings : Surroundings T} {arrival : Arrival T}
    (passed : (suppression settings.ntfy surroundings.mute state.lastSent
      arrival).1 = none)
    (isKept : (Timeline.inSeconds? arrival.time 86400).isSome = true)
    {content reason : String} {members : List (String × Value)}
    (answered : IsAnsweredWith settings.description surroundings.files
      surroundings.exchange arrival content)
    (isRead : Value.read? (unfenced content.toList) = some (.object members))
    (reported : ("error", .string reason) ∈ members) (nonempty : reason ≠ "") :
    let attempt := ask settings.description surroundings.files
      surroundings.exchange arrival
    let posted := message settings surroundings (.arrival arrival)
    ∃ report,
      (handle settings surroundings state (.arrival arrival)).2 = some report ∧
      report.requests = attempt.request.toList ++ posted.sent?.toList ∧
      (attempt.description = none ∧
          ofOutput content.toList = .error (.useless reason) ∧
          report.counts.count .descriptionFailed = 1 ∧
          posted.body = arrival.message ↔
        ¬ ∃ description, HasDescription members description) ∧
      (∀ description, HasDescription members description →
        attempt.description = some description ∧
          report.counts.count .descriptionFailed = 0 ∧
          posted.body =
            Text.CaseMap.capitalized ("Likely: " ++ description ++ ".")) ∧
      (arrival.description = none → arrival.message = arrival.title) := by
  have nodup := Value.nodup_keys_of_read? isRead
  have isAnswer : ofOutput content.toList = ofAnswer (.object members) := by
    rw [ofOutput, isRead]
  have found : foundDescription? settings surroundings arrival =
      (ofAnswer (.object members)).toOption := by
    rw [← isAnswer]
    exact foundDescription?_of_answered answered (ne_empty_of_read? isRead)
  have isHandled :
      (handle settings surroundings state (.arrival arrival)).2 =
        some (announce settings surroundings arrival) :=
    snd_handle_of_passed settings passed isKept
  refine ⟨_, isHandled, requests_announce settings surroundings arrival, ?_⟩
  simp only [isAnswer, count_descriptionFailed_of_answered answered]
  have isFound : (ask settings.description surroundings.files
      surroundings.exchange arrival).description =
        (ofAnswer (.object members)).toOption := found
  have untitled : arrival.description = none →
      arrival.message = arrival.title := by
    intro undescribed
    rw [Arrival.message, undescribed]
  refine ⟨?_, ?_, untitled⟩
  · rcases ofAnswer_cases_of_error nodup reported nonempty with
      ⟨description, has, isOk⟩ | ⟨hasNone, isError⟩
    · rw [isFound, isOk]
      constructor
      · rintro ⟨⟨⟩, -⟩
      · intro hasNone
        exact absurd ⟨description, has⟩ hasNone
    · have notFound : foundDescription? settings surroundings arrival =
          none := by
        rw [found, isError]
        rfl
      rw [isFound, notFound, isError]
      exact ⟨fun _ => hasNone, fun _ =>
        ⟨rfl, rfl, if_pos rfl, body_of_undescribed notFound⟩⟩
  · intro description has
    have isOk := (ofAnswer_object_eq_ok_iff nodup).mpr
      ((describes_iff_of_error reported description).mpr has)
    rw [isOk] at found isFound
    rw [isFound, found]
    exact ⟨rfl, rfl, body_of_described has.2.1 found⟩

/-- Settings with a prompt for cars. -/
def promptedFor (service : Service) : Settings Float :=
  ⟨.standard,
    { Description.Settings.standard with
      enabled := true
      service := service
      endpoint := "http://localhost/"
      promptFiles := [("car", "car.txt")] }⟩

/-- A world in which a model always gives the same content. -/
def repliedWith (service : Service) (content : String) :
    Surroundings Instant :=
  ⟨.silent, ⟨200, 0⟩, fun _ => some (Text.Utf8.bytesOf "What is it?"), false,
    fun _ => some (replyWith service content)⟩

def photographedCar : Arrival Instant :=
  ⟨⟨100, 0⟩, "car", "arrived in driveway", "e0", some [0xFF, 0xD8], none⟩

theorem isAnsweredWith_repliedWith (service : Service) (content : String) :
    IsAnsweredWith (promptedFor service).description
      (repliedWith service content).files
      (repliedWith service content).exchange photographedCar content := by
  have isAsked : IsAskedFor (promptedFor service).description
      (repliedWith service content).files photographedCar [0xFF, 0xD8]
      "What is it?" :=
    ⟨rfl, rfl, ⟨_, _, rfl, rfl, by decide +kernel⟩,
      ⟨'W', by decide, by decide⟩⟩
  have sendable : (request (promptedFor service).description [0xFF, 0xD8]
      "What is it?").isSendable = true := by
    cases service <;> decide +kernel
  refine ⟨_, _, replyWith service content, isAsked, ?_,
    answers_replyWith service content⟩
  rw [Net.Request.send, Net.Request.sent?, if_pos sendable]
  rfl

theorem isKept_photographedCar :
    (Timeline.inSeconds? photographedCar.time 86400).isSome = true := by
  decide +kernel

/-- A photo that is too dark leaves the title of its arrival. -/
theorem reported_error_makes_plain_of_dark_photo :
    let content := "\x7b\"error\": \"too dark\", \"desc\": \"unknown\"\x7d"
    let surroundings := repliedWith .openai content
    let settings := promptedFor .openai
    (suppression settings.ntfy surroundings.mute [] photographedCar).1 = none ∧
      (Timeline.inSeconds? photographedCar.time 86400).isSome = true ∧
      ∃ members, Value.read? (unfenced content.toList) =
          some (.object members) ∧
        ("error", .string "too dark") ∈ members ∧ "too dark" ≠ "" ∧
        ((handle settings surroundings .start (.arrival photographedCar)).2.map
          (·.counts.count .descriptionFailed)) = some 1 ∧
        (message settings surroundings (.arrival photographedCar)).body =
          "Car arrived in driveway" := by
  intro content surroundings settings
  have passed : (suppression settings.ntfy surroundings.mute
      State.start.lastSent photographedCar).1 = none := by
    decide +kernel
  have isReported : ((Value.read? (unfenced content.toList)).bind
      (·.field? "error")).bind Value.text? = some "too dark" := by
    decide +kernel
  obtain ⟨members, isRead, reported⟩ :=
    Value.exists_members_of_text isReported
  have nonempty : "too dark" ≠ "" := by decide
  obtain ⟨report, isHandled, -, plain, -, -⟩ :=
    reported_error_makes_plain_iff settings .start passed
      isKept_photographedCar (isAnsweredWith_repliedWith .openai content) isRead
      reported nonempty
  have hasNone : ¬ ∃ description, HasDescription members description := by
    rintro ⟨description, inside, -, known⟩
    have isUseless : ((Value.read? (unfenced content.toList)).bind
        (·.field? "desc")).bind Value.text? = some "unknown" := by
      decide +kernel
    obtain ⟨others, isReadToo, isUnknown⟩ :=
      Value.exists_members_of_text isUseless
    obtain rfl :=
      Value.object.inj (Option.some.inj (isRead.symm.trans isReadToo))
    have nodup := Value.nodup_keys_of_read? isRead
    have first := (Value.field?_eq_some_iff_mem nodup).mpr inside
    have second := (Value.field?_eq_some_iff_mem nodup).mpr isUnknown
    exact known (Value.string.inj (Option.some.inj (first.symm.trans second)))
  obtain ⟨-, -, counted, isBody⟩ := plain.mpr hasNone
  refine ⟨passed, isKept_photographedCar, members, isRead, reported, nonempty,
    ?_, ?_⟩
  · rw [isHandled, Option.map_some, counted]
  · exact isBody.trans (by decide +kernel)

/-- An error is not heard where a description stands beside it. -/
theorem description_beside_error_is_sent :
    let content := "\x7b\"error\": \"too dark\", \"desc\": \"red sedan\"\x7d"
    let surroundings (service : Service) := repliedWith service content
    let answer := Value.read? (unfenced content.toList)
    (answer.bind (·.field? "error")).bind Value.text? = some "too dark" ∧
      ofOutput content.toList = .ok "red sedan" ∧
      ∀ service : Service,
        (suppression (promptedFor service).ntfy (surroundings service).mute []
          photographedCar).1 = none ∧
        foundDescription? (promptedFor service) (surroundings service)
          photographedCar = some "red sedan" ∧
        ((handle (promptedFor service) (surroundings service) .start
          (.arrival photographedCar)).2.map
            (·.counts.count .descriptionFailed)) = some 0 ∧
        (message (promptedFor service) (surroundings service)
          (.arrival photographedCar)).body = "Likely: red sedan." := by
  intro content surroundings answer
  refine ⟨by decide +kernel, by decide +kernel, fun service => ?_⟩
  have passed : (suppression (promptedFor service).ntfy
      (surroundings service).mute State.start.lastSent photographedCar).1 =
        none := by
    cases service <;> decide +kernel
  have answered := isAnsweredWith_repliedWith service content
  have nonempty : content ≠ "" := by decide
  have isRead : ofOutput content.toList = .ok "red sedan" := by decide +kernel
  have found : foundDescription? (promptedFor service) (surroundings service)
      photographedCar = some "red sedan" := by
    rw [foundDescription?_of_answered answered nonempty, isRead]
    rfl
  have isBody := body_of_described (by decide) found
  refine ⟨passed, found, ?_, isBody.trans (by decide +kernel)⟩
  rw [snd_handle_of_passed (promptedFor service) passed isKept_photographedCar,
    Option.map_some, count_descriptionFailed_of_answered answered, found]
  rfl

end Dispatch

end DrivewayWatch
