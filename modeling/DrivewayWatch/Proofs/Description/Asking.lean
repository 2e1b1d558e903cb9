import DrivewayWatch.Dispatch
import DrivewayWatch.Proofs.Description.Envelope

/-!
# When there is a description

A model is asked about an arrival if three things come together: descriptions
are enabled, the arrival has a photo, and its classification has a prompt that
can be read and is not blank.  There is a description exactly if the model was
asked, its reply is a success and carries a content, and the content is read as
a description.  It does not matter which of the two services carries it.
-/

namespace DrivewayWatch

namespace Description

open Json

variable {T : Type}

/-- A description of an arrival is asked for, with a photo and a prompt. -/
structure IsAskedFor (settings : Settings) (files : String → Option Bytes)
    (arrival : Arrival T) (photo : Bytes) (prompt : String) : Prop where
  isEnabled : settings.enabled = true
  isPhoto : arrival.photo = some photo
  isPrompt : ∃ path content,
    settings.promptFiles.lookup arrival.classification = some path ∧
      files path = some content ∧ Text.Utf8.read? content = some prompt
  notBlank : ∃ c ∈ prompt.toList, Text.isBlank c = false

/-- The model is asked for a description of an arrival, and its reply is a
success that carries a content. -/
def IsAnsweredWith (settings : Settings) (files : String → Option Bytes)
    (exchange : Net.Exchange) (arrival : Arrival T) (content : String) : Prop :=
  ∃ photo prompt reply, IsAskedFor settings files arrival photo prompt ∧
    (request settings photo prompt).send exchange = some reply ∧
      Answers settings.service reply content

section Asking

variable {settings : Settings} {files : String → Option Bytes}
  {arrival : Arrival T}

theorem prompt?_eq_some_iff {classification prompt : String} :
    prompt? settings files classification = some prompt ↔
      (∃ path content, settings.promptFiles.lookup classification = some path ∧
        files path = some content ∧ Text.Utf8.read? content = some prompt) ∧
          ∃ c ∈ prompt.toList, Text.isBlank c = false := by
  have notBlank : ¬ Text.isBlankText prompt = true ↔
      ∃ c ∈ prompt.toList, Text.isBlank c = false := by
    simp [Text.isBlankText]
  rw [← notBlank]
  simp only [prompt?, Option.bind_eq_bind, Option.bind_eq_some_iff]
  constructor
  · rintro ⟨path, isPath, found, ⟨content, isContent, isRead⟩, kept⟩
    split at kept
    · cases kept
    · next given =>
        obtain rfl : found = prompt := Option.some.inj kept
        exact ⟨⟨path, content, isPath, isContent, isRead⟩, given⟩
  · rintro ⟨⟨path, content, isPath, isContent, isRead⟩, given⟩
    exact ⟨path, isPath, prompt, ⟨content, isContent, isRead⟩, if_neg given⟩

theorem requestFor?_eq_some_iff {asked : Net.Request} :
    requestFor? settings files arrival = some asked ↔
      ∃ photo prompt, IsAskedFor settings files arrival photo prompt ∧
        asked = request settings photo prompt := by
  unfold requestFor?
  constructor
  · intro isAsked
    split at isAsked
    · cases isAsked
    · next enabled =>
        obtain ⟨photo, isPhoto, isAsked⟩ := Option.bind_eq_some_iff.mp isAsked
        obtain ⟨prompt, isPrompt, isAsked⟩ :=
          Option.bind_eq_some_iff.mp isAsked
        obtain ⟨isPrompt, notBlank⟩ := prompt?_eq_some_iff.mp isPrompt
        exact ⟨photo, prompt, ⟨by simpa using enabled, isPhoto, isPrompt,
          notBlank⟩, (Option.some.inj isAsked).symm⟩
  · rintro ⟨photo, prompt, ⟨enabled, isPhoto, isPrompt, notBlank⟩, rfl⟩
    simp [enabled, isPhoto, prompt?_eq_some_iff.mpr ⟨isPrompt, notBlank⟩]

theorem requestFor?_eq_none_iff :
    requestFor? settings files arrival = none ↔
      ¬ ∃ photo prompt, IsAskedFor settings files arrival photo prompt := by
  simp only [Option.eq_none_iff_forall_ne_some, Ne, requestFor?_eq_some_iff]
  constructor
  · rintro notAsked ⟨photo, prompt, isAsked⟩
    exact notAsked _ ⟨photo, prompt, isAsked, rfl⟩
  · rintro notAsked _ ⟨photo, prompt, isAsked, -⟩
    exact notAsked ⟨photo, prompt, isAsked⟩

/-- There is at most one request to send. -/
theorem IsAskedFor.request_eq {photo otherPhoto : Bytes}
    {prompt otherPrompt : String}
    (isAsked : IsAskedFor settings files arrival photo prompt)
    (otherAsked : IsAskedFor settings files arrival otherPhoto otherPrompt) :
    request settings photo prompt =
      request settings otherPhoto otherPrompt := by
  have first := requestFor?_eq_some_iff.mpr ⟨photo, prompt, isAsked, rfl⟩
  have second := requestFor?_eq_some_iff.mpr
    ⟨otherPhoto, otherPrompt, otherAsked, rfl⟩
  exact Option.some.inj (first.symm.trans second)

end Asking

/-- Neither an empty text nor the word for something unknown is a
description. -/
theorem useful_of_ofOutput {output : List Char} {description : String}
    (isRead : ofOutput output = .ok description) :
    description ≠ "" ∧ description ≠ "unknown" := by
  unfold ofOutput at isRead
  split at isRead
  · cases isRead
  · unfold ofAnswer at isRead
    split at isRead
    · split at isRead
      · cases isRead
      · simp only at isRead
        split at isRead
        · cases isRead
        · next useful =>
            obtain rfl := Except.ok.inj isRead
            exact not_or.mp useful
    · cases isRead

/-- A reply carries one content at most. -/
theorem Answers.content_eq {service : Service} {reply : Net.Reply}
    {content other : String} (answers : Answers service reply content)
    (otherAnswers : Answers service reply other) : content = other := by
  have first := content?_eq_some_some_iff.mpr answers.envelope
  have second := content?_eq_some_some_iff.mpr otherAnswers.envelope
  exact Option.some.inj (Option.some.inj (first.symm.trans second))

theorem ofReply_eq_ok_iff {service : Service} {found : Option Net.Reply}
    {description : String} :
    ofReply service found = .ok description ↔
      ∃ reply content, found = some reply ∧ Answers service reply content ∧
        content ≠ "" ∧ ofOutput content.toList = .ok description := by
  cases found with
  | none => simp [ofReply]
  | some reply =>
      rw [ofReply]
      split
      next success =>
        simp only [bind, Except.bind]
        split
        next fault isOutput =>
          constructor
          · rintro ⟨⟩
          · rintro ⟨_, content, ⟨⟩, answers, nonempty, -⟩
            have isRead :=
              output_eq_ok_iff.mpr ⟨answers.envelope, nonempty⟩
            rw [isOutput] at isRead
            cases isRead
        next content isOutput =>
          obtain ⟨envelope, nonempty⟩ := output_eq_ok_iff.mp isOutput
          have answers : Answers service reply content :=
            ⟨Net.Reply.isSuccess_iff.mp success, envelope⟩
          constructor
          · intro isRead
            exact ⟨reply, content, rfl, answers, nonempty, isRead⟩
          · rintro ⟨_, other, ⟨⟩, otherAnswers, -, isRead⟩
            obtain rfl := answers.content_eq otherAnswers
            exact isRead
      next failed =>
        constructor
        · rintro ⟨⟩
        · rintro ⟨_, content, ⟨⟩, answers, -⟩
          exact absurd (Net.Reply.isSuccess_iff.mpr answers.status) failed

section Attempts

variable {settings : Settings} {files : String → Option Bytes}
  {exchange : Net.Exchange} {arrival : Arrival T}

theorem IsAnsweredWith.content_eq {content other : String}
    (answered : IsAnsweredWith settings files exchange arrival content)
    (otherAnswered : IsAnsweredWith settings files exchange arrival other) :
    content = other := by
  obtain ⟨photo, prompt, reply, isAsked, isReply, answers⟩ := answered
  obtain ⟨otherPhoto, otherPrompt, otherReply, otherAsked, isOther,
    otherAnswers⟩ := otherAnswered
  rw [← isAsked.request_eq otherAsked] at isOther
  obtain rfl : reply = otherReply :=
    Option.some.inj (isReply.symm.trans isOther)
  exact answers.content_eq otherAnswers

theorem ask_of_not_asked
    (notAsked : ¬ ∃ photo prompt,
      IsAskedFor settings files arrival photo prompt) :
    ask settings files exchange arrival = ⟨none, none, false⟩ := by
  rw [ask, requestFor?_eq_none_iff.mpr notAsked]

/-- An attempt fails exactly if a description was asked for and none was
found. -/
theorem ask_of_asked {photo : Bytes} {prompt : String}
    (isAsked : IsAskedFor settings files arrival photo prompt) :
    ask settings files exchange arrival =
      let found := (ofReply settings.service
        ((request settings photo prompt).send exchange)).toOption
      ⟨(request settings photo prompt).sent?, found, found.isNone⟩ := by
  rw [ask, requestFor?_eq_some_iff.mpr ⟨photo, prompt, isAsked, rfl⟩]
  cases read : ofReply settings.service
    ((request settings photo prompt).send exchange) <;>
      simp [read, Except.toOption]

theorem description_ask_eq_some_iff {description : String} :
    (ask settings files exchange arrival).description = some description ↔
      ∃ content, IsAnsweredWith settings files exchange arrival content ∧
        content ≠ "" ∧ ofOutput content.toList = .ok description := by
  by_cases asked : ∃ photo prompt,
      IsAskedFor settings files arrival photo prompt
  · obtain ⟨photo, prompt, isAsked⟩ := asked
    have ok_iff {answer : Except Fault String} :
        answer.toOption = some description ↔ answer = .ok description := by
      cases answer <;> simp [Except.toOption]
    rw [ask_of_asked isAsked, ok_iff, ofReply_eq_ok_iff]
    constructor
    · rintro ⟨reply, content, isReply, answers, nonempty, isRead⟩
      exact ⟨content, ⟨photo, prompt, reply, isAsked, isReply, answers⟩,
        nonempty, isRead⟩
    · rintro ⟨content, ⟨_, _, reply, otherAsked, isReply, answers⟩, nonempty,
        isRead⟩
      rw [otherAsked.request_eq isAsked] at isReply
      exact ⟨reply, content, isReply, answers, nonempty, isRead⟩
  · rw [ask_of_not_asked asked]
    constructor
    · rintro ⟨⟩
    · rintro ⟨content, ⟨photo, prompt, reply, isAsked, -⟩, -⟩
      exact absurd ⟨photo, prompt, isAsked⟩ asked

theorem request_ask_eq_some_iff {sent : Net.Request} :
    (ask settings files exchange arrival).request = some sent ↔
      ∃ photo prompt, IsAskedFor settings files arrival photo prompt ∧
        sent = request settings photo prompt ∧ sent.isSendable = true := by
  by_cases asked : ∃ photo prompt,
      IsAskedFor settings files arrival photo prompt
  · obtain ⟨photo, prompt, isAsked⟩ := asked
    simp only [ask_of_asked isAsked, Net.Request.sent?,
      Option.ite_none_right_eq_some, Option.some.injEq]
    constructor
    · rintro ⟨sendable, rfl⟩
      exact ⟨photo, prompt, isAsked, rfl, sendable⟩
    · rintro ⟨_, _, otherAsked, rfl, sendable⟩
      rw [otherAsked.request_eq isAsked] at sendable ⊢
      exact ⟨sendable, rfl⟩
  · rw [ask_of_not_asked asked]
    constructor
    · rintro ⟨⟩
    · rintro ⟨photo, prompt, isAsked, -⟩
      exact absurd ⟨photo, prompt, isAsked⟩ asked

theorem isFailure_ask_iff :
    (ask settings files exchange arrival).isFailure = true ↔
      (∃ photo prompt, IsAskedFor settings files arrival photo prompt) ∧
        (ask settings files exchange arrival).description = none := by
  by_cases asked : ∃ photo prompt,
      IsAskedFor settings files arrival photo prompt
  · obtain ⟨photo, prompt, isAsked⟩ := asked
    simp only [ask_of_asked isAsked, Option.isNone_iff_eq_none]
    exact (and_iff_right ⟨photo, prompt, isAsked⟩).symm
  · rw [ask_of_not_asked asked]
    simp [asked]

/-- No other request than the one that is sent has a reply that matters. -/
theorem ask_congr_exchange {other : Net.Exchange}
    (agree : ∀ sent, (ask settings files exchange arrival).request = some sent →
      other sent = exchange sent) :
    ask settings files other arrival =
      ask settings files exchange arrival := by
  by_cases asked : ∃ photo prompt,
      IsAskedFor settings files arrival photo prompt
  · obtain ⟨photo, prompt, isAsked⟩ := asked
    have sameReply : (request settings photo prompt).send other =
        (request settings photo prompt).send exchange := by
      rw [ask_of_asked isAsked] at agree
      rw [Net.Request.send, Net.Request.send]
      cases sent : (request settings photo prompt).sent? with
      | none => rfl
      | some request => exact agree request sent
    rw [ask_of_asked isAsked, ask_of_asked isAsked, sameReply]
  · rw [ask_of_not_asked asked, ask_of_not_asked asked]

/-- Whoever carries a content, the description in it is the same. -/
theorem description_ask_eq_of_answered {otherSettings : Settings}
    {otherFiles : String → Option Bytes} {otherExchange : Net.Exchange}
    {otherArrival : Arrival T} {content : String}
    (answered : IsAnsweredWith settings files exchange arrival content)
    (otherAnswered : IsAnsweredWith otherSettings otherFiles otherExchange
      otherArrival content) :
    (ask otherSettings otherFiles otherExchange otherArrival).description =
      (ask settings files exchange arrival).description := by
  ext description
  rw [description_ask_eq_some_iff, description_ask_eq_some_iff]
  constructor
  · rintro ⟨found, isFound, rest⟩
    obtain rfl := otherAnswered.content_eq isFound
    exact ⟨content, answered, rest⟩
  · rintro ⟨found, isFound, rest⟩
    obtain rfl := answered.content_eq isFound
    exact ⟨content, otherAnswered, rest⟩

end Attempts

/-- Only a failed attempt is counted as one. -/
theorem count_descriptionFailed_announce {K : Type}
    (settings : Dispatch.Settings K) (surroundings : Dispatch.Surroundings T)
    (arrival : Arrival T) :
    (Dispatch.announce settings surroundings arrival).counts.count
        .descriptionFailed =
      if (ask settings.description surroundings.files surroundings.exchange
        arrival).isFailure then 1 else 0 := by
  have notSent (exchange : Net.Exchange) (notification : Notification T) :
      (Dispatch.send settings.ntfy exchange notification).counts.count
        .descriptionFailed = 0 := by
    unfold Dispatch.send
    cases Dispatch.deliver settings.ntfy exchange notification <;> rfl
  simp only [Dispatch.announce, List.count_append, notSent, Nat.add_zero]
  split <;> rfl

/-- There is a description exactly when there should be one, the same through
both services.  Descriptions have to be enabled, the arrival has to have a photo
and a prompt that is not blank, and the reply has to be a success whose envelope
carries a content that is read as a description; a description says something.
One request is sent at most, and only if all conditions before it hold; no other
exchange matters.  A failure is counted once if these conditions hold and there
is no description, and never else.  Either service can carry every content, and
two replies that carry one content lead to one result. -/
theorem description_iff_asked_and_answered {K : Type}
    (settings : Dispatch.Settings K) (surroundings : Dispatch.Surroundings T)
    (arrival : Arrival T) :
    let asked := IsAskedFor settings.description surroundings.files arrival
    let attempt := ask settings.description surroundings.files
      surroundings.exchange arrival
    let failures := (Dispatch.announce settings surroundings
      arrival).counts.count .descriptionFailed
    (∀ description, attempt.description = some description ↔
        ∃ content, IsAnsweredWith settings.description surroundings.files
          surroundings.exchange arrival content ∧ content ≠ "" ∧
            ofOutput content.toList = .ok description) ∧
      (∀ description, attempt.description = some description →
        description ≠ "" ∧ description ≠ "unknown") ∧
      (∀ sent, attempt.request = some sent ↔
        ∃ photo prompt, asked photo prompt ∧
          sent = request settings.description photo prompt ∧
            sent.isSendable = true) ∧
      (∀ exchange : Net.Exchange,
        (∀ sent, attempt.request = some sent →
          exchange sent = surroundings.exchange sent) →
        ask settings.description surroundings.files exchange arrival =
          attempt) ∧
      failures ≤ 1 ∧
      (failures = 1 ↔
        (∃ photo prompt, asked photo prompt) ∧ attempt.description = none) ∧
      (∀ (service : Service) (content : String), ∃ reply,
        Answers service reply content) ∧
      ∀ (otherSettings : Settings) (otherFiles : String → Option Bytes)
        (otherExchange : Net.Exchange) (otherArrival : Arrival T)
        (content : String),
        IsAnsweredWith settings.description surroundings.files
          surroundings.exchange arrival content →
        IsAnsweredWith otherSettings otherFiles otherExchange otherArrival
          content →
        (ask otherSettings otherFiles otherExchange otherArrival).description =
          attempt.description := by
  intro asked attempt failures
  have counted : failures = if attempt.isFailure then 1 else 0 :=
    count_descriptionFailed_announce settings surroundings arrival
  refine ⟨fun _ => description_ask_eq_some_iff, ?_,
    fun _ => request_ask_eq_some_iff, fun _ => ask_congr_exchange, ?_, ?_,
    fun _ _ => ⟨_, answers_replyWith _ _⟩, ?_⟩
  · intro description isDescription
    obtain ⟨content, -, -, isRead⟩ :=
      description_ask_eq_some_iff.mp isDescription
    exact useful_of_ofOutput isRead
  · rw [counted]
    split <;> decide
  · have counts_iff : failures = 1 ↔ attempt.isFailure = true := by
      rw [counted]
      split <;> simp_all
    exact counts_iff.trans isFailure_ask_iff
  · intro otherSettings otherFiles otherExchange otherArrival content answered
      otherAnswered
    exact description_ask_eq_of_answered answered otherAnswered

/-- Both services find the description that a model gives. -/
example :
    let content := "\x7b\"type\": \"car\", \"desc\": \"red sedan\"\x7d"
    let arrival : Arrival Instant :=
      ⟨⟨100, 0⟩, "car", "arrived", "e0", some [0xFF, 0xD8], none⟩
    let found (service : Service) :=
      let settings : Settings :=
        { Settings.standard with
          enabled := true
          service := service
          endpoint := "http://localhost/"
          promptFiles := [("car", "car.txt")] }
      (ask settings (fun _ => some (Text.Utf8.bytesOf "What is it?"))
        (fun _ => some (replyWith service content)) arrival).description
    found .ollama = some "red sedan" ∧ found .openai = some "red sedan" := by
  decide +kernel

end Description

end DrivewayWatch
