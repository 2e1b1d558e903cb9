import DrivewayWatch.Description.Request
import DrivewayWatch.Proofs.Json.Quoting
import DrivewayWatch.Proofs.Json.Record

/-!
# The envelopes of replies

A service puts the output of its model into an envelope of its own: the text of
a generation, or the content of the message of the first choice.  What an
envelope carries is said here for each service, apart from how it is read.
-/

namespace DrivewayWatch

theorem Net.Reply.isSuccess_iff {reply : Net.Reply} :
    reply.isSuccess = true ↔ 200 ≤ reply.status ∧ reply.status < 300 := by
  simp [isSuccess]

namespace Description

open Json Document

/-- A choice holds the content of its message, which may be left out. -/
def IsChoice (choice : Document) (text : Option String) : Prop :=
  ∃ message, HoldsField "message" choice (some message) ∧
    HoldsText "content" message text

/-- An envelope carries a content.  Later choices do not matter, but have to be
choices. -/
inductive Carries : Service → Document → String → Prop
  | generated {envelope : Document} {content : String}
      (text : HoldsText "response" envelope (some content)) :
      Carries .ollama envelope content
  | chosen {envelope first : Document} {others : List Document}
      {content : String}
      (choices : HoldsField "choices" envelope
        (some (.array (first :: others))))
      (isFirst : IsChoice first (some content))
      (readable : ∀ other ∈ others, ∃ text, IsChoice other text) :
      Carries .openai envelope content

/-- A reply is a success and carries a content. -/
structure Answers (service : Service) (reply : Net.Reply)
    (content : String) : Prop where
  status : 200 ≤ reply.status ∧ reply.status < 300
  envelope : ∃ envelope, Document.readBytes? reply.body = some envelope ∧
    Carries service envelope content

/-- A small envelope of a service, with a content in it. -/
def envelopeWith : Service → String → Value
  | .ollama, content => .object [("response", .string content)]
  | .openai, content => .object [("choices", .array [
      .object [("message", .object [("content", .string content)])]])]

/-- A reply that carries a content. -/
def replyWith (service : Service) (content : String) : Net.Reply :=
  ⟨200, Text.Utf8.bytesOf (envelopeWith service content).text⟩

/-- Every content can be carried, by either service. -/
theorem answers_replyWith (service : Service) (content : String) :
    Answers service (replyWith service content) content := by
  have carried : Token.Scans (Value.string content).write
      [.string (some content)] := by
    rw [Value.write]
    exact Token.scans_quoted content
  refine ⟨by simp [replyWith], ?_⟩
  cases service with
  | ollama =>
      have scans := Token.scans_object "response" carried
      refine ⟨.object [(some "response", .string (some content))], ?_, ?_⟩
      · rw [replyWith, envelopeWith, Document.readBytes?_text scans]
        rfl
      · exact .generated (.text (.only ..))
  | openai =>
      have scans := Token.scans_object "choices" (Token.scans_array
        (Token.scans_object "message" (Token.scans_object "content" carried)))
      refine ⟨.object [(some "choices", .array [.object [(some "message",
        .object [(some "content", .string (some content))])]])], ?_, ?_⟩
      · rw [replyWith, envelopeWith, Document.readBytes?_text scans]
        rfl
      · exact .chosen (.only ..) ⟨_, .only .., .text (.only ..)⟩ (by simp)

theorem generated?_eq_some_iff {envelope : Document} {text : Option String} :
    generated? envelope = some text ↔ HoldsText "response" envelope text := by
  rw [← text_of_fields?_iff, generated?]
  cases read : envelope.fields? ["response"] with
  | none => simp
  | some fields =>
      obtain ⟨found, rfl, -⟩ := fields?_singleton_eq_some_iff.mp read
      simp

theorem messageText?_eq_some_iff {message : Document} {text : Option String} :
    messageText? message = some text ↔ HoldsText "content" message text := by
  rw [← text_of_fields?_iff, messageText?]
  cases read : message.fields? ["content"] with
  | none => simp
  | some fields =>
      obtain ⟨found, rfl, -⟩ := fields?_singleton_eq_some_iff.mp read
      simp

theorem choiceText?_eq_some_iff {choice : Document} {text : Option String} :
    choiceText? choice = some text ↔ IsChoice choice text := by
  simp only [IsChoice, ← messageText?_eq_some_iff]
  rw [choiceText?]
  constructor
  · intro read
    obtain ⟨fields, ofRecord, read⟩ := Option.bind_eq_some_iff.mp read
    obtain ⟨found, rfl, holds⟩ := fields?_singleton_eq_some_iff.mp ofRecord
    cases found with
    | none => cases read
    | some message => exact ⟨message, holds, read⟩
  · rintro ⟨message, holds, read⟩
    have ofRecord := fields?_singleton_eq_some_iff.mpr ⟨_, rfl, holds⟩
    simpa [ofRecord] using read

theorem choiceTexts_cons_iff {first : Document} {others : List Document}
    {texts : List (Option String)} :
    (first :: others).mapM choiceText? = some texts ↔
      ∃ text otherTexts, IsChoice first text ∧
        others.mapM choiceText? = some otherTexts ∧
          texts = text :: otherTexts := by
  simp only [List.mapM_cons, Option.bind_eq_bind, Option.bind_eq_some_iff,
    choiceText?_eq_some_iff, Option.pure_def, Option.some.injEq,
    exists_and_left, @eq_comm _ texts]

/-- A list of choices is read if each of them can be. -/
theorem exists_choiceTexts_iff {choices : List Document} :
    (∃ texts, choices.mapM choiceText? = some texts) ↔
      ∀ choice ∈ choices, ∃ text, IsChoice choice text := by
  induction choices with
  | nil => simp
  | cons choice choices ih =>
      simp only [List.forall_mem_cons, choiceTexts_cons_iff]
      rw [← ih]
      constructor
      · rintro ⟨_, text, otherTexts, isChoice, readable, -⟩
        exact ⟨⟨text, isChoice⟩, otherTexts, readable⟩
      · rintro ⟨⟨text, isChoice⟩, otherTexts, readable⟩
        exact ⟨_, text, otherTexts, isChoice, readable, rfl⟩

theorem generated?_eq_some_some_iff {envelope : Document} {content : String} :
    generated? envelope = some (some content) ↔
      Carries .ollama envelope content := by
  rw [generated?_eq_some_iff]
  constructor
  · exact .generated
  · rintro ⟨text⟩
    exact text

theorem chosen?_eq_some_some_iff {envelope : Document} {content : String} :
    chosen? envelope = some (some content) ↔
      Carries .openai envelope content := by
  constructor
  · intro read
    obtain ⟨fields, ofRecord, read⟩ := Option.bind_eq_some_iff.mp read
    obtain ⟨found, rfl, holds⟩ := fields?_singleton_eq_some_iff.mp ofRecord
    obtain ⟨texts, ofChoices, isContent⟩ := Option.bind_eq_some_iff.mp read
    have isContent : texts.head?.join = some content :=
      Option.some.inj isContent
    -- A content has to come from a first choice, so there is one.
    match found, ofChoices with
    | none, ofChoices =>
        obtain rfl : [] = texts := Option.some.inj ofChoices
        cases isContent
    | some (.array []), ofChoices =>
        obtain rfl : [] = texts := Option.some.inj ofChoices
        cases isContent
    | some (.array (first :: others)), ofChoices =>
        obtain ⟨text, otherTexts, isChoice, readable, rfl⟩ :=
          choiceTexts_cons_iff.mp ofChoices
        obtain rfl : text = some content := isContent
        exact .chosen holds isChoice
          (exists_choiceTexts_iff.mp ⟨otherTexts, readable⟩)
  · intro carries
    cases carries with
    | chosen holds isFirst readable =>
        have ofRecord := fields?_singleton_eq_some_iff.mpr ⟨_, rfl, holds⟩
        obtain ⟨texts, ofOthers⟩ := exists_choiceTexts_iff.mpr readable
        have ofChoices := choiceTexts_cons_iff.mpr
          ⟨_, texts, isFirst, ofOthers, rfl⟩
        simp [chosen?, ofRecord, orDefault, list?, ofChoices]

/-- What the body of a reply carries, as it is read; it may lack a text. -/
def content? (service : Service) (body : Bytes) : Option (Option String) := do
  let envelope ← Document.readBytes? body
  match service with
  | .ollama => generated? envelope
  | .openai => chosen? envelope

theorem content?_eq_some_some_iff {service : Service} {body : Bytes}
    {content : String} :
    content? service body = some (some content) ↔
      ∃ envelope, Document.readBytes? body = some envelope ∧
        Carries service envelope content := by
  rw [content?, Option.bind_eq_bind, Option.bind_eq_some_iff]
  refine exists_congr fun envelope => and_congr_right fun _ => ?_
  cases service with
  | ollama => exact generated?_eq_some_some_iff
  | openai => exact chosen?_eq_some_some_iff

/-- The output of a model is read where the envelope carries one that is not
empty. -/
theorem output_eq_ok_iff {service : Service} {body : Bytes}
    {content : String} :
    output service body = .ok content ↔
      (∃ envelope, Document.readBytes? body = some envelope ∧
        Carries service envelope content) ∧ content ≠ "" := by
  rw [← content?_eq_some_some_iff]
  unfold output
  simp only
  split
  next failed =>
    have read : content? service body = none := failed
    simp [read]
  next lacking =>
    have read : content? service body = some none := lacking
    simp [read]
  next found carried =>
    have read : content? service body = some (some found) := carried
    rw [read]
    by_cases isEmpty : found = ""
    · subst isEmpty
      constructor
      · rintro ⟨⟩
      · rintro ⟨⟨⟩, nonempty⟩
        exact absurd rfl nonempty
    · simp only [String.isEmpty_iff, isEmpty, if_false, Except.ok.injEq,
        Option.some.injEq]
      constructor
      · rintro rfl
        exact ⟨rfl, isEmpty⟩
      · exact And.left

end Description

end DrivewayWatch
