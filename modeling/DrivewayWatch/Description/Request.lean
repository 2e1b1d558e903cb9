import DrivewayWatch.Bytes.Base64
import DrivewayWatch.Description.Answer
import DrivewayWatch.Description.Settings
import DrivewayWatch.Json.Printer
import DrivewayWatch.Notification

/-!
# Asking for a description

A description is asked for if descriptions are enabled, the arrival has a photo, and there is a
prompt for its classification.  The model is asked once; whatever goes wrong leaves the arrival
without a description.
-/

namespace DrivewayWatch.Description

open Json

def photoText (photo : Bytes) : String :=
  String.ofList (Base64.encode photo)

def generateBody (settings : Settings) (photo : Bytes) (prompt : String) : Value :=
  .object [("model", .string settings.model), ("stream", .bool false),
    ("images", .array [.string (photoText photo)]), ("keep_alive", .string settings.keepAlive),
    ("format", .string "json"), ("prompt", .string prompt)]

def chatBody (settings : Settings) (photo : Bytes) (prompt : String) : Value :=
  let picture := "data:image/jpeg;base64," ++ photoText photo
  let content := Value.array [
    .object [("type", .string "text"), ("text", .string prompt)],
    .object [("type", .string "image_url"), ("image_url", .object [("url", .string picture)])]]
  .object [("model", .string settings.model),
    ("messages", .array [.object [("role", .string "user"), ("content", content)]]),
    ("response_format", .object [("type", .string "json_object")])]

/-- The header that proves the right to ask, if there is a key. -/
def keyHeaders (settings : Settings) : List (String × String) :=
  match settings.key with
  | some key => if key.isEmpty then [] else [("Authorization", "Bearer " ++ key)]
  | none => []

def request (settings : Settings) (photo : Bytes) (prompt : String) : Net.Request :=
  let contentType := ("Content-Type", "application/json")
  match settings.service with
  | .ollama =>
    { method := .post
      url := settings.endpoint
      headers := [contentType]
      body := (generateBody settings photo prompt).text }
  | .openai =>
    { method := .post
      url := settings.endpoint
      headers := contentType :: keyHeaders settings
      body := (chatBody settings photo prompt).text }

/-- The text in a reply to a request to generate one; none if the reply has no text. -/
def generated? (document : Document) : Option (Option String) := do
  match ← document.fields? ["response"] with
  | [content] => Document.orDefault none (·.optional? (·.text?)) content
  | _ => none

def messageText? (document : Document) : Option (Option String) := do
  match ← document.fields? ["content"] with
  | [content] => Document.orDefault none (·.optional? (·.text?)) content
  | _ => none

def choiceText? (document : Document) : Option (Option String) := do
  match ← document.fields? ["message"] with
  | [some message] => messageText? message
  | _ => none

/-- The text of the first choice in a reply to a request to complete a chat. -/
def chosen? (document : Document) : Option (Option String) := do
  match ← document.fields? ["choices"] with
  | [choices] => return (← Document.orDefault [] (·.list? choiceText?) choices).head?.join
  | _ => none

/-- The output of the model in the body of a reply. -/
def output (service : Service) (body : Bytes) : Except Fault String :=
  let envelope := do
    let document ← Document.readBytes? body
    match service with
    | .ollama => generated? document
    | .openai => chosen? document
  match envelope with
  | none => .error .badEnvelope
  | some none => .error .noContent
  | some (some content) => if content.isEmpty then .error .noContent else .ok content

def ofReply (service : Service) : Option Net.Reply → Except Fault String
  | none => .error .noReply
  | some reply =>
    if reply.isSuccess then do ofOutput (← output service reply.body).toList
    else .error (.refused reply.status)

/-- The prompt for a classification, if there is one that is not blank. -/
def prompt? (settings : Settings) (files : String → Option Bytes) (classification : String) :
    Option String := do
  let path ← settings.promptFiles.lookup classification
  let prompt ← (files path).bind Text.Utf8.read?
  if Text.isBlankText prompt then none else some prompt

/-- The request for the description of an arrival, if one is asked for. -/
def requestFor? {T : Type} (settings : Settings) (files : String → Option Bytes)
    (arrival : Arrival T) : Option Net.Request :=
  if !settings.enabled then none
  else do
    let photo ← arrival.photo
    return request settings photo (← prompt? settings files arrival.classification)

/-- What came of asking for a description: the request if one was sent,
the answer to it, and whether the attempt failed. -/
structure Attempt where
  request : Option Net.Request
  description : Option String
  isFailure : Bool
  deriving Repr

def ask {T : Type} (settings : Settings) (files : String → Option Bytes)
    (exchange : Net.Exchange) (arrival : Arrival T) : Attempt :=
  match requestFor? settings files arrival with
  | none => ⟨none, none, false⟩
  | some request =>
    match ofReply settings.service (request.send exchange) with
    | .ok description => ⟨request.sent?, some description, false⟩
    | .error _ => ⟨request.sent?, none, true⟩

end DrivewayWatch.Description
