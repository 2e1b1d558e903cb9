import DrivewayWatch.Control.Mute
import DrivewayWatch.Control.Photo
import DrivewayWatch.Counter
import DrivewayWatch.Net.Url

/-!
# The control server

The server answers requests one after another.  It knows the mute window and the photos, and it
queues an acknowledgement for every mute command.  Every request but a browser's question for
permission is counted, under a path in which the names of photos are left out.
-/

namespace DrivewayWatch.Control

open Json

variable {T : Type}

/-- A request to the control server. -/
structure Request where
  method : String
  target : String
  headers : List (String × String)
  body : Bytes
  deriving Repr, DecidableEq

/-- What is sent back. -/
inductive Body where
  | none
  | value (value : Value)
  | picture (content : Bytes)
  | text (content : String)
  | metrics (lines : List String)
  deriving Repr

/-- A response to a request. -/
structure Response where
  status : Nat
  allow : Option String
  permission : Bool
  body : Body
  deriving Repr

namespace Response

def bare (status : Nat) : Response :=
  ⟨status, none, false, .none⟩

def of (status : Nat) (body : Body) : Response :=
  ⟨status, none, false, body⟩

/-- The response to a command or a question that went well. -/
def ok : Response :=
  of 200 (.value (.object [("status", .string "ok")]))

def refused (refusal : Refusal) : Response :=
  of refusal.kind.status (.value (.object [("detail", .string refusal.message)]))

def contentType? : Body → Option String
  | .none => Option.none
  | .value _ => some "application/json"
  | .picture _ => some "image/jpeg"
  | .text _ => some "text/plain; charset=utf-8"
  | .metrics _ => some "text/plain; charset=utf-8"

/-- The headers of a response.  Pages from everywhere may use the server. -/
def headers (response : Response) : List (String × String) :=
  let permission :=
    if response.permission then
      [("access-control-allow-methods", "*"), ("access-control-allow-headers", "*"),
        ("access-control-max-age", "600")]
    else []
  let content := (contentType? response.body).toList.map fun type => ("content-type", type)
  let allow := response.allow.toList.map fun methods => ("allow", methods)
  content ++ allow ++ ("access-control-allow-origin", "*") :: permission

end Response

/-- What can be asked of the server. -/
inductive Route where
  | health
  | mute
  | photo (name : List Char)
  | metrics
  deriving Repr, DecidableEq

namespace Route

def ofPath? (hasMetrics : Bool) (path : List Char) : Option Route :=
  if path = "/health".toList then some health
  else if path = "/mute".toList then some mute
  else if hasMetrics ∧ path = "/metrics".toList then some metrics
  else match Text.after? "/photo/".toList path with
    | some name => if name.isEmpty || name.contains '/' then none else some (photo name)
    | none => none

def methods : Route → List String
  | mute => ["POST"]
  | _ => ["GET", "HEAD"]

end Route

/-- What the server knows and what it has done: whether it reports its counters, the mute window,
the photos, whether acknowledgements are still taken, those that are queued, and what is counted. -/
structure State (T : Type) where
  hasMetrics : Bool
  mute : MuteWindow T
  photos : PhotoStore T
  isHeard : Bool
  queue : List Feedback
  counts : List Counter
  deriving Repr

def bodyLimit : Nat := 16 * 1024

/-- The length of the body that a request announces. -/
def announcedLength? (request : Request) : Option Nat :=
  (request.headers.find? fun header => header.1.toLower = "content-length").bind fun header =>
    Decimal.nat64? header.2.toList

/-- The path of a target, without the question behind it. -/
def pathOf (target : String) : List Char :=
  target.toList.takeWhile fun c => c != '?' && c != '#'

/-- Queues the acknowledgement of a command, if acknowledgements are still taken. -/
def push (state : State T) (feedback : Feedback) : State T :=
  if state.isHeard then { state with queue := state.queue ++ [feedback] } else state

variable [Timeline T]

def obey (state : State T) (now : T) (body : Bytes) : State T × Response :=
  match MuteCommand.accept state.photos now body with
  | .error refusal => (state, .refused refusal)
  | .ok (command, deadline) =>
    (push { state with mute := state.mute.setDeadline deadline } command.feedback, .ok)

/-- Obeys the command in a request, unless its body is too long. -/
def answerMute (state : State T) (now : T) (request : Request) : State T × Response :=
  let limit := min bodyLimit ((announcedLength? request).getD bodyLimit)
  if limit < request.body.length then
    (state, .of 413 (.text "Failed to buffer the request body: length limit exceeded"))
  else obey state now request.body

def answerPhoto (state : State T) (now : T) (name : List Char) : Response :=
  match Text.Utf8.read? (Net.Url.percentDecoded name) with
  | none => .of 400 (.text "Invalid URL: Invalid UTF-8 in \x60name\x60")
  | some name =>
    match photo state.photos now name with
    | .ok content => .of 200 (.picture content)
    | .error refusal => .refused refusal

/-- Answers a request on a route that allows its method. -/
def answerRoute (state : State T) (now : T) (request : Request) : Route → State T × Response
  | .health => (state, .ok)
  | .mute => answerMute state now request
  | .photo name => (state, answerPhoto state now name)
  | .metrics => (state, .of 200 (.metrics (Counter.report state.counts)))

def answerCounted (state : State T) (now : T) (request : Request) : State T × Response :=
  if (announcedLength? request).any (bodyLimit < ·) then
    (state, .of 413 (.text "length limit exceeded"))
  else match Route.ofPath? state.hasMetrics (pathOf request.target) with
    | none => (state, .bare 404)
    | some route =>
      if route.methods.contains request.method then answerRoute state now request route
      else (state, { Response.bare 405 with allow := some (",".intercalate route.methods) })

def countedPath (path : List Char) : String :=
  if Text.startsWith path "/photo/".toList then "/photo/:name" else String.ofList path

/-- Grants a browser the permission that it asks for. -/
def permit (state : State T) (request : Request) : Response :=
  let route := Route.ofPath? state.hasMetrics (pathOf request.target)
  { Response.bare 200 with
    allow := route.map fun route => ",".intercalate route.methods
    permission := true }

def answer (state : State T) (now : T) (request : Request) : State T × Response :=
  if request.method = "OPTIONS" then (state, permit state request)
  else
    let (next, response) := answerCounted state now request
    let count :=
      Counter.request request.method (countedPath (pathOf request.target)) response.status
    ({ next with counts := next.counts ++ [count] }, response)

end DrivewayWatch.Control
