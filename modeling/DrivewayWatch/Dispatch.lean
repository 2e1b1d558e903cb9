import DrivewayWatch.Counter
import DrivewayWatch.Description.Request
import DrivewayWatch.ImageCopy
import DrivewayWatch.MuteWindow
import DrivewayWatch.Ntfy.Message
import DrivewayWatch.PhotoStore

/-!
# Dispatching notifications

Notifications are handled one after another, each once and none again.  An arrival is suppressed if
it falls into the mute window, or if it follows an arrival of its classification too closely; else
its photo is stored, a description is asked for, and the message is sent.  Acknowledgements are
always sent.

A photo is stored for a day.  If the end of that day lies beyond the last instant that can be named,
dispatching ends then and there: nothing is done any more about the arrival, and later notifications
are not handled.

Everything that comes from outside while one notification is handled is its `Surroundings`.  They
decide what is sent and whether it arrives, but never what is suppressed.
-/

namespace DrivewayWatch.Dispatch

variable {K T : Type}

/-- Why a message did not arrive. -/
inductive Failure where
  | noReply
  | refused (status : Nat) (body : Bytes)
  deriving Repr, DecidableEq

def Failure.message : Failure → String
  | noReply => "HTTP request failed"
  | refused status body =>
    "Delivery failed: ntfy returned " ++ Net.statusText status ++ ": " ++
      String.ofList (Text.Utf8.decodeLenient body)

/-- Why an arrival was not announced. -/
inductive Suppression (T : Type) where
  | muted (deadline : T)
  | debounced
  deriving Repr, DecidableEq

/-- The reason under which a suppression is counted. -/
def Suppression.reason : Suppression T → SuppressionReason
  | muted _ => .muted
  | debounced => .debounced

/-- What came of a notification. -/
inductive Outcome (T : Type) where
  | sent
  | suppressed (suppression : Suppression T)
  | failed
  deriving Repr, DecidableEq

/-- How notifications are dispatched. -/
structure Settings (K : Type) where
  ntfy : Ntfy.Settings K
  description : Description.Settings

/-- What is remembered between notifications: when an arrival of each classification was last let
through, the photos, and the copies of photos. -/
structure State (T : Type) where
  lastSent : List (String × T)
  photos : PhotoStore T
  copies : ImageCopy.Directory
  deriving Repr, DecidableEq

def State.start : State T :=
  ⟨[], .empty, []⟩

/-- What comes from outside while a notification is handled: the mute window, the time at its end,
the files, whether copies can be written, and the replies of other servers. -/
structure Surroundings (T : Type) where
  mute : MuteWindow T
  now : T
  files : String → Option Bytes
  copiesWork : Bool
  exchange : Net.Exchange

/-- What was done about a notification: its outcome, the requests in order, and what is counted. -/
structure Report (T : Type) where
  outcome : Outcome T
  requests : List Net.Request
  counts : List Counter

/-- Remembers when an arrival of a classification was let through. -/
def setLast (lastSent : List (String × T)) (classification : String) (time : T) :
    List (String × T) :=
  (classification, time) :: lastSent.filter (·.1 != classification)

/-- Whether an arrival follows the last one of its classification too closely. -/
def isDebounced [Scalar K] [Timeline T] (settings : Ntfy.Settings K) (lastSent : List (String × T))
    (arrival : Arrival T) : Bool :=
  match lastSent.lookup arrival.classification with
  | some last => Timeline.since arrival.time last < settings.debounce
  | none => false

/-- Whether an arrival is suppressed, by the mute window first.  One that is not becomes the last
one of its classification. -/
def suppression [Scalar K] [Timeline T] (settings : Ntfy.Settings K) (mute : MuteWindow T)
    (lastSent : List (String × T)) (arrival : Arrival T) :
    Option (Suppression T) × List (String × T) :=
  match mute.activeAt arrival.time with
  | some deadline => (some (.muted deadline), lastSent)
  | none =>
    if isDebounced settings lastSent arrival then (some .debounced, lastSent)
    else (none, setLast lastSent arrival.classification arrival.time)

def deliver (settings : Ntfy.Settings K) (exchange : Net.Exchange)
    (notification : Notification T) : Except Failure Unit :=
  match (Ntfy.request settings notification).send exchange with
  | none => .error .noReply
  | some reply => if reply.isSuccess then .ok () else .error (.refused reply.status reply.body)

/-- The kind under which a notification is counted. -/
def kindOf : Notification T → Delivered
  | .arrival _ => .object
  | .feedback _ => .feedback

/-- Sends a message and counts whether it arrived. -/
def send (settings : Ntfy.Settings K) (exchange : Net.Exchange) (notification : Notification T) :
    Report T :=
  let requests := (Ntfy.request settings notification).sent?.toList
  match deliver settings exchange notification with
  | .ok _ => ⟨.sent, requests, [.notificationSent (kindOf notification)]⟩
  | .error _ => ⟨.failed, requests, [.notificationFailed (kindOf notification)]⟩

/-- The copies of photos after one more arrival. -/
def copied (settings : Ntfy.Settings K) (copiesWork : Bool) (copies : ImageCopy.Directory)
    (arrival : Arrival T) : ImageCopy.Directory :=
  match settings.copyDirectory, arrival.photo with
  | some _, some photo => if copiesWork then ImageCopy.write copies photo else copies
  | _, _ => copies

/-- The arrival with the description that was found. -/
def described (arrival : Arrival T) : Option String → Arrival T
  | some description => arrival.describedAs description
  | none => arrival

/-- Asks for a description of an arrival and sends it. -/
def announce (settings : Settings K) (surroundings : Surroundings T) (arrival : Arrival T) :
    Report T :=
  let attempt :=
    Description.ask settings.description surroundings.files surroundings.exchange arrival
  let failures := if attempt.isFailure then [Counter.descriptionFailed] else []
  let report :=
    send settings.ntfy surroundings.exchange (.arrival (described arrival attempt.description))
  { report with
    requests := attempt.request.toList ++ report.requests
    counts := failures ++ report.counts }

variable [Scalar K] [Timeline T]

/-- Suppresses an arrival or announces it.  There is no report if its photo cannot be stored. -/
def handleArrival (settings : Settings K) (surroundings : Surroundings T) (state : State T)
    (arrival : Arrival T) : State T × Option (Report T) :=
  let copies := copied settings.ntfy surroundings.copiesWork state.copies arrival
  match suppression settings.ntfy surroundings.mute state.lastSent arrival with
  | (some suppression, lastSent) =>
    ({ state with lastSent, copies },
      some ⟨.suppressed suppression, [], [.notificationSuppressed suppression.reason]⟩)
  | (none, lastSent) =>
    match PhotoRecord.new? arrival.id arrival.time arrival.photo with
    | none => ({ state with lastSent, copies }, none)
    | some record =>
      (⟨lastSent, state.photos.insert record, copies⟩,
        some (announce settings surroundings arrival))

/-- Handles a notification, and removes photos whose time has passed.  Where there is no report,
dispatching has ended before they are looked at. -/
def handle (settings : Settings K) (surroundings : Surroundings T) (state : State T)
    (notification : Notification T) : State T × Option (Report T) :=
  let handled := match notification with
    | .arrival arrival => handleArrival settings surroundings state arrival
    | .feedback feedback =>
      (state, some (send settings.ntfy surroundings.exchange (.feedback feedback)))
  match handled with
  | (next, none) => (next, none)
  | (next, some report) =>
    ({ next with photos := next.photos.prune surroundings.now }, some report)

/-- Handles the notifications of a queue, each in its surroundings, until dispatching ends. -/
def run (settings : Settings K) (state : State T) :
    List (Surroundings T × Notification T) → State T × List (Report T)
  | [] => (state, [])
  | (surroundings, notification) :: queue =>
    match handle settings surroundings state notification with
    | (next, none) => (next, [])
    | (next, some report) =>
      let (last, reports) := run settings next queue
      (last, report :: reports)

end DrivewayWatch.Dispatch
