import DrivewayWatch.Number.Decimal

/-!
# Counters

What the program counts.  A step of the program reports the counters that it increments; a report
of a run adds them up and shows every counter that was incremented, in the text form that metrics
collectors read.
-/

namespace DrivewayWatch

/-- Which kind of notification was delivered or failed. -/
inductive Delivered where
  | object
  | feedback
  deriving Repr, DecidableEq

/-- Why a notification was not sent. -/
inductive SuppressionReason where
  | muted
  | debounced
  deriving Repr, DecidableEq

/-- One increment of a counter, with the labels that tell it from others of its name. -/
inductive Counter where
  | trackCreated (classification : String)
  | notificationTriggered (classification : String)
  | notificationSent (kind : Delivered)
  | notificationFailed (kind : Delivered)
  | notificationSuppressed (reason : SuppressionReason)
  | descriptionFailed
  | healthPingFailed
  | request (method path : String) (status : Nat)
  deriving Repr, DecidableEq

namespace Counter

def kindLabel : Delivered → String
  | .object => "object"
  | .feedback => "feedback"

def reasonLabel : SuppressionReason → String
  | .muted => "muted"
  | .debounced => "debounced"

def name : Counter → String
  | trackCreated _ => "dmon_tracks_created_total"
  | notificationTriggered _ => "dmon_notifications_triggered_total"
  | notificationSent _ => "dmon_notifications_sent_total"
  | notificationFailed _ => "dmon_notifications_failed_total"
  | notificationSuppressed _ => "dmon_notifications_suppressed_total"
  | descriptionFailed => "dmon_enrichment_failures_total"
  | healthPingFailed => "dmon_health_pings_failed_total"
  | request _ _ _ => "dmon_http_requests_total"

/-- The labels of a counter in the order in which they are reported. -/
def labels : Counter → List (String × String)
  | trackCreated classification => [("classification", classification)]
  | notificationTriggered classification => [("classification", classification)]
  | notificationSent kind => [("kind", kindLabel kind)]
  | notificationFailed kind => [("kind", kindLabel kind)]
  | notificationSuppressed reason => [("reason", reasonLabel reason)]
  | descriptionFailed => []
  | healthPingFailed => []
  | request method path status =>
    [("method", method), ("path", path), ("status", Decimal.text status)]

/-- The text of a label.  Quotes and line ends are escaped; a backslash is doubled unless it comes
before a quote or another backslash.  The flag tells whether the last character was a backslash
that is not written yet. -/
def escapeFrom (pending : Bool) : List Char → List Char
  | [] => if pending then ['\\', '\\'] else []
  | c :: rest =>
    if c = '\n' then '\\' :: 'n' :: escapeFrom pending rest
    else if c = '"' then '\\' :: '"' :: escapeFrom false rest
    else if c = '\\' then
      if pending then '\\' :: '\\' :: escapeFrom false rest else escapeFrom true rest
    else if pending then '\\' :: '\\' :: c :: escapeFrom false rest
    else c :: escapeFrom false rest

def labelText (label : String × String) : List Char :=
  label.1.toList ++ '=' :: '"' :: escapeFrom false label.2.toList ++ ['"']

/-- The name of a counter and, if it has any, its labels between braces. -/
def series (counter : Counter) : List Char :=
  let shown := counter.labels.map labelText
  if shown.isEmpty then counter.name.toList
  else counter.name.toList ++ '\x7b' :: (shown.intersperse [',']).flatten ++ ['\x7d']

/-- The line that reports how often a counter was incremented. -/
def line (counts : List Counter) (counter : Counter) : String :=
  String.ofList (counter.series ++ ' ' :: Decimal.digits (counts.count counter))

/-- One line for every counter of a run that was incremented. -/
def report (counts : List Counter) : List String :=
  counts.eraseDups.map (line counts)

end Counter

end DrivewayWatch
