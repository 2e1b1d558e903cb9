import DrivewayWatch.Description.Settings
import DrivewayWatch.Failure
import DrivewayWatch.Ntfy.Settings
import DrivewayWatch.Rule.TrackRule

/-!
# The configuration

All settings of the program, how they are read from a file, and what is checked before they are
used.
-/

namespace DrivewayWatch

open Json

/-- All settings of the program. -/
structure Configuration where
  intake : Intake.Settings Float
  tracker : TrackerSettings Float
  criteria : CriteriaSettings Float
  ntfy : Ntfy.Settings Float
  description : Description.Settings
  control : Control.Settings

namespace Configuration

/-- The configuration that is used where none is given. -/
def standard : Configuration :=
  { intake := .standard
    tracker := .standard
    criteria := .standard
    ntfy := .standard
    description := .standard
    control := .standard }

/-- Reads a configuration from a document.  Messages link to the address of the control server. -/
def ofDocument? (document : Document) : Option Configuration := do
  match ← document.fields? ["model", "tracker", "notification_criteria", "notifier", "enrichment",
      "web"] with
  | [intake, tracker, criteria, ntfy, description, control] =>
    let ntfy ← Document.orDefault standard.ntfy Ntfy.Settings.ofDocument? ntfy
    let control ← Document.orDefault standard.control Control.Settings.ofDocument? control
    return {
      intake := ← Document.orDefault standard.intake Intake.Settings.ofDocument? intake
      tracker := ← Document.orDefault standard.tracker TrackerSettings.ofDocument? tracker
      criteria := ← Document.orDefault standard.criteria CriteriaSettings.ofDocument? criteria
      ntfy := { ntfy with externalBaseUrl := control.externalBaseUrl }
      description :=
        ← Document.orDefault standard.description Description.Settings.ofDocument? description
      control }
  | _ => none

def read (text : List Char) : Except Failure Configuration :=
  match (Document.read? text).bind ofDocument? with
  | some configuration => .ok configuration
  | none => .error .settingsText

/-- The criteria, ready to be used. -/
def readyCriteria (configuration : Configuration) : Except Failure (Criteria Float Instant) :=
  (Criteria.ofSettings Rule.compile configuration.criteria).mapError .tracking

/-- The failure of a setting that has to be an address of the hypertext protocol. -/
def addressFailure? (setting url : String) : Option Failure :=
  (Net.Url.fault? url).map (.address setting)

def failureOf {α : Type} : Except Failure α → Option Failure
  | .ok _ => none
  | .error failure => some failure

/-- What is checked, in this order: tracking, the reports and where they are sent, the control
server, messages, descriptions, and the rule. -/
def checks (files : String → Option Bytes) (configuration : Configuration) :
    List (Option Failure) :=
  let intake := configuration.intake
  let control := configuration.control
  [configuration.tracker.fault?.map .tracking,
    if intake.hasValidTick then none else some .tick,
    intake.pingUrl.bind (addressFailure? "model.healthcheck_ping_url"),
    addressFailure? "web.external_base_url" control.externalBaseUrl,
    failureOf (control.socket.mapError .listening),
    configuration.ntfy.fault?.map .messaging,
    (configuration.description.fault? files).map .messaging,
    failureOf configuration.readyCriteria]

/-- The first thing that is wrong with a configuration. -/
def failure? (files : String → Option Bytes) (configuration : Configuration) : Option Failure :=
  (configuration.checks files).findSome? id

/-- Reads the configuration of a file, or the standard one without a file. -/
def ofFile (files : String → Option Bytes) : Option String → Except Failure Configuration
  | none => .ok standard
  | some path =>
    match (files path).bind Text.Utf8.decode with
    | none => .error (.settingsFile path)
    | some text => read text

/-- The configuration with a token from outside. -/
def withToken (configuration : Configuration) (token : Option String) : Configuration :=
  { configuration with ntfy := configuration.ntfy.withToken token }

/-- Reads a configuration, takes a token from outside, and checks everything. -/
def load (files : String → Option Bytes) (token path : Option String) :
    Except Failure Configuration := do
  let configuration := (← ofFile files path).withToken token
  match configuration.failure? files with
  | some failure => .error failure
  | none => .ok configuration

/-- How long a ping of the health check may take. -/
def pingTimeout (configuration : Configuration) : Duration :=
  Timeout.forTick configuration.intake.tickSeconds

end Configuration

end DrivewayWatch
