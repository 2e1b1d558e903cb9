import DrivewayWatch.Json.Decode
import DrivewayWatch.Net.Url
import DrivewayWatch.Ntfy.Priority
import DrivewayWatch.SettingsFault
import DrivewayWatch.Time.Timeout

/-!
# Settings of notifications

Where messages are sent, how often, and what they look like.
-/

namespace DrivewayWatch.Ntfy

open Json

/-- How messages are sent.  `externalBaseUrl` is the address under which the owner reaches the
control server; it is configured there. -/
structure Settings (K : Type) where
  server : String
  topic : String
  token : Option String
  debounceSeconds : K
  defaultPriority : Priority
  priorities : List (String × Priority)
  timeoutSeconds : K
  pictureLink : Option PictureLink
  copyDirectory : Option String
  externalBaseUrl : String
  deriving Repr, DecidableEq

namespace Settings

/-- The settings that are used where none are given. -/
def standard : Settings Float :=
  { server := "https://ntfy.sh"
    topic := "driveway-monitor"
    token := none
    debounceSeconds := 60.0
    defaultPriority := .default
    priorities := []
    timeoutSeconds := 10.0
    pictureLink := none
    copyDirectory := none
    externalBaseUrl := "http://localhost:5550" }

def priority? (document : Document) : Option Priority := do
  (Priority.read (← document.text?)).toOption

def pictureLink? (document : Document) : Option PictureLink := do
  (PictureLink.read (← document.text?)).toOption

def ofDocument? (document : Document) : Option (Settings Float) := do
  match ← document.fields? ["server", "topic", "token", "debounce_threshold_s",
      "default_priority", "priorities", "req_timeout_s", "image_method", "images_cc_dir"] with
  | [server, topic, token, debounce, default, priorities, timeout, link, directory] =>
    return { standard with
      server := ← Document.orDefault standard.server (·.text?) server
      topic := ← Document.orDefault standard.topic (·.text?) topic
      token := ← Document.orDefault standard.token (·.optional? (·.text?)) token
      debounceSeconds := ← Document.orDefault standard.debounceSeconds (·.float?) debounce
      defaultPriority := ← Document.orDefault standard.defaultPriority priority? default
      priorities := ← Document.orDefault [] (·.entries? priority?) priorities
      timeoutSeconds := ← Document.orDefault standard.timeoutSeconds (·.float?) timeout
      pictureLink := ← Document.orDefault none (·.optional? pictureLink?) link
      copyDirectory := ← Document.orDefault none (·.optional? (·.text?)) directory }
  | _ => none

variable {K : Type}

/-- The settings with a token from outside, if that is not empty. -/
def withToken (settings : Settings K) : Option String → Settings K
  | none => settings
  | some token => if token.isEmpty then settings else { settings with token := some token }

/-- The priority of messages about a classification. -/
def priorityOf (settings : Settings K) (classification : String) : Priority :=
  (settings.priorities.lookup classification).getD settings.defaultPriority

def withoutSlashes (address : String) : String :=
  String.ofList (address.toList.reverse.dropWhile (· == '/')).reverse

/-- The address of the control server, without slashes at its end. -/
def baseUrl (settings : Settings K) : String :=
  withoutSlashes settings.externalBaseUrl

def topicUrl (settings : Settings K) : String :=
  withoutSlashes settings.server ++ "/" ++ settings.topic

/-- How much time lies between two messages about one classification at least. -/
def debounce [Scalar K] (settings : Settings K) : Duration :=
  Duration.ofSecondsInMilliseconds settings.debounceSeconds

def timeout (settings : Settings Float) : Duration :=
  Timeout.ofSeconds settings.timeoutSeconds

/-- The first thing that is wrong with the settings. -/
def fault? (settings : Settings Float) : Option SettingsFault :=
  if Text.isBlankText settings.topic then some .emptyTopic
  else if !Net.looksLikeHypertext settings.server then some .serverAddress
  else if settings.debounceSeconds < 0.0 then some .negativeDebounce
  else if !Timeout.isValid settings.timeoutSeconds then some .requestTimeout
  else if !Net.looksLikeHypertext settings.externalBaseUrl then some .externalAddress
  else none

end Settings

end DrivewayWatch.Ntfy
