import DrivewayWatch.Net.Http
import DrivewayWatch.Notification
import DrivewayWatch.Ntfy.Settings

/-!
# Messages

A notification is sent to the push service as a text with headers.  The headers carry the title, a
picture, the priority, and the buttons with which the owner mutes further notifications: every
button sends a command to the control server.
-/

namespace DrivewayWatch.Ntfy

/-- The mute times that an arrival offers, in seconds. -/
def arrivalPresets : List Int := [600, 3600, 14400]

/-- What is offered after a short mute: to end it, or to make it longer. -/
def extensionPresets : List Int := [0, 14400, 43200]

def longMute : Int := 3600

def timeLabel (seconds : Int) : String :=
  if 3600 ≤ seconds then
    let hours := Decimal.text (seconds.tdiv 3600) ++ "h"
    let minutes := (seconds.tmod 3600).tdiv 60
    if minutes = 0 then hours else hours ++ " " ++ Decimal.text minutes ++ "m"
  else Decimal.text (seconds.tdiv 60) ++ "m"

def muteLabel (seconds : Int) : String :=
  if seconds = 0 then "Unmute" else "Mute " ++ timeLabel seconds

def muteCommand (seconds : Int) (key : String) : String :=
  "\x7b\"s\": " ++ Decimal.text seconds ++ ", \"key\": \"" ++ key ++ "\"\x7d"

def muteAction (baseUrl : String) (seconds : Int) (key : String) : String :=
  "http, " ++ muteLabel seconds ++ ", " ++ baseUrl ++ "/mute, body='" ++ muteCommand seconds key ++
    "', headers.content-type=application/json, clear=true"

def muteActions (baseUrl : String) (presets : List Int) (key : String) : String :=
  "; ".intercalate (presets.map fun seconds => muteAction baseUrl seconds key)

/-- The address of a photo on the control server. -/
def photoUrl (baseUrl id : String) : String :=
  baseUrl ++ "/photo/" ++ id ++ ".jpg"

abbrev Header : Type := String × String

variable {K T : Type}

def pictureHeaders (link : Option PictureLink) (url : String) : List Header :=
  let click := if link = some .attach then [] else [("Click", url)]
  let attach := if link = some .click then [] else [("Attach", url)]
  click ++ attach

def arrivalHeaders (settings : Settings K) (arrival : Arrival T) : List Header :=
  let picture := match arrival.photo with
    | some _ => pictureHeaders settings.pictureLink (photoUrl settings.baseUrl arrival.id)
    | none => []
  picture ++
    [("Actions", muteActions settings.baseUrl arrivalPresets arrival.id),
      ("Priority", (settings.priorityOf arrival.classification).name)]

/-- Whether a mute is too long to be made longer. -/
def isLongMute : Option Int → Bool
  | some seconds => longMute < seconds
  | none => false

/-- The headers that only acknowledgements have. -/
def feedbackHeaders (settings : Settings K) : Feedback → List Header
  | .muted key seconds =>
    let actions :=
      if isLongMute seconds then muteAction settings.baseUrl 0 key
      else muteActions settings.baseUrl extensionPresets key
    [("Priority", Priority.min.name), ("Actions", actions)]
  | .unmuted key =>
    [("Priority", Priority.default.name),
      ("Actions", muteActions settings.baseUrl arrivalPresets key)]

/-- The header that proves the right to send, if there is a token. -/
def tokenHeaders (settings : Settings K) : List Header :=
  match settings.token with
  | some token => if token.isEmpty then [] else [("Authorization", "Bearer " ++ token)]
  | none => []

/-- The headers of a message, in order. -/
def headers (settings : Settings K) (notification : Notification T) : List Header :=
  let own := match notification with
    | .arrival arrival => arrivalHeaders settings arrival
    | .feedback feedback => feedbackHeaders settings feedback
  ("Tags", notification.tag) :: ("Title", notification.title) :: own ++ tokenHeaders settings

def request (settings : Settings K) (notification : Notification T) : Net.Request :=
  { method := .post
    url := settings.topicUrl
    headers := headers settings notification
    body := notification.message }

end DrivewayWatch.Ntfy
