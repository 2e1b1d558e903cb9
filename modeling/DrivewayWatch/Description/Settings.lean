import DrivewayWatch.Json.Decode
import DrivewayWatch.Net.Url
import DrivewayWatch.SettingsFault
import DrivewayWatch.Text.Utf8

/-!
# Settings of descriptions

Which model is asked for descriptions, how, and with which prompt for which classification.
-/

namespace DrivewayWatch.Description

open Json

/-- The two ways to talk to a model: generating a text from a prompt, or completing a chat. -/
inductive Service where
  | ollama
  | openai
  deriving Repr, DecidableEq

def Service.name : Service → String
  | ollama => "ollama"
  | openai => "openai"

/-- How photos are described. -/
structure Settings where
  enabled : Bool
  service : Service
  endpoint : String
  key : Option String
  model : String
  keepAlive : String
  promptFiles : List (String × String)
  timeoutSeconds : Float
  deriving Repr

namespace Settings

/-- The settings that are used where none are given. -/
def standard : Settings :=
  { enabled := false
    service := .ollama
    endpoint := ""
    key := none
    model := "llava"
    keepAlive := "240m"
    promptFiles := []
    timeoutSeconds := 5.0 }

def service? (document : Document) : Option Service := do
  let name ← document.variant?
  [Service.ollama, .openai].find? (·.name = name)

def ofDocument? (document : Document) : Option Settings := do
  match ← document.fields? ["enable", "type", "endpoint", "api_key", "model", "keep_alive",
      "prompt_files", "timeout_s"] with
  | [enabled, service, endpoint, key, model, keepAlive, promptFiles, timeout] =>
    return {
      enabled := ← Document.orDefault standard.enabled (·.bool?) enabled
      service := ← Document.orDefault standard.service service? service
      endpoint := ← Document.orDefault standard.endpoint (·.text?) endpoint
      key := ← Document.orDefault standard.key (·.optional? (·.text?)) key
      model := ← Document.orDefault standard.model (·.text?) model
      keepAlive := ← Document.orDefault standard.keepAlive (·.text?) keepAlive
      promptFiles := ← Document.orDefault [] (·.entries? (·.text?)) promptFiles
      timeoutSeconds := ← Document.orDefault standard.timeoutSeconds (·.float?) timeout }
  | _ => none

def timeout (settings : Settings) : Duration :=
  Timeout.ofSeconds settings.timeoutSeconds

def isReadable (files : String → Option Bytes) (path : String) : Bool :=
  ((files path).bind Text.Utf8.read?).isSome

/-- The first thing that is wrong with the settings; nothing is if descriptions are disabled. -/
def fault? (files : String → Option Bytes) (settings : Settings) : Option SettingsFault :=
  if !settings.enabled then none
  else if !Net.looksLikeHypertext settings.endpoint then some .descriptionEndpoint
  else if !Timeout.isValid settings.timeoutSeconds then some .descriptionTimeout
  else (settings.promptFiles.find? fun entry => !isReadable files entry.2).map fun entry =>
    .promptFile entry.2

end Settings

end DrivewayWatch.Description
