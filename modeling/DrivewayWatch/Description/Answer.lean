import DrivewayWatch.Json.Value
import DrivewayWatch.Net.Http
import DrivewayWatch.Text.Blank
import DrivewayWatch.Text.Search

/-!
# Answers of models

A model is asked to describe a photo by an object with a description.  It may wrap the object into
the fences of a code block, and it may report an error instead.
-/

namespace DrivewayWatch.Description

open Json

/-- Why there is no description. -/
inductive Fault where
  | noReply
  | refused (status : Nat)
  | badEnvelope
  | noContent
  | notJson
  | notObject
  | missingKeys
  | useless (reason : String)
  deriving Repr, DecidableEq

namespace Fault

def reason : Fault → String
  | noReply => ""
  | refused status => "endpoint returned " ++ Net.statusText status
  | badEnvelope => "invalid response envelope"
  | noContent => "response is missing"
  | notJson => "model did not produce valid JSON"
  | notObject => "model did not produce a JSON object"
  | missingKeys => "model did not produce expected JSON keys"
  | useless reason => "model could not produce a useful description: " ++ reason

def message : Fault → String
  | noReply => "HTTP request failed"
  | fault => "Enrichment failed: " ++ fault.reason

end Fault

def fence : List Char := List.replicate 3 (Char.ofNat 0x60)

/-- What follows the opening fence, which may name the language of the block. -/
def afterFence (text : List Char) : List Char :=
  match Text.after? (fence ++ "json".toList) text with
  | some rest => rest
  | none => (Text.after? fence text).getD text

def beforeFence (text : List Char) : List Char :=
  (Text.before? fence text).getD text

def unfenced (text : List Char) : List Char :=
  Text.trim (beforeFence (afterFence (Text.trim text)))

def errorReason (answer : Value) : String :=
  match (answer.field? "error").bind Value.text? with
  | some reason => if reason.isEmpty then "(no error returned)" else reason
  | none => "(no error returned)"

def ofAnswer (answer : Value) : Except Fault String :=
  match answer with
  | .object _ =>
    if (answer.field? "type").isNone && (answer.field? "error").isNone then .error .missingKeys
    else
      let description := ((answer.field? "desc").bind Value.text?).getD "unknown"
      if description = "" ∨ description = "unknown" then .error (.useless (errorReason answer))
      else .ok description
  | _ => .error .notObject

def ofOutput (output : List Char) : Except Fault String :=
  match Value.read? (unfenced output) with
  | none => .error .notJson
  | some answer => ofAnswer answer

end DrivewayWatch.Description
