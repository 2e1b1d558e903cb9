import DrivewayWatch.Control.Refusal
import DrivewayWatch.Json.Value
import DrivewayWatch.MuteWindow
import DrivewayWatch.Notification
import DrivewayWatch.Number.Word
import DrivewayWatch.PhotoStore

/-!
# Mute commands

A command names the photo of a recent notification, which proves that the owner gives it, and a
number of seconds.  Less than one second ends the mute window now; any other number sets its end.
-/

namespace DrivewayWatch.Control

open Json

/-- The integer that a number of seconds is; fractions are dropped. -/
def secondsOfNumber : Number → Option Int
  | .natural n => if Word.isSigned n then some n else none
  | .negative n => some n
  | .real x => (truncateFloat? x).filter fun n => Word.least < n ∧ n ≤ Word.greatest

/-- The number of seconds that a value gives, as a number or as text with blanks around it. -/
def seconds? : Value → Option Int
  | .number n => secondsOfNumber n
  | .string content => Decimal.int64? (Text.trim content.toList)
  | _ => none

/-- A mute command. -/
structure MuteCommand where
  key : String
  seconds : Int
  deriving Repr, DecidableEq

namespace MuteCommand

def keyOf (body : Value) : Except Refusal String :=
  match (body.field? "key").bind Value.text? with
  | some key => if key.isEmpty then .error .missingKey else .ok key
  | none => .error .missingKey

def secondsOf (body : Value) : Except Refusal Int :=
  match body.field? "s" with
  | none => .error .missingSeconds
  | some .null => .error .missingSeconds
  | some value =>
    match seconds? value with
    | some seconds => .ok seconds
    | none => .error .invalidSeconds

variable {T : Type}

/-- Reads a command.  Its key has to be that of a photo in the store. -/
def read (photos : PhotoStore T) (body : Bytes) : Except Refusal MuteCommand :=
  match (Text.Utf8.decode body).bind Value.read? with
  | none => .error .invalidBody
  | some value => do
    let key ← keyOf value
    if photos.contains key then return ⟨key, ← secondsOf value⟩
    else .error .unknownKey

def deadline? [Timeline T] (command : MuteCommand) (now : T) : Option T :=
  if command.seconds < 1 then some now else Timeline.inSeconds? now command.seconds

def feedback (command : MuteCommand) : Feedback :=
  if command.seconds < 1 then .unmuted command.key
  else .muted command.key (some command.seconds)

/-- Reads a command and finds the deadline that it sets. -/
def accept [Timeline T] (photos : PhotoStore T) (now : T) (body : Bytes) :
    Except Refusal (MuteCommand × T) := do
  let command ← read photos body
  match command.deadline? now with
  | some deadline => return (command, deadline)
  | none => .error .invalidSeconds

end MuteCommand

end DrivewayWatch.Control
