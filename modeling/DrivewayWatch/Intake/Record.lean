import DrivewayWatch.Bytes.Base64
import DrivewayWatch.Detection
import DrivewayWatch.Image.Picture
import DrivewayWatch.Json.Decode
import DrivewayWatch.Number.Word
import DrivewayWatch.Text.Blank
import DrivewayWatch.Time.Reading

/-!
# Detection records

A detector writes one record for each object that it sees in a frame.  The first record of a frame
brings the frame as a picture file in base 64; others of the same frame may leave it out.
-/

namespace DrivewayWatch.Intake

open Json

/-- What a detector says about one object in one frame.  `frame` numbers the frame. -/
structure Record where
  time : Option Instant
  modelId : Int
  classification : String
  isConfirmed : Bool
  box : Box Float
  image : Option String
  frame : Option Nat
  deriving Repr

/-- Why a record yields no detection. -/
inductive RecordFault where
  | unreadable
  | encoding
  | picture
  | noPicture
  deriving Repr, DecidableEq

namespace RecordFault

def reason : RecordFault → String
  | unreadable => "record is not complete"
  | encoding => "image is not valid base64"
  | picture => "error decoding image"
  | noPicture => "record has no image"

def message (fault : RecordFault) : String :=
  "Invalid detection record: " ++ fault.reason

end RecordFault

def point? (document : Document) : Option (Point Float) := do
  match ← document.fields? ["x", "y"] with
  | [some x, some y] => return ⟨← x.float?, ← y.float?⟩
  | _ => none

def box? (document : Document) : Option (Box Float) := do
  match ← document.fields? ["a", "b"] with
  | [some a, some b] => return ⟨← point? a, ← point? b⟩
  | _ => none

def time? (document : Document) : Option Instant := do
  return (← Reading.lenient? (← document.text?).toList).instant

namespace Record

def ofDocument? (document : Document) : Option Record := do
  match ← document.fields? ["t", "model_id", "classification", "is_track", "box", "image",
      "frame"] with
  | [time, some modelId, some classification, isConfirmed, some box, image, frame] =>
    let number := Document.integer? 0 Word.greatestNat
    let frame ← Document.orDefault none (·.optional? number) frame
    return {
      time := ← Document.orDefault none (·.optional? time?) time
      modelId := ← modelId.integer? Word.least Word.greatest
      classification := ← classification.text?
      isConfirmed := ← Document.orDefault false (·.bool?) isConfirmed
      box := ← box? box
      image := ← Document.orDefault none (·.optional? (·.text?)) image
      frame := frame.map Int.toNat }
  | _ => none

def read? (line : List Char) : Option Record := do
  ofDocument? (← Document.read? line)

end Record

/-- The frame that a text brings: a picture file in base 64, with blanks around it. -/
def frameOf (text : String) : Except RecordFault Frame :=
  match Base64.decode (Text.trim text.toList) with
  | none => .error .encoding
  | some file =>
    match Picture.decode? file with
    | none => .error .picture
    | some frame => .ok frame

end DrivewayWatch.Intake
