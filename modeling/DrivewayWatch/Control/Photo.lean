import DrivewayWatch.Control.Refusal
import DrivewayWatch.PhotoStore
import DrivewayWatch.Text.Search

/-!
# Photo requests

A photo is asked for by the id of its notification with a suffix.
-/

namespace DrivewayWatch.Control

def idOfFileName? (name : String) : Option String :=
  (Text.before? ".jpg".toList name.toList).map String.ofList

/-- The photo of a name; one that is expired cannot be found. -/
def photo {T : Type} [Timeline T] (photos : PhotoStore T) (now : T) (name : String) :
    Except Refusal Bytes :=
  match idOfFileName? name with
  | none => .error .invalidFileName
  | some id =>
    match (photos.get? id).filter fun record => !record.isExpired now with
    | none => .error .unknownRecord
    | some record =>
      match record.photo with
      | some photo => .ok photo
      | none => .error .noPhoto

end DrivewayWatch.Control
