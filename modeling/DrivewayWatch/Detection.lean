import DrivewayWatch.Geometry
import DrivewayWatch.Text.Utf8
import DrivewayWatch.Time.Instant

/-!
# Frames and detections

A frame is a decoded picture.  A detection is one object seen in one frame; a detector calls it
confirmed once it has followed the object for a while.
-/

namespace DrivewayWatch

/-- A picture: its size and three bytes a pixel, row by row from the top. -/
structure Frame where
  width : Nat
  height : Nat
  pixels : Bytes
  deriving Repr, DecidableEq

/-- One object seen in one frame. -/
structure Detection (K T : Type) where
  id : String
  time : T
  modelId : Int
  classification : String
  isConfirmed : Bool
  box : Box K
  frame : Frame
  deriving Repr, DecidableEq

end DrivewayWatch
