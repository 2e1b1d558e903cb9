import DrivewayWatch.Number.Scalar

/-!
# Points and boxes

Detections are placed in a frame whose upper left corner is the origin and whose lower right corner
is `(1, 1)`.  Boxes are given by two corners and are not required to be in order; all measures are
plain arithmetic on the corners.
-/

namespace DrivewayWatch

/-- A point of the frame. -/
structure Point (K : Type) where
  x : K
  y : K
  deriving Repr, DecidableEq

/-- A box, given by its upper left corner and its lower right corner. -/
structure Box (K : Type) where
  a : Point K
  b : Point K
  deriving Repr, DecidableEq

namespace Box

variable {K : Type} [Scalar K]

def ofCorners (ax ay bx byy : K) : Box K :=
  ⟨⟨ax, ay⟩, ⟨bx, byy⟩⟩

/-- The width, negative if the corners are out of order. -/
def width (box : Box K) : K :=
  box.b.x - box.a.x

/-- The height, negative if the corners are out of order. -/
def height (box : Box K) : K :=
  box.b.y - box.a.y

def midpoint (first second : K) : K :=
  (first + second) / Scalar.ofNat 2

def center (box : Box K) : Point K :=
  ⟨midpoint box.a.x box.b.x, midpoint box.a.y box.b.y⟩

def area (box : Box K) : K :=
  box.width * box.height

def sharedArea (first second : Box K) : K :=
  Scalar.greater (Scalar.lesser first.b.x second.b.x - Scalar.greater first.a.x second.a.x)
      (Scalar.ofNat 0) *
    Scalar.greater (Scalar.lesser first.b.y second.b.y - Scalar.greater first.a.y second.a.y)
      (Scalar.ofNat 0)

/-- The area that two boxes share, as a part of the area that they cover together. -/
def overlap (first second : Box K) : K :=
  sharedArea first second / (first.area + second.area - sharedArea first second)

/-- The box whose corners lie halfway between the corners of two boxes. -/
def average (first second : Box K) : Box K :=
  ofCorners (midpoint first.a.x second.a.x) (midpoint first.a.y second.a.y)
    (midpoint first.b.x second.b.x) (midpoint first.b.y second.b.y)

/-- The sum of one coordinate over a list of boxes. -/
def total (coordinate : Box K → K) (boxes : List (Box K)) : K :=
  boxes.foldl (fun sum box => sum + coordinate box) (Scalar.ofNat 0)

/-- The mean of one coordinate over a list of boxes. -/
def meanOf (coordinate : Box K → K) (boxes : List (Box K)) : K :=
  total coordinate boxes / Scalar.ofNat boxes.length

/-- The box whose corners are the means of the corners of the boxes; none for no boxes. -/
def mean? : List (Box K) → Option (Box K)
  | [] => none
  | boxes => some (ofCorners (meanOf (·.a.x) boxes) (meanOf (·.a.y) boxes)
      (meanOf (·.b.x) boxes) (meanOf (·.b.y) boxes))

def join (first second : Box K) : Box K :=
  ofCorners (Scalar.lesser first.a.x second.a.x) (Scalar.lesser first.a.y second.a.y)
    (Scalar.greater first.b.x second.b.x) (Scalar.greater first.b.y second.b.y)

/-- The smallest box around all boxes of a list; none for no boxes. -/
def enclosing? : List (Box K) → Option (Box K)
  | [] => none
  | first :: rest => some (rest.foldl join first)

end Box

/-- A movement: its length, and its direction in degrees, counted counterclockwise from the right.
Upwards is 90 and straight left is -180. -/
structure Movement where
  direction : Float
  length : Float
  deriving Repr

namespace Movement

def degrees (radians : Float) : Float :=
  radians * (180.0 / 3.14159265358979323846264338327950288)

def between (start finish : Point Float) : Movement :=
  let dx := finish.x - start.x
  let dy := finish.y - start.y
  { direction := -(degrees (Float.atan2 dy dx))
    length := Float.sqrt (dx * dx + dy * dy) }

end Movement

def Point.distance (first second : Point Float) : Float :=
  let dx := first.x - second.x
  let dy := first.y - second.y
  Float.sqrt (dx * dx + dy * dy)

end DrivewayWatch
