/-!
# The cosine transform

A block of eight by eight samples and the sixty-four frequencies that it is made of.  Blocks are
kept row by row; a file sends frequencies along the diagonals, the low ones first.
-/

namespace DrivewayWatch.Jpeg

/-- The places of a block in the order in which a file sends them. -/
def diagonalOrder : Array Nat :=
  #[0, 1, 8, 16, 9, 2, 3, 10, 17, 24, 32, 25, 18, 11, 4, 5, 12, 19, 26, 33, 40, 48, 41, 34, 27, 20,
    13, 6, 7, 14, 21, 28, 35, 42, 49, 56, 57, 50, 43, 36, 29, 22, 15, 23, 30, 37, 44, 51, 58, 59,
    52, 45, 38, 31, 39, 46, 53, 60, 61, 54, 47, 55, 62, 63]

def sample (block : FloatArray) (place : Nat) : Float :=
  if h : place < block.size then block[place] else 0.0

/-- The block whose sample in a row and a column is given by a function. -/
def tabulate (value : Nat → Nat → Float) : FloatArray :=
  ⟨(Array.range 64).map fun place => value (place / 8) (place % 8)⟩

def basis : FloatArray :=
  tabulate fun frequency place =>
    let scale := if frequency == 0 then Float.sqrt 0.125 else 0.5
    let turn := 3.14159265358979323846 / 16.0
    scale * Float.cos (Float.ofNat ((2 * place + 1) * frequency) * turn)

/-- The sum of the products of eight pairs of numbers. -/
def eightfold (left right : Nat → Float) : Float :=
  Nat.fold 8 (fun index _ sum => sum + left index * right index) 0.0

def toFrequencies (block : FloatArray) : FloatArray :=
  let across := tabulate fun row frequency =>
    eightfold (fun x => sample block (8 * row + x)) fun x => sample basis (8 * frequency + x)
  tabulate fun frequency column =>
    eightfold (fun y => sample basis (8 * frequency + y)) fun y => sample across (8 * y + column)

def ofFrequencies (block : FloatArray) : FloatArray :=
  let across := tabulate fun row x =>
    eightfold (fun frequency => sample block (8 * row + frequency))
      fun frequency => sample basis (8 * frequency + x)
  tabulate fun y column =>
    eightfold (fun frequency => sample basis (8 * frequency + y))
      fun frequency => sample across (8 * frequency + column)

end DrivewayWatch.Jpeg
