import DrivewayWatch.Detection
import DrivewayWatch.Image.Jpeg.Tables
import DrivewayWatch.Image.Jpeg.Transform
import DrivewayWatch.Number.Binary64

/-!
# Writing photos

A frame becomes a photo: its pixels are split into brightness and two colors, every block of eight
by eight samples into frequencies, and the frequencies, rounded to multiples of their steps, are
written with a prefix code.  A side of more than 65535 pixels cannot be written.
-/

namespace DrivewayWatch.Jpeg

def quality : Nat := 90

def longestSide : Nat := 65535

/-- A piece of a bit string: a number and how many bits it has. -/
structure Piece where
  value : Nat
  length : Nat

def sizeBits (n : Int) : Nat :=
  if n == 0 then 0 else Nat.log2 n.natAbs + 1

/-- The bits that tell a number from others of its size. -/
def numberPiece (n : Int) : Piece :=
  let length := sizeBits n
  ⟨(if n < 0 then n + Nat.pow 2 length - 1 else n).toNat, length⟩

def wordTable (code : PrefixCode) : Array Piece :=
  code.words.foldl (fun table (symbol, word, length) => table.setIfInBounds symbol ⟨word, length⟩)
    (Array.replicate 256 ⟨0, 0⟩)

def wordOf (table : Array Piece) (symbol : Nat) : Piece :=
  table.getD symbol ⟨0, 0⟩

/-- The pieces of all frequencies but the first, the latter in the order of the file; `zeros` counts
the zeros passed. -/
def otherPieces (table : Array Piece) (zeros : Nat) : List Int → List Piece
  | [] => if zeros == 0 then [] else [wordOf table 0x00]
  | n :: others =>
    if n == 0 then otherPieces table (zeros + 1) others
    else
      List.replicate (zeros / 16) (wordOf table 0xF0) ++
        wordOf table (zeros % 16 * 16 + sizeBits n) :: numberPiece n :: otherPieces table 0 others

/-- How one component of a picture is written: the steps of its frequencies and its two codes. -/
structure Plan where
  steps : Array Nat
  first : Array Piece
  others : Array Piece

def brightnessPlan : Plan :=
  ⟨stepsFor quality brightnessSteps, wordTable brightnessFirst, wordTable brightnessOthers⟩

def colorPlan : Plan :=
  ⟨stepsFor quality colorSteps, wordTable colorFirst, wordTable colorOthers⟩

def rounded (frequency : Float) (step : Nat) : Int :=
  saturateFloat (frequency / Float.ofNat step).round

/-- The frequencies of a block in the order of the file, as multiples of their steps. -/
def quantized (plan : Plan) (block : FloatArray) : List Int :=
  let frequencies := toFrequencies block
  diagonalOrder.toList.map fun place =>
    rounded (sample frequencies place) (plan.steps.getD place 1)

/-- The pieces of a block; of its first frequency only the difference from `before` is written. -/
def blockPieces (plan : Plan) (before : Int) (block : FloatArray) : Int × List Piece :=
  match quantized plan block with
  | [] => (before, [])
  | first :: others =>
    let difference := first - before
    (first, wordOf plan.first (sizeBits difference) :: numberPiece difference ::
      otherPieces plan.others 0 others)

/-- A byte of the pixels of a frame; beyond an edge the last pixel counts. -/
def byteOf (frame : Frame) (pixels : Array UInt8) (x y channel : Nat) : Float :=
  let column := min x (frame.width - 1)
  let row := min y (frame.height - 1)
  Float.ofNat (pixels.getD (3 * (row * frame.width + column) + channel) 0).toNat

/-- Brightness and the two colors of a pixel, each around zero. -/
def components (red green blue : Float) : Float × Float × Float :=
  (0.299 * red + 0.587 * green + 0.114 * blue - 128.0,
    -0.168736 * red - 0.331264 * green + 0.5 * blue,
    0.5 * red - 0.418688 * green - 0.081312 * blue)

def blockOf (frame : Frame) (pixels : Array UInt8) (left top : Nat)
    (component : Float × Float × Float → Float) : FloatArray :=
  tabulate fun row column =>
    let byte := byteOf frame pixels (left + column) (top + row)
    component (components (byte 0) (byte 1) (byte 2))

/-- The bits that do not fill a byte yet, and the bytes before them with the last one first. -/
structure Output where
  reversed : Bytes
  value : Nat
  length : Nat

/-- Writes whole bytes; one that could be taken for a marker is followed by zero. -/
def Output.flush (output : Output) : (fuel : Nat) → Output
  | 0 => output
  | fuel + 1 =>
    if output.length < 8 then output
    else
      let length := output.length - 8
      let byte := UInt8.ofNat (output.value / Nat.pow 2 length)
      let reversed := byte :: output.reversed
      let stuffed := if byte == 0xFF then 0 :: reversed else reversed
      Output.flush ⟨stuffed, output.value % Nat.pow 2 length, length⟩ fuel

def Output.push (output : Output) (piece : Piece) : Output :=
  let length := output.length + piece.length
  Output.flush ⟨output.reversed, output.value * Nat.pow 2 piece.length + piece.value, length⟩ length

/-- Writes the last bits, filled up with ones. -/
def Output.finish (output : Output) : Bytes :=
  (output.push ⟨127, 7⟩).reversed.reverse

/-- The first frequencies of the last block of every component, and what is written. -/
structure Progress where
  brightness : Int
  blue : Int
  red : Int
  output : Output

def writeUnit (frame : Frame) (pixels : Array UInt8) (progress : Progress) (left top : Nat) :
    Progress :=
  let block := blockOf frame pixels left top
  let (brightness, first) := blockPieces brightnessPlan progress.brightness (block (·.1))
  let (blue, second) := blockPieces colorPlan progress.blue (block (·.2.1))
  let (red, third) := blockPieces colorPlan progress.red (block (·.2.2))
  ⟨brightness, blue, red, (first ++ second ++ third).foldl Output.push progress.output⟩

/-- The bits of all blocks, row by row. -/
def scanBytes (frame : Frame) : Bytes :=
  let pixels := frame.pixels.toArray
  let across := (frame.width + 7) / 8
  let down := (frame.height + 7) / 8
  let progress := Nat.fold (across * down) (fun index _ progress =>
    writeUnit frame pixels progress (8 * (index % across)) (8 * (index / across)))
    ⟨0, 0, 0, ⟨[], 0, 0⟩⟩
  progress.output.finish

/-- A number of two bytes, the higher first. -/
def twoBytes (n : Nat) : Bytes :=
  [UInt8.ofNat (n / 256), UInt8.ofNat n]

def segment (marker : UInt8) (content : Bytes) : Bytes :=
  0xFF :: marker :: twoBytes (content.length + 2) ++ content

/-- The content of the segment that transmits steps. -/
def stepsContent (index : UInt8) (steps : Array Nat) : Bytes :=
  index :: diagonalOrder.toList.map fun place => UInt8.ofNat (steps.getD place 1)

/-- The content of the segment that transmits a code. -/
def codeContent (index : UInt8) (code : PrefixCode) : Bytes :=
  index :: code.counts.map UInt8.ofNat ++ code.symbols.toList.map UInt8.ofNat

def heading (frame : Frame) : Bytes :=
  segment 0xE0 ([0x4A, 0x46, 0x49, 0x46, 0, 1, 2, 0] ++ [0, 1, 0, 1, 0, 0]) ++
    segment 0xDB (stepsContent 0 brightnessPlan.steps) ++
    segment 0xDB (stepsContent 1 colorPlan.steps) ++
    segment 0xC0 (8 :: twoBytes frame.height ++ twoBytes frame.width ++
      [3, 1, 0x11, 0, 2, 0x11, 1, 3, 0x11, 1]) ++
    segment 0xC4 (codeContent 0x00 brightnessFirst) ++
    segment 0xC4 (codeContent 0x10 brightnessOthers) ++
    segment 0xC4 (codeContent 0x01 colorFirst) ++
    segment 0xC4 (codeContent 0x11 colorOthers) ++
    segment 0xDA [3, 1, 0x00, 2, 0x11, 3, 0x11, 0, 63, 0]

def isWritable (frame : Frame) : Bool :=
  frame.width ≤ longestSide && frame.height ≤ longestSide

def encode? (frame : Frame) : Option Bytes :=
  if isWritable frame then
    some (0xFF :: 0xD8 :: heading frame ++ scanBytes frame ++ [0xFF, 0xD9])
  else none

end DrivewayWatch.Jpeg
