import DrivewayWatch.Detection
import DrivewayWatch.Image.Jpeg.Scan
import DrivewayWatch.Number.Binary64

/-!
# Reading photos

A photo file is a sequence of segments: the layout of the picture, tables, and scans.  When all
scans have been read, the frequencies of every block become samples again, and the samples of the
components at one place become a pixel.  A file has to be complete, up to its end marker.
-/

namespace DrivewayWatch.Jpeg

/-- A component of a picture: its name, how many blocks of it a unit has in both directions, and the
number of its table of steps. -/
structure Component where
  name : Nat
  across : Nat
  down : Nat
  steps : Nat

/-- The layout of a picture. -/
structure Layout where
  width : Nat
  height : Nat
  components : List Component

namespace Layout

/-- The most blocks that a component has across a unit. -/
def mostAcross (layout : Layout) : Nat :=
  (layout.components.map (·.across)).foldl max 1

/-- The most blocks that a component has down a unit. -/
def mostDown (layout : Layout) : Nat :=
  (layout.components.map (·.down)).foldl max 1

/-- The quotient, rounded up. -/
def divideUp (n d : Nat) : Nat :=
  (n + d - 1) / d

def unitsAcross (layout : Layout) : Nat :=
  divideUp layout.width (8 * layout.mostAcross)

def unitsDown (layout : Layout) : Nat :=
  divideUp layout.height (8 * layout.mostDown)

/-- The number of blocks in a row of a component. -/
def lineLength (layout : Layout) (component : Component) : Nat :=
  layout.unitsAcross * component.across

def blockCount (layout : Layout) (component : Component) : Nat :=
  layout.lineLength component * (layout.unitsDown * component.down)

end Layout

/-- What has been read of a file. -/
structure File where
  steps : Array (Array Nat)
  first : Array PrefixCode
  others : Array PrefixCode
  restart : Nat
  isPlain : Bool
  layout : Option Layout
  blocks : Array (Array Block)
  hasScan : Bool

def noCode : PrefixCode :=
  ⟨[], #[]⟩

def File.empty : File :=
  { steps := Array.replicate 4 #[]
    first := Array.replicate 4 noCode
    others := Array.replicate 4 noCode
    restart := 0
    isPlain := false
    layout := none
    blocks := #[]
    hasScan := false }

/-- Pairs of bytes as numbers, the higher byte first. -/
def pairs : Bytes → List Nat
  | a :: b :: rest => (a.toNat * 256 + b.toNat) :: pairs rest
  | _ => []

/-- The steps in the order of the file, put row by row. -/
def inRows (steps : List Nat) : Array Nat :=
  (diagonalOrder.toList.zip steps).foldl
    (fun table (place, step) => table.setIfInBounds place step) (Array.replicate 64 1)

def readSteps? (file : File) : (fuel : Nat) → Bytes → Option File
  | 0, _ => some file
  | fuel + 1, bytes =>
    match bytes with
    | [] => some file
    | kind :: rest =>
      let length := if kind.toNat / 16 == 0 then 64 else 128
      let values := rest.take length
      let steps := if length == 64 then values.map UInt8.toNat else pairs values
      if steps.length ≠ 64 ∨ 1 < kind.toNat / 16 ∨ 3 < kind.toNat % 16 then none
      else
        let table := inRows steps
        readSteps? { file with steps := file.steps.setIfInBounds (kind.toNat % 16) table } fuel
          (rest.drop length)

def readCodes? (file : File) : (fuel : Nat) → Bytes → Option File
  | 0, _ => some file
  | fuel + 1, bytes =>
    match bytes with
    | [] => some file
    | kind :: rest =>
      let counts := (rest.take 16).map UInt8.toNat
      let total := counts.foldl (· + ·) 0
      let symbols := (rest.drop 16).take total
      let code : PrefixCode := ⟨counts, (symbols.map UInt8.toNat).toArray⟩
      let index := kind.toNat % 16
      if counts.length ≠ 16 ∨ symbols.length ≠ total ∨ !code.fits ∨ 3 < index ∨
          1 < kind.toNat / 16 then none
      else
        let file :=
          if kind.toNat / 16 == 0 then { file with first := file.first.setIfInBounds index code }
          else { file with others := file.others.setIfInBounds index code }
        readCodes? file fuel (rest.drop (16 + total))

def components? : Bytes → Option (List Component)
  | [] => some []
  | name :: sampling :: steps :: rest => do
    let across := sampling.toNat / 16
    let down := sampling.toNat % 16
    if across = 0 ∨ 4 < across ∨ down = 0 ∨ 4 < down ∨ 3 < steps.toNat then none
    else return ⟨name.toNat, across, down, steps.toNat⟩ :: (← components? rest)
  | _ => none

def readLayout? (file : File) : Bytes → Option File
  | 8 :: a :: b :: c :: d :: count :: rest => do
    let components ← components? rest
    let layout : Layout := ⟨c.toNat * 256 + d.toNat, a.toNat * 256 + b.toNat, components⟩
    if file.layout.isSome ∨ layout.width = 0 ∨ layout.height = 0 ∨
        components.length ≠ count.toNat ∨ components.length ∉ [1, 3, 4] then none
    else
      let blank : Block := Array.replicate 64 0
      let blocks := components.map fun component =>
        Array.replicate (layout.blockCount component) blank
      return { file with layout := some layout, blocks := blocks.toArray }
  | _ => none

/-- A component in a scan: its place among the components and its two codes. -/
structure ScanPart where
  index : Nat
  component : Component
  first : PrefixCode
  others : PrefixCode

def scanParts? (file : File) (layout : Layout) :
    (count : Nat) → Bytes → Option (List ScanPart × Bytes)
  | 0, bytes => some ([], bytes)
  | count + 1, name :: codes :: rest => do
    let (component, index) ←
      layout.components.zipIdx.find? fun entry => entry.1.name == name.toNat
    let part : ScanPart :=
      ⟨index, component, file.first.getD (codes.toNat / 16) noCode,
        file.others.getD (codes.toNat % 16) noCode⟩
    let (parts, rest) ← scanParts? file layout count rest
    return (part :: parts, rest)
  | _, _ => none

/-- The blocks that a scan brings, unit by unit: the place of the part and of the block. -/
def units (layout : Layout) : List ScanPart → List (List (Nat × Nat))
  | [part] =>
    let across := Layout.divideUp (layout.width * part.component.across) (8 * layout.mostAcross)
    let down := Layout.divideUp (layout.height * part.component.down) (8 * layout.mostDown)
    let line := layout.lineLength part.component
    (List.range down).flatMap fun y => (List.range across).map fun x => [(0, y * line + x)]
  | parts =>
    let blocksOf := fun (x y : Nat) (entry : ScanPart × Nat) =>
      let component := entry.1.component
      (List.range component.down).flatMap fun v => (List.range component.across).map fun h =>
        (entry.2, (y * component.down + v) * layout.lineLength component +
          (x * component.across + h))
    (List.range layout.unitsDown).flatMap fun y => (List.range layout.unitsAcross).map fun x =>
      parts.zipIdx.flatMap (blocksOf x y)

/-- What changes while units are read: the bits, the length of a run of blocks without news, the
first frequencies of the last blocks, and the blocks. -/
structure ScanState where
  bits : Bits
  skip : Nat
  before : Array Int
  blocks : Array (Array Block)

def readPart? (parts : Array ScanPart) (band : Band) (progress : ScanState) (place : Nat × Nat) :
    Option ScanState := do
  let part ← parts[place.1]?
  let plane ← progress.blocks[part.index]?
  let block ← plane[place.2]?
  let before := progress.before.getD place.1 0
  let (value, reading) ←
    readBlock? part.first part.others band before ⟨progress.bits, progress.skip, block⟩
  return {
    bits := reading.bits
    skip := reading.skip
    before := progress.before.setIfInBounds place.1 value
    blocks := progress.blocks.modify part.index fun plane =>
      plane.setIfInBounds place.2 reading.block }

def readUnits? (parts : Array ScanPart) (band : Band) (blocks : Array (Array Block))
    (bytes : Bytes) (units : List (List (Nat × Nat))) : Option (Array (Array Block)) := do
  let start : ScanState := ⟨⟨[], bytes⟩, 0, Array.replicate parts.size 0, blocks⟩
  let progress ← units.flatten.foldlM (readPart? parts band) start
  return progress.blocks

def readStretches? (parts : Array ScanPart) (band : Band) (restart : Nat)
    (blocks : Array (Array Block)) : List Bytes → List (List (Nat × Nat)) →
    Option (Array (Array Block))
  | [], units => if units.isEmpty then some blocks else none
  | bytes :: stretches, units => do
    let count := if restart = 0 then units.length else restart
    let blocks ← readUnits? parts band blocks bytes (units.take count)
    readStretches? parts band restart blocks stretches (units.drop count)

/-- Adds a byte to the stretch that is being collected. -/
def addByte (byte : UInt8) : List Bytes → List Bytes
  | [] => [[byte]]
  | stretch :: stretches => (byte :: stretch) :: stretches

/-- The bytes of a scan, cut where it restarts, and what follows it, beginning with a marker.  There
is no answer if no marker follows. -/
def stretches? : Bytes → Option (List Bytes × Bytes)
  | [] => none
  | byte :: rest =>
    if byte ≠ 0xFF then
      (stretches? rest).map fun (found, after) => (addByte byte found, after)
    else match rest with
      | [] => none
      | marker :: others =>
        if marker = 0 then
          (stretches? others).map fun (found, after) => (addByte 0xFF found, after)
        else if marker = 0xFF then stretches? (marker :: others)
        else if 0xD0 ≤ marker ∧ marker ≤ 0xD7 then
          (stretches? others).map fun (found, after) => ([] :: found, after)
        else some ([[]], byte :: marker :: others)

/-- Reads a scan, and returns what follows it. -/
def readScan? (file : File) (heading rest : Bytes) : Option (File × Bytes) := do
  let layout ← file.layout
  match heading with
  | [] => none
  | count :: heading =>
    let (parts, heading) ← scanParts? file layout count.toNat heading
    match heading with
    | [low, high, bits] =>
      let band : Band := ⟨low.toNat, high.toNat, bits.toNat / 16, bits.toNat % 16⟩
      if parts.isEmpty ∨ 63 < band.high ∨ band.high < band.low then none
      else
        let (stretches, after) ← stretches? rest
        let blocks ← readStretches? parts.toArray band file.restart file.blocks stretches
          (units layout parts)
        return ({ file with blocks, hasScan := true }, after)
    | _ => none

/-- Takes what is about an application's own color model from a segment. -/
def readModel (file : File) (content : Bytes) : File :=
  if content.take 5 == [0x41, 0x64, 0x6F, 0x62, 0x65] then
    { file with isPlain := content[11]? == some 0 }
  else file

/-- Takes the content of a segment from the front. -/
def content? : Bytes → Option (Bytes × Bytes)
  | a :: b :: rest =>
    let length := a.toNat * 256 + b.toNat
    if length < 2 ∨ rest.length < length - 2 then none
    else some (rest.take (length - 2), rest.drop (length - 2))
  | _ => none

def readSegment? (file : File) (marker : UInt8) (content rest : Bytes) : Option (File × Bytes) :=
  let kept := fun (file : Option File) => file.map fun file => (file, rest)
  if marker = 0xDB then kept (readSteps? file content.length content)
  else if marker = 0xC4 then kept (readCodes? file content.length content)
  else if marker = 0xC0 ∨ marker = 0xC1 ∨ marker = 0xC2 then kept (readLayout? file content)
  else if marker = 0xDD then
    match content with
    | [a, b] => kept (some { file with restart := a.toNat * 256 + b.toNat })
    | _ => none
  else if marker = 0xDA then readScan? file content rest
  else if marker = 0xEE then kept (some (readModel file content))
  else if (0xE0 ≤ marker ∧ marker ≤ 0xEF) ∨ marker = 0xFE then kept (some file)
  else none

def readFile? (file : File) : (fuel : Nat) → Bytes → Option File
  | 0, _ => none
  | fuel + 1, bytes =>
    match bytes with
    | 0xFF :: marker :: rest =>
      if marker = 0xD9 then some file
      else if marker = 0xFF then readFile? file fuel (marker :: rest)
      else if marker ≤ 1 ∨ (0xD0 ≤ marker ∧ marker ≤ 0xD7) then readFile? file fuel rest
      else do
        let (content, rest) ← content? rest
        let (file, rest) ← readSegment? file marker content rest
        readFile? file fuel rest
    | _ :: rest => readFile? file fuel rest
    | [] => none

def samplesOf (steps : Array Nat) (block : Block) : FloatArray :=
  ofFrequencies (tabulate fun row column =>
    let place := 8 * row + column
    Float.ofInt (block.getD place 0 * (steps.getD place 1 : Nat)))

/-- A component with the samples of its blocks. -/
structure Plane where
  component : Component
  blocks : Array FloatArray

/-- The sample of a component that counts for a pixel. -/
def sampleFor (layout : Layout) (x y : Nat) (plane : Plane) : Float :=
  let column := x * plane.component.across / layout.mostAcross
  let row := y * plane.component.down / layout.mostDown
  let index := row / 8 * layout.lineLength plane.component + column / 8
  sample (plane.blocks.getD index FloatArray.empty) (8 * (row % 8) + column % 8) + 128.0

def toByte (x : Float) : UInt8 :=
  UInt8.ofNat (max 0 (min 255 (saturateFloat x.round))).toNat

/-- The three bytes of a brightness and two colors. -/
def colorBytes (isPlain : Bool) (first second third : Float) : Bytes :=
  if isPlain then [toByte first, toByte second, toByte third]
  else
    let blue := second - 128.0
    let red := third - 128.0
    [toByte (first + 1.402 * red), toByte (first - 0.344136 * blue - 0.714136 * red),
      toByte (first + 1.772 * blue)]

def pixelOf (isPlain : Bool) : List Float → Bytes
  | [shade] => List.replicate 3 (toByte shade)
  | [first, second, third] => colorBytes isPlain first second third
  | [first, second, third, black] =>
    (colorBytes isPlain first second third).map fun byte =>
      toByte (Float.ofNat byte.toNat * black / 255.0)
  | _ => [0, 0, 0]

def decode? (bytes : Bytes) : Option Frame := do
  let file ← match bytes with
    | 0xFF :: 0xD8 :: rest => readFile? .empty (rest.length + 1) rest
    | _ => none
  let layout ← file.layout
  if !file.hasScan then none
  else
    let plane := fun (entry : Component × Array Block) =>
      (⟨entry.1, entry.2.map (samplesOf (file.steps.getD entry.1.steps #[]))⟩ : Plane)
    let planes := (layout.components.zip file.blocks.toList).map plane
    let line := fun y => (List.range layout.width).flatMap fun x =>
      pixelOf file.isPlain (planes.map (sampleFor layout x y))
    return ⟨layout.width, layout.height, (List.range layout.height).flatMap line⟩

end DrivewayWatch.Jpeg
