import DrivewayWatch.Detection
import DrivewayWatch.Image.Checksum
import DrivewayWatch.Image.Inflate

/-!
# Portable network graphics

A file is a signature and a sequence of chunks.  Rows of samples are deflated together, each after
a filter has replaced its bytes by differences from their neighbours; an interlaced picture is sent
in seven passes.  Every picture is read as three bytes a pixel: gray is repeated, transparency is
dropped.
-/

namespace DrivewayWatch.Png

/-- The eight bytes that every file begins with. -/
def signature : Bytes := [0x89, 0x50, 0x4E, 0x47, 0x0D, 0x0A, 0x1A, 0x0A]

/-- A number of four bytes, the highest first. -/
def word (a b c d : UInt8) : Nat :=
  ((a.toNat * 256 + b.toNat) * 256 + c.toNat) * 256 + d.toNat

/-- A part of a file: its kind and its content. -/
structure Chunk where
  kind : Bytes
  content : Bytes

def kindOf (name : String) : Bytes :=
  Text.Utf8.bytesOf name

/-- Whether a decoder has to understand a chunk of this kind. -/
def isCritical : Bytes → Bool
  | first :: _ => first.toNat / 32 % 2 == 0
  | [] => false

/-- Takes a chunk from the front.  The checksum of a critical chunk has to be right. -/
def chunk? : Bytes → Option (Chunk × Bytes)
  | a :: b :: c :: d :: rest =>
    let length := word a b c d
    let body := rest.take (4 + length)
    match rest.drop (4 + length) with
    | e :: f :: g :: h :: after =>
      let kind := body.take 4
      let isRight := (Checksum.crc32 body).toNat == word e f g h
      if isCritical kind && !isRight then none else some (⟨kind, body.drop 4⟩, after)
    | _ => none
  | _ => none

/-- Whether a chunk of some kind begins: its length and its kind are there. -/
def chunkBegins (bytes : Bytes) : Bool :=
  8 ≤ bytes.length

/-- What a sample stands for. -/
inductive Color where
  | gray
  | rgb
  | palette
  | grayAlpha
  | rgbAlpha
  deriving Repr, DecidableEq

/-- What the first chunk tells about a picture. -/
structure Header where
  width : Nat
  height : Nat
  depth : Nat
  color : Color
  isInterlaced : Bool

def Color.samples : Color → Nat
  | gray => 1
  | rgb => 3
  | palette => 1
  | grayAlpha => 2
  | rgbAlpha => 4

/-- The kind of color of a number, and the depths that it allows. -/
def color? : Nat → Option (Color × List Nat)
  | 0 => some (.gray, [1, 2, 4, 8, 16])
  | 2 => some (.rgb, [8, 16])
  | 3 => some (.palette, [1, 2, 4, 8])
  | 4 => some (.grayAlpha, [8, 16])
  | 6 => some (.rgbAlpha, [8, 16])
  | _ => none

def longestSide : Nat := 2147483647

def header? (chunk : Chunk) : Option Header :=
  match chunk.content with
  | [a, b, c, d, e, f, g, h, depth, color, 0, 0, interlaced] => do
    let width := word a b c d
    let height := word e f g h
    let (color, depths) ← color? color.toNat
    if chunk.kind == kindOf "IHDR" && width != 0 && height != 0 && width ≤ longestSide &&
        height ≤ longestSide && depths.contains depth.toNat && interlaced ≤ 1 then
      return ⟨width, height, depth.toNat, color, interlaced == 1⟩
    else none
  | _ => none

/-- The palette and the deflated rows of a file. -/
structure Parts where
  palette : Option Bytes
  rows : Bytes

/-- Joins the chunks of rows; another chunk has to begin behind them. -/
def rows? : (fuel : Nat) → Bytes → Option Bytes
  | 0, _ => none
  | fuel + 1, bytes =>
    if (bytes.drop 4).take 4 == kindOf "IDAT" then do
      let (chunk, rest) ← chunk? bytes
      return chunk.content ++ (← rows? fuel rest)
    else if chunkBegins bytes then some []
    else none

/-- Collects the parts of a picture; chunks that are not needed are passed over. -/
def parts? (palette : Option Bytes) : (fuel : Nat) → Bytes → Option Parts
  | 0, _ => none
  | fuel + 1, bytes =>
    if (bytes.drop 4).take 4 == kindOf "IDAT" then (rows? (fuel + 1) bytes).map (⟨palette, ·⟩)
    else do
      let (chunk, rest) ← chunk? bytes
      if chunk.kind == kindOf "PLTE" then parts? (some chunk.content) fuel rest
      else if chunk.kind == kindOf "IEND" then none
      else parts? palette fuel rest

/-- The neighbour from which a byte differs least: to the left, above, or above to the left. -/
def nearest (left above corner : Nat) : Nat :=
  let guess : Int := left + above - corner
  let toLeft := (guess - left).natAbs
  let toAbove := (guess - above).natAbs
  let toCorner := (guess - corner).natAbs
  if toLeft ≤ toAbove && toLeft ≤ toCorner then left
  else if toAbove ≤ toCorner then above
  else corner

def predicted? (filter left above corner : Nat) : Option Nat :=
  match filter with
  | 0 => some 0
  | 1 => some left
  | 2 => some above
  | 3 => some ((left + above) / 2)
  | 4 => some (nearest left above corner)
  | _ => none

/-- The byte at a place of a row; zero outside of it. -/
def byteAt (row : Array UInt8) (place : Nat) : Nat :=
  (row[place]?.map UInt8.toNat).getD 0

def unfilterRow? (filter step : Nat) (above : Array UInt8) (row : List UInt8) :
    Option (Array UInt8) :=
  row.foldlM (fun done byte => do
    let place := done.size
    let before := fun (row : Array UInt8) => if place < step then 0 else byteAt row (place - step)
    let value ← predicted? filter (before done) (byteAt above place) (before above)
    return done.push (byte + UInt8.ofNat value)) #[]

/-- Takes rows of `length` bytes, each with its filter in front. -/
def unfilter? (step length : Nat) (above : Array UInt8) : (count : Nat) → List UInt8 →
    Option (List (Array UInt8) × List UInt8)
  | 0, bytes => some ([], bytes)
  | count + 1, bytes =>
    match bytes with
    | [] => none
    | filter :: rest => do
      if rest.length < length then none
      else
        let row ← unfilterRow? filter.toNat step above (rest.take length)
        let (rows, rest) ← unfilter? step length row count (rest.drop length)
        return (row :: rows, rest)

def rowLength (header : Header) (width : Nat) : Nat :=
  (width * header.color.samples * header.depth + 7) / 8

/-- A sample of a row, in the depth of the picture. -/
def sampleAt (header : Header) (row : Array UInt8) (place : Nat) : Nat :=
  match header.depth with
  | 8 => byteAt row place
  | 16 => byteAt row (2 * place) * 256 + byteAt row (2 * place + 1)
  | depth =>
    let perByte := 8 / depth
    byteAt row (place / perByte) / Nat.pow 2 (depth * (perByte - 1 - place % perByte)) %
      Nat.pow 2 depth

def toByte (depth sample : Nat) : UInt8 :=
  match depth with
  | 8 => UInt8.ofNat sample
  | 16 => UInt8.ofNat ((sample + 128) / 257)
  | _ => UInt8.ofNat (sample * 255 / (Nat.pow 2 depth - 1))

/-- The three bytes of an entry of the palette; black outside of it. -/
def paletteEntry (palette : Bytes) (index : Nat) : Bytes :=
  match palette.drop (3 * index) with
  | r :: g :: b :: _ => [r, g, b]
  | _ => [0, 0, 0]

def pixel (header : Header) (palette : Bytes) (row : Array UInt8) (place : Nat) : Bytes :=
  let sample := fun index => sampleAt header row (place * header.color.samples + index)
  let shade := fun index => toByte header.depth (sample index)
  match header.color with
  | .gray => List.replicate 3 (shade 0)
  | .grayAlpha => List.replicate 3 (shade 0)
  | .palette => paletteEntry palette (sample 0)
  | _ => [shade 0, shade 1, shade 2]

/-- A pass over a picture: where it begins and how far its pixels are apart. -/
structure Pass where
  left : Nat
  top : Nat
  acrossStep : Nat
  downStep : Nat

def passes (header : Header) : List Pass :=
  if header.isInterlaced then
    [⟨0, 0, 8, 8⟩, ⟨4, 0, 8, 8⟩, ⟨0, 4, 4, 8⟩, ⟨2, 0, 4, 4⟩, ⟨0, 2, 2, 4⟩, ⟨1, 0, 2, 2⟩,
      ⟨0, 1, 1, 2⟩]
  else [⟨0, 0, 1, 1⟩]

/-- The number of places from `start` on in steps of `step` below `size`. -/
def placeCount (start step size : Nat) : Nat :=
  (size + step - 1 - start) / step

def passRows? (header : Header) :
    List Pass → List UInt8 → Option (List (Pass × Array (Array UInt8)))
  | [], _ => some []
  | pass :: others, bytes => do
    let width := placeCount pass.left pass.acrossStep header.width
    let height := if width = 0 then 0 else placeCount pass.top pass.downStep header.height
    let step := max 1 (header.color.samples * header.depth / 8)
    let (rows, rest) ← unfilter? step (rowLength header width) #[] height bytes
    return (pass, rows.toArray) :: (← passRows? header others rest)

def Pass.covers (pass : Pass) (x y : Nat) : Bool :=
  pass.left ≤ x && (x - pass.left) % pass.acrossStep == 0 && pass.top ≤ y &&
    (y - pass.top) % pass.downStep == 0

/-- The three bytes of the pixel at a place of the picture, from the pass that holds it. -/
def pixelAt (header : Header) (palette : Bytes) (rows : List (Pass × Array (Array UInt8)))
    (x y : Nat) : Bytes :=
  match rows.find? fun entry => entry.1.covers x y with
  | some (pass, lines) =>
    let row := (lines[(y - pass.top) / pass.downStep]?).getD #[]
    pixel header palette row ((x - pass.left) / pass.acrossStep)
  | none => [0, 0, 0]

def decode? (bytes : Bytes) : Option Frame := do
  if bytes.take 8 != signature then none
  else
    let (first, rest) ← chunk? (bytes.drop 8)
    let header ← header? first
    let parts ← parts? none (rest.length + 1) rest
    let palette ← if header.color = .palette then parts.palette else some []
    let samples ← Inflate.unwrap? parts.rows
    let rows ← passRows? header (passes header) samples.toList
    let line := fun y =>
      (List.range header.width).flatMap fun x => pixelAt header palette rows x y
    return ⟨header.width, header.height, (List.range header.height).flatMap line⟩

end DrivewayWatch.Png
