import DrivewayWatch.Image.PrefixCode
import DrivewayWatch.Image.Jpeg.Transform
import DrivewayWatch.Text.Utf8

/-!
# Scans

The frequencies of a photo arrive in one scan or in several.  A scan of a sequential photo brings
whole blocks.  A scan of a progressive one brings a band of frequencies, first without their lowest
bits and then one lowest bit after another; a run of blocks without anything new is sent as its
length.

Where the bits of a scan end too early, zeros follow.
-/

namespace DrivewayWatch.Jpeg

/-- Bits that are still to be read: those of a byte that has been begun, the highest first, and
whole bytes. -/
structure Bits where
  begun : List Bool
  rest : Bytes

namespace Bits

/-- The bits of a byte, the highest first. -/
def ofByte (byte : UInt8) : List Bool :=
  (List.range 8).map fun place => byte.toNat / Nat.pow 2 (7 - place) % 2 == 1

def next (bits : Bits) : Bool × Bits :=
  match bits.begun, bits.rest with
  | bit :: begun, rest => (bit, ⟨begun, rest⟩)
  | [], byte :: rest =>
    match ofByte byte with
    | bit :: begun => (bit, ⟨begun, rest⟩)
    | [] => (false, ⟨[], rest⟩)
  | [], [] => (false, bits)

/-- Takes a number of so many bits after those already taken. -/
def numberFrom (value : Nat) : Nat → Bits → Nat × Bits
  | 0, bits => (value, bits)
  | count + 1, bits =>
    let (bit, bits) := bits.next
    numberFrom (2 * value + if bit then 1 else 0) count bits

def number (count : Nat) (bits : Bits) : Nat × Bits :=
  numberFrom 0 count bits

/-- Takes a number whose size has so many bits; the lower half of them stands for negative
numbers. -/
def signed (count : Nat) (bits : Bits) : Int × Bits :=
  let (value, bits) := bits.number count
  (if count != 0 && value < Nat.pow 2 (count - 1) then (value : Int) - Nat.pow 2 count + 1
    else value, bits)

def symbol? (code : PrefixCode) (bits : Bits) : Option (Nat × Bits) :=
  code.read? (fun bits => some bits.next) bits

end Bits

/-- The frequencies of a block, row by row. -/
abbrev Block : Type := Array Int

/-- The band of frequencies that a scan brings, counted along the diagonals, and the bits that are
still missing before and after it. -/
structure Band where
  low : Nat
  high : Nat
  missingBefore : Nat
  missingAfter : Nat

/-- The frequency at a place of the order of the file. -/
def frequencyAt (block : Block) (place : Nat) : Int :=
  block.getD (diagonalOrder.getD place 0) 0

/-- Sets the frequency at a place of the order of the file. -/
def setFrequency (block : Block) (place : Nat) (value : Int) : Block :=
  block.setIfInBounds (diagonalOrder.getD place 0) value

/-- What changes while a scan is read: the bits, the number of blocks that bring nothing new, and
the block that is being read. -/
structure Reading where
  bits : Bits
  skip : Nat
  block : Block

/-- Reads the length of a run of blocks that bring nothing new, this one among them. -/
def runLength (size : Nat) (bits : Bits) : Nat × Bits :=
  let (extra, bits) := bits.number size
  (Nat.pow 2 size + extra, bits)

def firstFrequencies? (code : PrefixCode) (band : Band) : (fuel place : Nat) → Reading →
    Option Reading
  | 0, _, reading => some reading
  | fuel + 1, place, reading =>
    if band.high < place then some reading
    else do
      let (symbol, bits) ← reading.bits.symbol? code
      let zeros := symbol / 16
      let size := symbol % 16
      if size = 0 then
        if zeros = 15 then
          firstFrequencies? code band fuel (place + 16) { reading with bits }
        else
          let (length, bits) := runLength zeros bits
          return { reading with bits, skip := length - 1 }
      else if 63 < place + zeros then none
      else
        let (value, bits) := bits.signed size
        let shifted := value * Nat.pow 2 band.missingAfter
        let block := setFrequency reading.block (place + zeros) shifted
        firstFrequencies? code band fuel (place + zeros + 1) { reading with bits, block }

/-- Reads the frequencies of a block, unless it belongs to a run. -/
def readBand? (code : PrefixCode) (band : Band) (reading : Reading) : Option Reading :=
  if reading.skip ≠ 0 then some { reading with skip := reading.skip - 1 }
  else firstFrequencies? code band 64 (max 1 band.low) reading

/-- Reads the lowest bit of a frequency that is not zero. -/
def refine (band : Band) (place : Nat) (reading : Reading) : Reading :=
  let value := frequencyAt reading.block place
  let (bit, bits) := reading.bits.next
  let unit : Int := Nat.pow 2 band.missingAfter
  if bit && value.natAbs / Nat.pow 2 band.missingAfter % 2 == 0 then
    let value := if value < 0 then value - unit else value + unit
    ⟨bits, reading.skip, setFrequency reading.block place value⟩
  else { reading with bits }

/-- Passes over frequencies from a place on: those that are not zero get their lowest bit, and
`zeros` that are zero are left as they are.  Returns the place of the next zero. -/
def passOver (band : Band) (zeros : Nat) : (fuel place : Nat) → Reading → Nat × Reading
  | 0, place, reading => (place, reading)
  | fuel + 1, place, reading =>
    if band.high < place then (place, reading)
    else if frequencyAt reading.block place ≠ 0 then
      passOver band zeros fuel (place + 1) (refine band place reading)
    else if zeros = 0 then (place, reading)
    else passOver band (zeros - 1) fuel (place + 1) reading

def refineRest (band : Band) (place : Nat) (reading : Reading) : Reading :=
  (passOver band 64 64 place reading).2

/-- Reads the lowest bits of frequencies from a place on, and those that are new. -/
def lowestBits? (code : PrefixCode) (band : Band) : (fuel place : Nat) → Reading → Option Reading
  | 0, _, reading => some reading
  | fuel + 1, place, reading =>
    if band.high < place then some reading
    else do
      let (symbol, bits) ← reading.bits.symbol? code
      let zeros := symbol / 16
      if symbol % 16 = 0 ∧ zeros ≠ 15 then
        let (length, bits) := runLength zeros bits
        let reading := refineRest band place { reading with bits }
        return { reading with skip := length - 1 }
      else
        let (bit, bits) := if symbol % 16 = 0 then (false, bits) else bits.next
        let unit : Int := Nat.pow 2 band.missingAfter
        let value : Int := if bit then unit else -unit
        let (next, reading) := passOver band zeros 64 place { reading with bits }
        let block :=
          if symbol % 16 = 0 ∨ band.high < next then reading.block
          else setFrequency reading.block next value
        lowestBits? code band fuel (next + 1) { reading with block }

/-- Reads the lowest bits of the frequencies of a block. -/
def refineBand? (code : PrefixCode) (band : Band) (reading : Reading) : Option Reading :=
  if reading.skip ≠ 0 then
    some { refineRest band (max 1 band.low) reading with skip := reading.skip - 1 }
  else lowestBits? code band 64 (max 1 band.low) reading

/-- Reads the first frequency of a block, which is sent as the difference from that of the block
before it. -/
def readFirst? (code : PrefixCode) (band : Band) (before : Int) (reading : Reading) :
    Option (Int × Reading) := do
  let (size, bits) ← reading.bits.symbol? code
  if 16 < size then none
  else
    let (difference, bits) := bits.signed size
    let value := before + difference
    let block := setFrequency reading.block 0 (value * Nat.pow 2 band.missingAfter)
    return (value, { reading with bits, block })

/-- Reads the lowest bit of the first frequency of a block. -/
def refineFirst (band : Band) (reading : Reading) : Reading :=
  let (bit, bits) := reading.bits.next
  let value := frequencyAt reading.block 0
  let unit : Int := Nat.pow 2 band.missingAfter
  let block := if bit then setFrequency reading.block 0 (value + unit) else reading.block
  { reading with bits, block }

/-- Reads what a scan brings for one block; `before` is the first frequency of the block before. -/
def readBlock? (first others : PrefixCode) (band : Band) (before : Int) (reading : Reading) :
    Option (Int × Reading) := do
  let (value, reading) ←
    if band.low ≠ 0 then some (before, reading)
    else if band.missingBefore = 0 then readFirst? first band before reading
    else some (before, refineFirst band reading)
  if band.high = 0 then return (value, reading)
  else if band.missingBefore = 0 then return (value, ← readBand? others band reading)
  else return (value, ← refineBand? others band reading)

end DrivewayWatch.Jpeg
