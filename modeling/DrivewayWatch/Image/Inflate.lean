import DrivewayWatch.Image.PrefixCode
import DrivewayWatch.Text.Utf8

/-!
# Inflating

Data that was deflated is a sequence of blocks: stored bytes, or symbols under a fixed or a
transmitted prefix code.  A symbol is a byte, the end of the block, or a copy of bytes that were
written before.

Every symbol takes a bit and every block three, so the number of bits bounds all loops.
-/

namespace DrivewayWatch.Inflate

/-- Bits that are still to be read: those of a byte that has been begun, the lowest first, and
whole bytes. -/
structure Bits where
  begun : List Bool
  rest : Bytes

/-- The bits of a byte, the lowest first. -/
def bitsOf (byte : UInt8) : List Bool :=
  (List.range 8).map fun place => byte.toNat / Nat.pow 2 place % 2 == 1

namespace Bits

def next? (bits : Bits) : Option (Bool × Bits) :=
  match bits.begun, bits.rest with
  | bit :: begun, rest => some (bit, ⟨begun, rest⟩)
  | [], byte :: rest =>
    match bitsOf byte with
    | bit :: begun => some (bit, ⟨begun, rest⟩)
    | [] => none
  | [], [] => none

/-- Takes a number of so many bits, the lowest first. -/
def number? : Nat → Bits → Option (Nat × Bits)
  | 0, bits => some (0, bits)
  | count + 1, bits => do
    let (bit, bits) ← bits.next?
    let (high, bits) ← number? count bits
    return (2 * high + (if bit then 1 else 0), bits)

/-- Drops what is left of a byte that has been begun. -/
def aligned (bits : Bits) : Bits :=
  ⟨[], bits.rest⟩

def size (bits : Bits) : Nat :=
  bits.begun.length + 8 * bits.rest.length

end Bits

def longestWord : Nat := 15

/-- The least length of a copy for every length symbol, and the number of extra bits. -/
def lengthTable : Array (Nat × Nat) :=
  #[(3, 0), (4, 0), (5, 0), (6, 0), (7, 0), (8, 0), (9, 0), (10, 0), (11, 1), (13, 1), (15, 1),
    (17, 1), (19, 2), (23, 2), (27, 2), (31, 2), (35, 3), (43, 3), (51, 3), (59, 3), (67, 4),
    (83, 4), (99, 4), (115, 4), (131, 5), (163, 5), (195, 5), (227, 5), (258, 0)]

/-- The least distance of a copy for every distance symbol, and the number of extra bits. -/
def distanceTable : Array (Nat × Nat) :=
  #[(1, 0), (2, 0), (3, 0), (4, 0), (5, 1), (7, 1), (9, 2), (13, 2), (17, 3), (25, 3), (33, 4),
    (49, 4), (65, 5), (97, 5), (129, 6), (193, 6), (257, 7), (385, 7), (513, 8), (769, 8),
    (1025, 9), (1537, 9), (2049, 10), (3073, 10), (4097, 11), (6145, 11), (8193, 12), (12289, 12),
    (16385, 13), (24577, 13)]

/-- Reads a value that a table gives by a symbol and extra bits. -/
def tableValue? (table : Array (Nat × Nat)) (symbol : Nat) (bits : Bits) : Option (Nat × Bits) := do
  let (least, extra) ← table[symbol]?
  let (more, bits) ← bits.number? extra
  return (least + more, bits)

/-- Appends bytes that were written `distance` places before, one after another, so that a copy may
run into itself. -/
def copy? (output : Array UInt8) (distance : Nat) : Nat → Option (Array UInt8)
  | 0 => some output
  | length + 1 => do
    let byte ← if output.size < distance then none else output[output.size - distance]?
    copy? (output.push byte) distance length

def symbols? (lengths distances : PrefixCode) : (fuel : Nat) → Bits → Array UInt8 →
    Option (Bits × Array UInt8)
  | 0, _, _ => none
  | fuel + 1, bits, output => do
    let (symbol, bits) ← lengths.read? Bits.next? bits
    if symbol < 256 then symbols? lengths distances fuel bits (output.push (UInt8.ofNat symbol))
    else if symbol = 256 then return (bits, output)
    else
      let (length, bits) ← tableValue? lengthTable (symbol - 257) bits
      let (symbol, bits) ← distances.read? Bits.next? bits
      let (distance, bits) ← tableValue? distanceTable symbol bits
      symbols? lengths distances fuel bits (← copy? output distance length)

def stored? (bits : Bits) (output : Array UInt8) : Option (Bits × Array UInt8) := do
  let (length, bits) ← bits.aligned.number? 16
  let (check, bits) ← bits.number? 16
  if length + check ≠ 0xFFFF ∨ bits.rest.length < length then none
  else return (⟨[], bits.rest.drop length⟩, output ++ (bits.rest.take length).toArray)

/-- The code for bytes and lengths of blocks that transmit none. -/
def fixedLengths : PrefixCode :=
  .ofLengths longestWord (List.replicate 144 8 ++ List.replicate 112 9 ++ List.replicate 24 7 ++
    List.replicate 8 8)

/-- The code for distances of blocks that transmit none. -/
def fixedDistances : PrefixCode :=
  .ofLengths longestWord (List.replicate 30 5)

/-- The order in which the lengths of the words for word lengths are transmitted. -/
def transmissionOrder : List Nat :=
  [16, 17, 18, 0, 8, 7, 9, 6, 10, 5, 11, 4, 12, 3, 13, 2, 14, 1, 15]

def numbers? (width : Nat) : (count : Nat) → Bits → Option (List Nat × Bits)
  | 0, bits => some ([], bits)
  | count + 1, bits => do
    let (first, bits) ← bits.number? width
    let (others, bits) ← numbers? width count bits
    return (first :: others, bits)

/-- Reads word lengths until there are enough of them.  They are held with the last one first; some
symbols repeat the last one or zero. -/
def wordLengths? (code : PrefixCode) (needed : Nat) : (fuel : Nat) → Bits → List Nat →
    Option (List Nat × Bits)
  | 0, _, _ => none
  | fuel + 1, bits, reversed =>
    if needed ≤ reversed.length then
      if reversed.length = needed then some (reversed.reverse, bits) else none
    else do
      let (symbol, bits) ← code.read? Bits.next? bits
      if symbol < 16 then wordLengths? code needed fuel bits (symbol :: reversed)
      else if symbol = 16 then
        let (more, bits) ← bits.number? 2
        let last ← reversed.head?
        wordLengths? code needed fuel bits (List.replicate (3 + more) last ++ reversed)
      else
        let (more, bits) ← bits.number? (if symbol = 17 then 3 else 7)
        let count := more + if symbol = 17 then 3 else 11
        wordLengths? code needed fuel bits (List.replicate count 0 ++ reversed)

def transmitted? (bits : Bits) : Option (PrefixCode × PrefixCode × Bits) := do
  let (lengthCount, bits) ← bits.number? 5
  let (distanceCount, bits) ← bits.number? 5
  let (orderCount, bits) ← bits.number? 4
  let (widths, bits) ← numbers? 3 (orderCount + 4) bits
  let widthOf := fun symbol => ((transmissionOrder.zip widths).lookup symbol).getD 0
  let code := PrefixCode.ofLengths longestWord ((List.range 19).map widthOf)
  let needed := lengthCount + 257 + (distanceCount + 1)
  let (lengths, bits) ← wordLengths? code needed (needed + 1) bits []
  let first := PrefixCode.ofLengths longestWord (lengths.take (lengthCount + 257))
  let second := PrefixCode.ofLengths longestWord (lengths.drop (lengthCount + 257))
  if code.fits && first.fits && second.fits then return (first, second, bits) else none

def block? (kind : Nat) (bits : Bits) (output : Array UInt8) : Option (Bits × Array UInt8) :=
  match kind with
  | 0 => stored? bits output
  | 1 => symbols? fixedLengths fixedDistances (bits.size + 1) bits output
  | 2 => do
    let (lengths, distances, bits) ← transmitted? bits
    symbols? lengths distances (bits.size + 1) bits output
  | _ => none

def blocks? : (fuel : Nat) → Bits → Array UInt8 → Option (Array UInt8)
  | 0, _, _ => none
  | fuel + 1, bits, output => do
    let (isLast, bits) ← bits.next?
    let (kind, bits) ← bits.number? 2
    let (bits, output) ← block? kind bits output
    if isLast then return output else blocks? fuel bits output

def inflate? (deflated : Bytes) : Option (Array UInt8) :=
  let bits : Bits := ⟨[], deflated⟩
  blocks? (bits.size + 1) bits #[]

/-- The data in a container with a header of two bytes; the checksum at its end is not looked at. -/
def unwrap? : Bytes → Option (Array UInt8)
  | a :: b :: rest =>
    let isDeflated := a.toNat % 16 == 8 && a.toNat / 16 ≤ 7
    let hasDictionary := b.toNat / 32 % 2 == 1
    if isDeflated && !hasDictionary && (a.toNat * 256 + b.toNat) % 31 == 0 then inflate? rest
    else none
  | _ => none

end DrivewayWatch.Inflate
