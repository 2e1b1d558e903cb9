/-!
# Prefix codes

A code that gives short words to frequent symbols, so that no word begins another one.  Words of one
length are consecutive numbers, and a shorter word comes before a longer one; a code is therefore
known by the number of words of every length and the symbols in the order of their words.  A word is
read bit by bit and found by counting.
-/

namespace DrivewayWatch

/-- A prefix code: how many words there are of length 1, 2, …, and the symbols in the order of
their words. -/
structure PrefixCode where
  counts : List Nat
  symbols : Array Nat
  deriving Repr

namespace PrefixCode

/-- The code with words of at most `longest` bits whose symbols have words of the given lengths; a
symbol of length zero has none. -/
def ofLengths (longest : Nat) (lengths : List Nat) : PrefixCode :=
  let ofLength := fun length =>
    (lengths.zipIdx.filter fun entry => entry.1 == length).map (·.2)
  let groups := (List.range longest).map fun length => ofLength (length + 1)
  { counts := groups.map List.length, symbols := groups.flatten.toArray }

/-- Whether no more words are used than there are. -/
def fits (code : PrefixCode) : Bool :=
  let longest := code.counts.length
  let used := code.counts.zipIdx.foldl
    (fun used entry => used + entry.1 * Nat.pow 2 (longest - 1 - entry.2)) 0
  used ≤ Nat.pow 2 longest

/-- Reads a word bit by bit.  `first` is the first word of the length reached, `index` the number of
shorter words. -/
def readFrom? {σ : Type} (code : PrefixCode) (next : σ → Option (Bool × σ))
    (word first index : Nat) : List Nat → σ → Option (Nat × σ)
  | [], _ => none
  | count :: counts, bits => do
    let (bit, bits) ← next bits
    let word := word + if bit then 1 else 0
    if word < first + count then return (← code.symbols[index + (word - first)]?, bits)
    else readFrom? code next (2 * word) (2 * (first + count)) (index + count) counts bits

/-- Reads a symbol; `next` takes one bit. -/
def read? {σ : Type} (code : PrefixCode) (next : σ → Option (Bool × σ)) (bits : σ) :
    Option (Nat × σ) :=
  code.readFrom? next 0 0 0 code.counts bits

/-- The words of all lengths from one on, in order, each with its length. -/
def wordsFrom (first length : Nat) : List Nat → List (Nat × Nat)
  | [] => []
  | count :: counts =>
    (List.range count).map (fun offset => (first + offset, length)) ++
      wordsFrom (2 * (first + count)) (length + 1) counts

/-- The symbols, each with its word and the length of the word. -/
def words (code : PrefixCode) : List (Nat × Nat × Nat) :=
  code.symbols.toList.zip (wordsFrom 0 1 code.counts)

end PrefixCode

end DrivewayWatch
