import DrivewayWatch.Text.CaseMap.Table

/-!
# Upper and lower case

Full case mappings of Unicode.  `upper` and `lower` map one character to the characters of its
other form; `lowercase` maps a whole text and is the only mapping that looks at the neighbours of a
character: a capital sigma at the end of a word becomes the final form of the letter.
-/

namespace DrivewayWatch.Text.CaseMap

def Run.contains (run : Run) (code : Nat) : Bool :=
  run.first ≤ code && code ≤ run.last && (code - run.first) % run.step == 0

/-- The code point that a list of runs maps `code` to, if one of them holds it. -/
def shifted? (runs : List Run) (code : Nat) : Option Nat :=
  (runs.find? (·.contains code)).map fun run => (code + run.shift : Int).toNat

/-- Whether a code point lies in one of the ranges, whose ends belong to them. -/
def inRanges (ranges : List (Nat × Nat)) (code : Nat) : Bool :=
  ranges.any fun range => range.1 ≤ code && code ≤ range.2

def upper (c : Char) : List Char :=
  if c.toNat < 0x80 then [c.toUpper]
  else match longUppers.find? (·.1 == c.toNat) with
    | some (_, codes) => codes.map Char.ofNat
    | none => [((shifted? upperRuns c.toNat).map Char.ofNat).getD c]

/-- The lowercase form of a character.  A capital I with a dot is the only letter for which it has
more than one character. -/
def lower (c : Char) : List Char :=
  if c.toNat < 0x80 then [c.toLower]
  else if c.toNat == 0x130 then ['i', Char.ofNat 0x307]
  else [((shifted? lowerRuns c.toNat).map Char.ofNat).getD c]

/-- Whether the first character that is not passed over is a cased one. -/
def meetsCased (text : List Char) : Bool :=
  match text.find? fun c => !inRanges ignorableRanges c.toNat with
  | some c => inRanges casedRanges c.toNat
  | none => false

/-- The lowercase form of a text; `before` holds the characters already passed, the last one
first.  A capital sigma that ends a word becomes a final sigma. -/
def lowercaseFrom (before : List Char) : List Char → List Char
  | [] => []
  | c :: rest =>
    let here :=
      if c.toNat == 0x3A3 then
        if meetsCased before && !meetsCased rest then [Char.ofNat 0x3C2] else [Char.ofNat 0x3C3]
      else lower c
    here ++ lowercaseFrom (c :: before) rest

def lowercase (text : String) : String :=
  String.ofList (lowercaseFrom [] text.toList)

/-- The first character in upper case and all others in lower case, each by itself. -/
def capitalize : List Char → List Char
  | [] => []
  | first :: rest => upper first ++ rest.flatMap lower

/-- A string with its first character in upper case and all others in lower case. -/
def capitalized (text : String) : String :=
  String.ofList (capitalize text.toList)

end DrivewayWatch.Text.CaseMap
