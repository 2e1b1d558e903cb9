import DrivewayWatch.Bytes.Hex
import DrivewayWatch.Number.Decimal
import DrivewayWatch.Text.Blank
import DrivewayWatch.Text.CaseMap

/-!
# Patterns

Regular expressions over characters: what they are, how they are spelled, and which texts they
occur in.  A pattern is matched by following all its ways at once: `ends` maps a place of the text
to the places at which a match that begins there can end.
-/

namespace DrivewayWatch.Text

/-- A set of characters: code point ranges whose ends belong to them, or what lies outside. -/
structure CharSet where
  ranges : List (Nat × Nat)
  negated : Bool
  deriving Repr, DecidableEq

/-- A regular expression. -/
inductive Pattern where
  | empty
  | one (set : CharSet) (ignoreCase : Bool)
  | textStart
  | textEnd
  | lineStart
  | lineEnd
  | wordEdge (negated : Bool)
  | sequence (first second : Pattern)
  | either (first second : Pattern)
  | repeated (body : Pattern) (least : Nat) (extra : Option Nat)
  deriving Repr

namespace CharSet

def contains (set : CharSet) (c : Char) : Bool :=
  CaseMap.inRanges set.ranges c.toNat != set.negated

/-- Whether a character or another form of it belongs to the set. -/
def containsAnyCase (set : CharSet) (c : Char) : Bool :=
  let forms := c :: (CaseMap.lower c ++ CaseMap.upper c)
  (forms.any fun form => CaseMap.inRanges set.ranges form.toNat) != set.negated

def single (c : Char) : CharSet :=
  ⟨[(c.toNat, c.toNat)], false⟩

def lastCode : Nat := 0x10FFFF

/-- The gaps between ranges that are sorted, from a code point on. -/
def gaps (next : Nat) : List (Nat × Nat) → List (Nat × Nat)
  | [] => if next ≤ lastCode then [(next, lastCode)] else []
  | (first, last) :: others =>
    let rest := gaps (max next (last + 1)) others
    if next < first then (next, first - 1) :: rest else rest

def toRanges (set : CharSet) : List (Nat × Nat) :=
  if set.negated then gaps 0 (set.ranges.mergeSort fun a b => a.1 ≤ b.1) else set.ranges

def digits : CharSet := ⟨[(0x30, 0x39)], false⟩

def blanks : CharSet :=
  ⟨[(0x09, 0x0D), (0x20, 0x20), (0x85, 0x85), (0xA0, 0xA0), (0x1680, 0x1680), (0x2000, 0x200A),
    (0x2028, 0x2029), (0x202F, 0x202F), (0x205F, 0x205F), (0x3000, 0x3000)], false⟩

/-- The characters of words: letters, digits and the underscore. -/
def words : CharSet :=
  ⟨[(0x30, 0x39), (0x41, 0x5A), (0x5F, 0x5F), (0x61, 0x7A), (0x300, 0x36F), (0x3041, 0x30FF),
    (0x3400, 0x9FFF), (0xAC00, 0xD7A3)] ++ CaseMap.casedRanges, false⟩

def withinLine : CharSet := ⟨[(0x0A, 0x0A)], true⟩

def all : CharSet := ⟨[], true⟩

def opposite (set : CharSet) : CharSet :=
  { set with negated := !set.negated }

def ofLetter? : Char → Option CharSet
  | 'd' => some digits
  | 'D' => some digits.opposite
  | 's' => some blanks
  | 'S' => some blanks.opposite
  | 'w' => some words
  | 'W' => some words.opposite
  | _ => none

/-- The set that a name between colons in a bracket names. -/
def ofName? (name : String) : Option (List (Nat × Nat)) :=
  if name = "alpha" then some [(0x41, 0x5A), (0x61, 0x7A)]
  else if name = "digit" then some [(0x30, 0x39)]
  else if name = "alnum" then some [(0x30, 0x39), (0x41, 0x5A), (0x61, 0x7A)]
  else if name = "upper" then some [(0x41, 0x5A)]
  else if name = "lower" then some [(0x61, 0x7A)]
  else if name = "space" then some [(0x09, 0x0D), (0x20, 0x20)]
  else if name = "punct" then some [(0x21, 0x2F), (0x3A, 0x40), (0x5B, 0x60), (0x7B, 0x7E)]
  else if name = "word" then some [(0x30, 0x39), (0x41, 0x5A), (0x5F, 0x5F), (0x61, 0x7A)]
  else if name = "xdigit" then some [(0x30, 0x39), (0x41, 0x46), (0x61, 0x66)]
  else none

end CharSet

namespace Pattern

/-- A place in a text: the character before it, if any, and what follows. -/
abbrev Place : Type := Option Char × List Char

def isWord : Option Char → Bool
  | some c => CharSet.words.contains c
  | none => false

def distinct : List Place → List Place
  | [] => []
  | place :: places =>
    let others := distinct places
    if others.any (·.2.length == place.2.length) then others else place :: others

/-- The place itself, if a condition holds of it. -/
def keptIf (condition : Bool) (place : Place) : List Place :=
  if condition then [place] else []

/-- Takes a step exactly `count` times. -/
def iterate (step : List Place → List Place) : Nat → List Place → List Place
  | 0, places => places
  | count + 1, places => iterate step count (step places)

/-- The places at which a match that begins at a place can end. -/
def ends : Pattern → Place → List Place
  | empty, place => [place]
  | one _ _, (_, []) => []
  | one set ignoreCase, (_, c :: rest) =>
    if (if ignoreCase then set.containsAnyCase c else set.contains c) then [(some c, rest)] else []
  | textStart, place => keptIf place.1.isNone place
  | textEnd, place => keptIf place.2.isEmpty place
  | lineStart, place => keptIf (place.1.isNone || place.1 == some '\n') place
  | lineEnd, place => keptIf (place.2.isEmpty || place.2.head? == some '\n') place
  | wordEdge negated, place =>
    keptIf ((isWord place.1 != isWord place.2.head?) != negated) place
  | sequence first second, place =>
    distinct ((distinct (ends first place)).flatMap fun next => ends second next)
  | either first second, place => distinct (ends first place ++ ends second place)
  | repeated body least extra, place =>
    let step := fun places : List Place => distinct (places.flatMap fun next => ends body next)
    let more := fun places => distinct (places ++ step places)
    let bound := place.2.length + 1
    iterate more (min bound (extra.getD bound)) (iterate step least [place])

/-- Whether a match begins at a place or behind it. -/
def occursFrom (pattern : Pattern) (before : Option Char) : List Char → Bool
  | [] => !(pattern.ends (before, [])).isEmpty
  | c :: rest =>
    !(pattern.ends (before, c :: rest)).isEmpty || occursFrom pattern (some c) rest

def occursIn (pattern : Pattern) (text : String) : Bool :=
  occursFrom pattern none text.toList

/-- How the characters of a pattern are read: whether case is ignored, whether the ends of lines
count as ends of the text, and whether a dot stands for the end of a line as well. -/
structure Flags where
  ignoreCase : Bool
  manyLines : Bool
  dotAll : Bool

def Flags.set? (flags : Flags) (value : Bool) : Char → Option Flags
  | 'i' => some { flags with ignoreCase := value }
  | 'm' => some { flags with manyLines := value }
  | 's' => some { flags with dotAll := value }
  | 'u' => if value then some flags else none
  | _ => none

/-- Reads flags up to the mark behind them, and returns them, the mark and what follows it. -/
def Flags.read? (flags : Flags) (value : Bool) : List Char → Option (Flags × Char × List Char)
  | [] => none
  | '-' :: rest => if value then Flags.read? flags false rest else none
  | c :: rest =>
    if c == ':' || c == ')' then some (flags, c, rest)
    else do Flags.read? (← flags.set? value c) value rest

def scalar? (code : Nat) : Option Char :=
  if code.isValidChar then some (Char.ofNat code) else none

/-- Reads a code point in hexadecimal, of a given width or between braces. -/
def hexadecimal? (width : Nat) : List Char → Option (Char × List Char)
  | '\x7b' :: rest => do
    let digits := rest.takeWhile (· != '\x7d')
    let code ← if digits.isEmpty then none else Hex.number? digits
    match rest.drop digits.length with
    | _ :: others => return (← scalar? code, others)
    | [] => none
  | rest =>
    if rest.length < width then none
    else do return (← scalar? (← Hex.number? (rest.take width)), rest.drop width)

/-- Reads an escape that stands for one character. -/
def escapedChar? : List Char → Option (Char × List Char)
  | 'n' :: rest => some ('\n', rest)
  | 't' :: rest => some ('\t', rest)
  | 'r' :: rest => some ('\r', rest)
  | 'f' :: rest => some ('\x0c', rest)
  | 'v' :: rest => some ('\x0b', rest)
  | 'a' :: rest => some ('\x07', rest)
  | 'x' :: rest => hexadecimal? 2 rest
  | 'u' :: rest => hexadecimal? 4 rest
  | 'U' :: rest => hexadecimal? 8 rest
  | c :: rest =>
    if c.toNat < 0x80 && !c.isAlphanum && c != '<' && c != '>' && !isBlank c && 0x20 < c.toNat then
      some (c, rest)
    else none
  | [] => none

def bracketChar? : List Char → Option (Char × List Char)
  | '\\' :: rest => escapedChar? rest
  | c :: rest => some (c, rest)
  | [] => none

/-- Reads a set with a name at the front of a bracket item. -/
def namedSet? (text : List Char) : Option (List (Nat × Nat) × List Char) :=
  match text with
  | '[' :: ':' :: rest =>
    let (negated, rest) := match rest with
      | '^' :: others => (true, others)
      | _ => (false, rest)
    let name := rest.takeWhile Char.isAlpha
    match rest.drop name.length with
    | ':' :: ']' :: others => do
      let ranges ← CharSet.ofName? (String.ofList name)
      return (CharSet.toRanges ⟨ranges, negated⟩, others)
    | _ => none
  | '\\' :: c :: rest => do return ((← CharSet.ofLetter? c).toRanges, rest)
  | _ => none

/-- Reads one item of a bracket: a set with a name, a range, or a character. -/
def bracketItem? (text : List Char) : Option (List (Nat × Nat) × List Char) :=
  match namedSet? text with
  | some found => some found
  | none => do
    let (first, rest) ← bracketChar? text
    match rest with
    | '-' :: c :: others =>
      if c == ']' then return ([(first.toNat, first.toNat)], rest)
      else
        let (last, rest) ← bracketChar? (c :: others)
        if first.toNat ≤ last.toNat then return ([(first.toNat, last.toNat)], rest) else none
    | _ => return ([(first.toNat, first.toNat)], rest)

def bracketItems? (text : List Char) : Option (List (Nat × Nat) × List Char) :=
  match text with
  | ']' :: rest => some ([], rest)
  | text =>
    match bracketItem? text with
    | none => none
    | some (ranges, rest) =>
      if rest.length < text.length then
        (bracketItems? rest).map fun (others, rest) => (ranges ++ others, rest)
      else none
termination_by text.length

/-- Reads a bracket whose opening mark has been passed.  A closing mark that comes first is an
item. -/
def bracket? (text : List Char) : Option (CharSet × List Char) := do
  let (negated, rest) := match text with
    | '^' :: rest => (true, rest)
    | _ => (false, text)
  match rest with
  | ']' :: others =>
    let (ranges, rest) ← bracketItems? others
    return (⟨(0x5D, 0x5D) :: ranges, negated⟩, rest)
  | _ =>
    let (ranges, rest) ← bracketItems? rest
    return (⟨ranges, negated⟩, rest)

def escape? (flags : Flags) : List Char → Option (Pattern × List Char)
  | 'b' :: rest => some (wordEdge false, rest)
  | 'B' :: rest => some (wordEdge true, rest)
  | 'A' :: rest => some (textStart, rest)
  | 'z' :: rest => some (textEnd, rest)
  | text =>
    match text with
    | [] => none
    | c :: rest =>
      match CharSet.ofLetter? c with
      | some set => some (one set false, rest)
      | none => (escapedChar? text).map fun (c, rest) => (one (.single c) flags.ignoreCase, rest)

/-- Reads the numbers of a repetition whose opening brace has been passed. -/
def bounds? (text : List Char) : Option (Nat × Option Nat × List Char) := do
  let first := text.takeWhile Decimal.isDigit
  let least ← Decimal.nat? first
  match text.drop first.length with
  | '\x7d' :: rest => return (least, some 0, rest)
  | ',' :: '\x7d' :: rest => return (least, none, rest)
  | ',' :: rest =>
    let second := rest.takeWhile Decimal.isDigit
    let most ← Decimal.nat? second
    match rest.drop second.length with
    | '\x7d' :: rest => if least ≤ most then return (least, some (most - least), rest) else none
    | _ => none
  | _ => none

/-- Reads how often something may be repeated, if it may be. -/
def count? : List Char → Option (Option (Nat × Option Nat × List Char))
  | '*' :: rest => some (some (0, none, rest))
  | '+' :: rest => some (some (1, none, rest))
  | '?' :: rest => some (some (0, some 1, rest))
  | '\x7b' :: rest => some (bounds? rest)
  | _ => none

/-- Applies the repetitions behind a pattern.  A mark that asks for a short match does not change
whether there is one. -/
def repetitions (pattern : Pattern) (text : List Char) : Option (Pattern × List Char) :=
  match count? text with
  | none => some (pattern, text)
  | some none => none
  | some (some (least, extra, rest)) =>
    let rest := match rest with
      | '?' :: others => others
      | _ => rest
    if rest.length < text.length then repetitions (repeated pattern least extra) rest else none
termination_by text.length

/-- Reads a part of a pattern and returns what follows it. -/
abbrev Reader : Type := Flags → List Char → Option (Pattern × List Char)

def closed? : Pattern × List Char → Option (Pattern × List Char)
  | (pattern, ')' :: rest) => some (pattern, rest)
  | _ => none

def skipName? (text : List Char) : Option (List Char) :=
  let name := text.takeWhile fun c => c.isAlphanum || c == '_'
  match text.drop name.length with
  | '>' :: rest => if name.isEmpty then none else some rest
  | _ => none

/-- What a group does: it holds a pattern, or it changes the flags of what follows it. -/
inductive Group where
  | holds (pattern : Pattern) (rest : List Char)
  | flags (flags : Flags) (rest : List Char)

/-- Reads a group whose opening mark has been passed. -/
def group? (nested : Reader) (flags : Flags) (text : List Char) : Option Group := do
  let held := fun (flags : Flags) (text : List Char) => do
    let (pattern, rest) ← closed? (← nested flags text)
    return Group.holds pattern rest
  match text with
  | '?' :: 'P' :: '<' :: rest => held flags (← skipName? rest)
  | '?' :: '<' :: rest => held flags (← skipName? rest)
  | '?' :: rest =>
    let (changed, mark, rest) ← flags.read? true rest
    if mark == ':' then held changed rest else return .flags changed rest
  | _ => held flags text

/-- Reads one part of a sequence that is not a group. -/
def atom? (flags : Flags) : List Char → Option (Pattern × List Char)
  | '.' :: rest => some (one (if flags.dotAll then .all else .withinLine) false, rest)
  | '^' :: rest => some (if flags.manyLines then lineStart else textStart, rest)
  | '$' :: rest => some (if flags.manyLines then lineEnd else textEnd, rest)
  | '[' :: rest =>
    (bracket? rest).map fun (set, rest) => (one set flags.ignoreCase, rest)
  | '\\' :: rest => escape? flags rest
  | c :: rest =>
    if c == '*' || c == '+' || c == '?' || c == '\x7b' then none
    else some (one (.single c) flags.ignoreCase, rest)
  | [] => none

/-- Reads one part of a sequence with its repetitions, or a change of flags. -/
def part? (nested : Reader) (flags : Flags) (text : List Char) : Option Group := do
  let found ← match text with
    | '(' :: inner => group? nested flags inner
    | _ => (atom? flags text).map fun (pattern, rest) => .holds pattern rest
  match found with
  | .flags changed rest => return .flags changed rest
  | .holds pattern rest =>
    let (pattern, rest) ← repetitions pattern rest
    return .holds pattern rest

/-- Whether a sequence ends here: at a bar, at the end of the group or of the pattern. -/
def isSequenceEnd : List Char → Bool
  | [] => true
  | c :: _ => c == '|' || c == ')'

/-- Reads a sequence and returns the flags in force at its end. -/
def sequence? (nested : Reader) (flags : Flags) (text : List Char) :
    Option (Flags × Pattern × List Char) :=
  if isSequenceEnd text then some (flags, empty, text)
  else match part? nested flags text with
    | none => none
    | some (.flags changed rest) =>
      if rest.length < text.length then sequence? nested changed rest else none
    | some (.holds first rest) =>
      if rest.length < text.length then
        (sequence? nested flags rest).map fun (flags, others, rest) =>
          (flags, sequence first others, rest)
      else none
termination_by text.length

def alternatives? (nested : Reader) (flags : Flags) (text : List Char) :
    Option (Pattern × List Char) :=
  match sequence? nested flags text with
  | some (changed, first, '|' :: rest) =>
    if rest.length < text.length then
      (alternatives? nested changed rest).map fun (second, rest) => (either first second, rest)
    else none
  | some (_, first, rest) => some (first, rest)
  | none => none
termination_by text.length

/-- Reads a pattern whose groups nest at most `depth` deep. -/
def nested : Nat → Reader
  | 0 => fun _ _ => none
  | depth + 1 => alternatives? (nested depth)

def read? (text : String) : Option Pattern := do
  match ← nested (text.length + 1) ⟨false, false, false⟩ text.toList with
  | (pattern, []) => some pattern
  | _ => none

end Pattern

end DrivewayWatch.Text
