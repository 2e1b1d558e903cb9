import DrivewayWatch.Json.Numeral
import DrivewayWatch.Text.Utf8

/-!
# Documents

A document is what a text in JavaScript Object Notation spells, before any of it is judged: numerals
keep their digits, and a string whose escapes do not form Unicode text is kept as a broken one.  A
reader that skips a part of a document never asks about it.
-/

namespace DrivewayWatch.Json

/-- A document.  A string is `none` if its escapes do not form Unicode text. -/
inductive Document where
  | null
  | bool (value : Bool)
  | number (numeral : Numeral)
  | string (content : Option String)
  | array (items : List Document)
  | object (members : List (Option String × Document))
  deriving Repr, Inhabited

/-- The smallest parts of a text: marks, strings, and words such as `true` or a numeral. -/
inductive Token where
  | openArray
  | closeArray
  | openObject
  | closeObject
  | comma
  | colon
  | string (content : Option String)
  | scalar (document : Document)
  deriving Repr

namespace Token

/-- How far a string has been read: its characters, the last one first, a leading surrogate that
waits for its partner, and whether an escape went wrong. -/
structure Partial where
  reversed : List Char
  waiting : Option Nat
  broken : Bool

def Partial.start : Partial :=
  ⟨[], none, false⟩

/-- Adds a character.  A surrogate that waits for its partner does not find it. -/
def Partial.push (text : Partial) (c : Char) : Partial :=
  ⟨c :: text.reversed, none, text.broken || text.waiting.isSome⟩

def Partial.pushUnit (text : Partial) (unit : Nat) : Partial :=
  if 0xD800 ≤ unit && unit < 0xDC00 then
    ⟨text.reversed, some unit, text.broken || text.waiting.isSome⟩
  else if 0xDC00 ≤ unit && unit < 0xE000 then
    match text.waiting with
    | some lead =>
      ⟨Char.ofNat (0x10000 + (lead - 0xD800) * 0x400 + (unit - 0xDC00)) :: text.reversed, none,
        text.broken⟩
    | none => ⟨text.reversed, none, true⟩
  else text.push (Char.ofNat unit)

/-- The content of a string when its closing quote is met. -/
def Partial.finish (text : Partial) : Option String :=
  if text.broken || text.waiting.isSome then none else some (String.ofList text.reversed.reverse)

/-- Where a scan stands: between tokens, in a word, in a string, after a backslash, or in the four
hexadecimal digits of an escape. -/
inductive Mode where
  | between
  | word (reversed : List Char)
  | inString (text : Partial)
  | escape (text : Partial)
  | hex (text : Partial) (unit count : Nat)

def isBlank (c : Char) : Bool :=
  c == ' ' || c == '\n' || c == '\t' || c == '\r'

def isWordChar (c : Char) : Bool :=
  c.isAlphanum || c == '-' || c == '+' || c == '.'

def mark? : Char → Option Token
  | '[' => some openArray
  | ']' => some closeArray
  | '\x7b' => some openObject
  | '\x7d' => some closeObject
  | ',' => some comma
  | ':' => some colon
  | _ => none

def word? (word : List Char) : Option Document :=
  if word = "true".toList then some (.bool true)
  else if word = "false".toList then some (.bool false)
  else if word = "null".toList then some .null
  else (Numeral.read? word).map .number

/-- The character that the letter of a short escape stands for. -/
def shortEscape? : Char → Option Char
  | '"' => some '"'
  | '\\' => some '\\'
  | '/' => some '/'
  | 'b' => some '\x08'
  | 'f' => some '\x0c'
  | 'n' => some '\n'
  | 'r' => some '\r'
  | 't' => some '\t'
  | _ => none

def hexValue? (c : Char) : Option Nat :=
  if '0' ≤ c ∧ c ≤ '9' then some (c.toNat - '0'.toNat)
  else if 'a' ≤ c ∧ c ≤ 'f' then some (c.toNat - 'a'.toNat + 10)
  else if 'A' ≤ c ∧ c ≤ 'F' then some (c.toNat - 'A'.toNat + 10)
  else none

/-- Begins a token, or passes a blank. -/
def start? (tokens : List Token) (c : Char) : Option (Mode × List Token) :=
  if isBlank c then some (.between, tokens)
  else if c = '"' then some (.inString .start, tokens)
  else if isWordChar c then some (.word [c], tokens)
  else (mark? c).map fun token => (.between, token :: tokens)

/-- Takes one more character; the tokens so far are held with the last one first. -/
def step? : Mode × List Token → Char → Option (Mode × List Token)
  | (.between, tokens), c => start? tokens c
  | (.word reversed, tokens), c =>
    if isWordChar c then some (.word (c :: reversed), tokens)
    else do start? (scalar (← word? reversed.reverse) :: tokens) c
  | (.inString text, tokens), c =>
    if c = '"' then some (.between, string text.finish :: tokens)
    else if c = '\\' then some (.escape text, tokens)
    else if c.toNat < 0x20 then none
    else some (.inString (text.push c), tokens)
  | (.escape text, tokens), c =>
    if c = 'u' then some (.hex text 0 0, tokens)
    else (shortEscape? c).map fun escaped => (.inString (text.push escaped), tokens)
  | (.hex text unit count, tokens), c => do
    let unit := unit * 16 + (← hexValue? c)
    if count = 3 then some (.inString (text.pushUnit unit), tokens)
    else some (.hex text unit (count + 1), tokens)

/-- The tokens of a scan that has met the end. -/
def finish? : Mode × List Token → Option (List Token)
  | (.between, tokens) => some tokens.reverse
  | (.word reversed, tokens) => do some ((scalar (← word? reversed.reverse) :: tokens).reverse)
  | _ => none

def scan? (text : List Char) : Option (List Token) := do
  finish? (← text.foldlM step? (.between, []))

/-- Takes one more character of bytes, or bytes that spell none.  Those may stand in strings only,
and break them. -/
def stepUnit? : Mode × List Token → Option Char → Option (Mode × List Token)
  | state, some c => step? state c
  | (.inString text, tokens), none => some (.inString { text with broken := true }, tokens)
  | _, none => none

def scanBytes? (bytes : Bytes) : Option (List Token) := do
  finish? (← (Text.Utf8.units bytes).foldlM stepUnit? (.between, []))

end Token

namespace Document

/-- An array or an object that is still open, with the parts that are complete in reverse; an
object also has the key of the part that is being read. -/
inductive Frame where
  | array (reversed : List Document)
  | object (reversed : List (Option String × Document)) (key : Option String)

/-- What may come next. -/
inductive Phase where
  | value
  | firstItem
  | firstKey
  | key (reversed : List (Option String × Document))
  | colon (reversed : List (Option String × Document)) (key : Option String)
  | after (document : Document)

/-- Where the reading of a document stands: the open arrays and objects, the innermost one first,
and what may come next. -/
structure State where
  frames : List Frame
  phase : Phase

def begin? (frames : List Frame) : Token → Option State
  | .openArray => some ⟨.array [] :: frames, .firstItem⟩
  | .openObject => some ⟨frames, .firstKey⟩
  | .string content => some ⟨frames, .after (.string content)⟩
  | .scalar document => some ⟨frames, .after document⟩
  | _ => none

def step? : State → Token → Option State
  | ⟨frames, .value⟩, token => begin? frames token
  | ⟨.array [] :: frames, .firstItem⟩, .closeArray => some ⟨frames, .after (.array [])⟩
  | ⟨frames, .firstItem⟩, token => begin? frames token
  | ⟨frames, .firstKey⟩, .string key => some ⟨frames, .colon [] key⟩
  | ⟨frames, .firstKey⟩, .closeObject => some ⟨frames, .after (.object [])⟩
  | ⟨frames, .key reversed⟩, .string key => some ⟨frames, .colon reversed key⟩
  | ⟨frames, .colon reversed key⟩, .colon => some ⟨.object reversed key :: frames, .value⟩
  | ⟨.array reversed :: frames, .after document⟩, .comma =>
    some ⟨.array (document :: reversed) :: frames, .value⟩
  | ⟨.array reversed :: frames, .after document⟩, .closeArray =>
    some ⟨frames, .after (.array (document :: reversed).reverse)⟩
  | ⟨.object reversed key :: frames, .after document⟩, .comma =>
    some ⟨frames, .key ((key, document) :: reversed)⟩
  | ⟨.object reversed key :: frames, .after document⟩, .closeObject =>
    some ⟨frames, .after (.object ((key, document) :: reversed).reverse)⟩
  | _, _ => none

/-- The document that tokens make up. -/
def ofTokens? (tokens : List Token) : Option Document := do
  match ← tokens.foldlM step? ⟨[], .value⟩ with
  | ⟨[], .after document⟩ => some document
  | _ => none

/-- The document that a text spells, with nothing but blanks around it. -/
def read? (text : List Char) : Option Document := do
  ofTokens? (← Token.scan? text)

/-- The document that bytes spell.  A string that is no text is broken, and does no harm where it is
skipped. -/
def readBytes? (bytes : Bytes) : Option Document := do
  ofTokens? (← Token.scanBytes? bytes)

end Document

end DrivewayWatch.Json
