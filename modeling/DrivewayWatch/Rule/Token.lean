import DrivewayWatch.Bytes.Hex
import DrivewayWatch.Number.Nearest
import DrivewayWatch.Text.Blank

/-!
# Tokens of rules

A rule is cut into tokens from left to right; at every place the longest lexeme wins.  A sign
directly before digits belongs to the number.  Blanks and comments separate tokens and leave none.

The closing quote of a string is the last one that can close it on its line: a backslash may escape
the quote behind it or stand for itself, and the longer reading wins.  What stands between the
quotes is judged afterwards.
-/

namespace DrivewayWatch.Rule

/-- Operators and punctuation. -/
inductive Symbol where
  | question | colon | or | and
  | less | atMost | greater | atLeast | equal | unequal
  | plus | minus | times | divide | modulo
  | not | twiceNot | twiceMinus
  | dot | comma
  | openParen | closeParen | openBracket | closeBracket | openBrace | closeBrace
  deriving Repr, DecidableEq

/-- The words that cannot be names. -/
inductive Keyword where
  | true
  | false
  | null
  | member
  deriving Repr, DecidableEq

/-- The smallest parts of a rule. -/
inductive Token where
  | int (n : Int)
  | uint (n : Nat)
  | float (x : Float)
  | string (text : String)
  | bytes (bytes : Bytes)
  | name (name : String)
  | keyword (word : Keyword)
  | symbol (symbol : Symbol)
  deriving Repr

/-- What the characters of a lexeme are. -/
inductive Lexeme where
  | blank
  | token (token : Token)
  | invalid

namespace Lexeme

/-- A lexeme at the beginning of a text: its length and what it is. -/
abbrev Match : Type := Nat × Lexeme

def digitsLength (text : List Char) : Nat :=
  (text.takeWhile Decimal.isDigit).length

def blank? (text : List Char) : Option Match :=
  match (text.takeWhile Text.isBlank).length with
  | 0 => none
  | length => some (length, blank)

/-- A comment in front, with the line ends behind it. -/
def comment? : List Char → Option Match
  | '/' :: '/' :: rest =>
    let isLineEnd := fun c => c == '\n' || c == '\r'
    let body := rest.takeWhile (!isLineEnd ·)
    let ends := (rest.drop body.length).takeWhile isLineEnd
    some (2 + body.length + ends.length, blank)
  | _ => none

def isNameStart (c : Char) : Bool :=
  c == '_' || c.isAlpha

/-- The token of a name that may be a reserved word. -/
def word (text : String) : Token :=
  if text = "true" then .keyword .true
  else if text = "false" then .keyword .false
  else if text = "null" then .keyword .null
  else if text = "in" then .keyword .member
  else .name text

def word? : List Char → Option Match
  | [] => none
  | c :: rest =>
    if isNameStart c then
      let name := c :: rest.takeWhile fun c => isNameStart c || Decimal.isDigit c
      some (name.length, token (word (String.ofList name)))
    else none

/-- The length of an exponent in front, zero if there is none. -/
def exponentLength : List Char → Nat
  | e :: rest =>
    if e == 'e' || e == 'E' then
      let (sign, digits) := match rest with
        | '+' :: digits => (1, digits)
        | '-' :: digits => (1, digits)
        | digits => (0, digits)
      match digitsLength digits with
      | 0 => 0
      | length => 1 + sign + length
    else 0
  | [] => 0

/-- The length of a number without a sign that has a point with a digit behind it, or an
exponent. -/
def unsignedFloatLength? (text : List Char) : Option Nat :=
  let whole := digitsLength text
  let rest := text.drop whole
  let exponent := exponentLength rest
  if whole != 0 && exponent != 0 then some (whole + exponent)
  else match rest with
    | '.' :: afterPoint =>
      match digitsLength afterPoint with
      | 0 => none
      | fraction =>
        some (whole + 1 + fraction + exponentLength (afterPoint.drop fraction))
    | _ => none

def float? (text : List Char) : Option Match := do
  let (sign, unsigned) := match text with
    | '+' :: rest => (1, rest)
    | '-' :: rest => (1, rest)
    | _ => (0, text)
  let length := sign + (← unsignedFloatLength? unsigned)
  let value ← Decimal.float? (text.take length)
  return (length, token (.float value))

/-- An integer in front.  One that does not fit is no number at all. -/
def int? (text : List Char) : Option Match :=
  let (sign, unsigned) := match text with
    | '-' :: rest => (1, rest)
    | _ => (0, text)
  match digitsLength unsigned with
  | 0 => none
  | digits =>
    let length := sign + digits
    match Decimal.int64? (text.take length) with
    | some n => some (length, token (.int n))
    | none => some (length, invalid)

/-- An unsigned integer in front: digits, a blank and the letter that marks it. -/
def uint? (text : List Char) : Option Match :=
  let digits := digitsLength text
  match text.drop digits with
  | ' ' :: mark :: _ =>
    if digits != 0 && (mark == 'u' || mark == 'U') then
      match Decimal.nat64? (text.take digits) with
      | some n => some (digits + 2, token (.uint n))
      | none => some (digits + 2, invalid)
    else none
  | _ => none

/-- The length of the longest string whose opening quote has been passed.  `closes` tells whether a
quote here could close the string, `escaped` whether it could be escaped. -/
def quotedLength? (quote : Char) (closes escaped : Bool) (length : Nat) (found : Option Nat) :
    List Char → Option Nat
  | [] => found
  | c :: rest =>
    if c == '\n' then found
    else if c == quote then
      let found := if closes then some (length + 1) else found
      if escaped then quotedLength? quote true false (length + 1) found rest else found
    else quotedLength? quote true (c == '\\' && closes) (length + 1) found rest

/-- The characters that a simple escape stands for. -/
def simpleEscape? : Char → Option Char
  | 'a' => some '\x07'
  | 'b' => some '\x08'
  | 'v' => some '\x0b'
  | 'f' => some '\x0c'
  | 'n' => some '\n'
  | 'r' => some '\r'
  | 't' => some '\t'
  | '\\' => some '\\'
  | '?' => some '?'
  | '\'' => some '\''
  | '"' => some '"'
  | '\x60' => some '\x60'
  | _ => none

def scalar? (code : Nat) : Option Char :=
  if code.isValidChar then some (Char.ofNat code) else none

/-- The value of three octal digits, the first at most three. -/
def octal? (a b c : Char) : Option Nat := do
  let value := fun (limit : Nat) (c : Char) => (Decimal.digitValue? c).filter (· ≤ limit)
  return ((← value 3 a) * 8 + (← value 7 b)) * 8 + (← value 7 c)

/-- The number of hexadecimal digits of an escape by its letter. -/
def hexWidth? : Char → Option Nat
  | 'x' => some 2
  | 'u' => some 4
  | 'U' => some 8
  | _ => none

/-- The code point of the escape behind a backslash, whether it names a byte where bytes are
spelled, and what follows it. -/
def escape? : List Char → Option (Nat × Bool × List Char)
  | [] => none
  | c :: rest =>
    match hexWidth? c with
    | some width =>
      if rest.length < width then none
      else (Hex.number? (rest.take width)).map fun code => (code, width == 2, rest.drop width)
    | none =>
      match simpleEscape? c, rest with
      | some escaped, _ => some (escaped.toNat, false, rest)
      | none, b :: d :: others => (octal? c b d).map fun code => (code, true, others)
      | none, _ => none

theorem escape?_length {text : List Char} {code : Nat} {isByte : Bool} {rest : List Char}
    (found : escape? text = some (code, isByte, rest)) : rest.length < text.length := by
  unfold escape? at found
  grind [Option.map_eq_some_iff]

/-- The text between quotes with its escapes resolved. -/
def unescape? (text : List Char) : Option (List Char) :=
  match text with
  | [] => some []
  | '\\' :: rest =>
    match h : escape? rest with
    | some (code, _, others) => do
      have := escape?_length h
      let c ← scalar? code
      return c :: (← unescape? others)
    | none => none
  | c :: rest => do return c :: (← unescape? rest)
termination_by text.length

/-- The bytes between quotes with their escapes resolved. -/
def unescapeBytes? (text : List Char) : Option Bytes :=
  match text with
  | [] => some []
  | '\\' :: rest =>
    match h : escape? rest with
    | some (code, isByte, others) => do
      have := escape?_length h
      let here ←
        if isByte then some [UInt8.ofNat code]
        else (scalar? code).map fun c => Text.Utf8.encode [c]
      return here ++ (← unescapeBytes? others)
    | none => none
  | c :: rest => do return Text.Utf8.encode [c] ++ (← unescapeBytes? rest)
termination_by text.length

/-- The text between raw quotes: only an escaped quote loses its backslash. -/
def unescapeRaw (quote : Char) : List Char → List Char
  | '\\' :: c :: rest =>
    if c == quote then c :: unescapeRaw quote rest else '\\' :: c :: unescapeRaw quote rest
  | c :: rest => c :: unescapeRaw quote rest
  | [] => []

/-- A lexeme in quotes, `before` characters into it; `read` judges what stands between them. -/
def quoted? (before : Nat) (read : Char → List Char → Option Token) : List Char → Option Match
  | quote :: rest =>
    if quote == '"' || quote == '\'' then do
      let length ← quotedLength? quote true false 0 none rest
      match read quote (rest.take (length - 1)) with
      | some found => some (before + 1 + length, token found)
      | none => some (before + 1 + length, invalid)
    else none
  | [] => none

/-- A string in front: plain, raw, or of bytes. -/
def string? : List Char → Option Match
  | 'r' :: rest =>
    quoted? 1 (fun quote text => some (.string (String.ofList (unescapeRaw quote text)))) rest
  | 'b' :: rest => quoted? 1 (fun _ text => (unescapeBytes? text).map .bytes) rest
  | text => quoted? 0 (fun _ text => (unescape? text).map (.string ∘ String.ofList)) text

def doubleSymbol? : Char → Char → Option Symbol
  | '|', '|' => some .or
  | '&', '&' => some .and
  | '<', '=' => some .atMost
  | '>', '=' => some .atLeast
  | '=', '=' => some .equal
  | '!', '=' => some .unequal
  | '!', '!' => some .twiceNot
  | '-', '-' => some .twiceMinus
  | _, _ => none

def singleSymbol? : Char → Option Symbol
  | '?' => some .question
  | ':' => some .colon
  | '<' => some .less
  | '>' => some .greater
  | '+' => some .plus
  | '-' => some .minus
  | '*' => some .times
  | '/' => some .divide
  | '%' => some .modulo
  | '!' => some .not
  | '.' => some .dot
  | ',' => some .comma
  | '(' => some .openParen
  | ')' => some .closeParen
  | '[' => some .openBracket
  | ']' => some .closeBracket
  | '\x7b' => some .openBrace
  | '\x7d' => some .closeBrace
  | _ => none

def symbol? : List Char → Option Match
  | a :: b :: _ =>
    match doubleSymbol? a b with
    | some symbol => some (2, token (.symbol symbol))
    | none => (singleSymbol? a).map fun symbol => (1, token (.symbol symbol))
  | [a] => (singleSymbol? a).map fun symbol => (1, token (.symbol symbol))
  | [] => none

/-- The longer of two lexemes, the first of two of one length. -/
def longer (best : Option Match) (next : Option Match) : Option Match :=
  match best, next with
  | some first, some second => if first.1 < second.1 then some second else some first
  | none, _ => next
  | _, none => best

def longest? (text : List Char) : Option Match :=
  [comment?, word?, string?, float?, int?, uint?, symbol?].foldl
    (fun best find => longer best (find text)) (blank? text)

end Lexeme

def Token.scan? (text : List Char) : Option (List Token) :=
  match text with
  | [] => some []
  | _ :: tail =>
    match Lexeme.longest? text with
    | none => none
    | some (_, .invalid) => none
    | some (length, .blank) => scan? (tail.drop (length - 1))
    | some (length, .token token) => (scan? (tail.drop (length - 1))).map (token :: ·)
termination_by text.length
decreasing_by all_goals simp only [List.length_drop, List.length_cons]; omega

end DrivewayWatch.Rule
