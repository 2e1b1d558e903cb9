import DrivewayWatch.Environment
import DrivewayWatch.Text.Blank
import DrivewayWatch.Text.Lines

/-!
# Files of variables

A file can provide variables that are not set.  A line gives a name, an equals sign and a value.
Single quotes keep a value as it is; double quotes and backslashes allow blanks, and a dollar sign
refers to another variable, in braces or without.  A quotation may go on over several lines.  A
number sign begins a comment.

Reading ends with the first line that is not of this form; what stands before it counts.
-/

namespace DrivewayWatch.Environment.File

open Text

/-! ## Joining lines -/

/-- Where in a quotation a line ends. -/
inductive Quoting where
  | outside
  | blank
  | escape
  | single
  | singleEscape
  | double
  | doubleEscape
  deriving Repr, DecidableEq

/-- Whether a character is a blank within a line. -/
def isInnerBlank (c : Char) : Bool :=
  isBlank c && c != '\n' && c != '\r'

/-- The place after a character that begins something outside of quotations. -/
def Quoting.opened (c : Char) : Quoting :=
  if c = '\\' then escape
  else if c = '"' then double
  else if c = '\'' then single
  else outside

def Quoting.next (quoting : Quoting) (c : Char) : Quoting :=
  match quoting with
  | outside => if isInnerBlank c then blank else opened c
  | blank => opened c
  | escape => outside
  | single => if c = '\\' then singleEscape else if c = '\'' then outside else single
  | singleEscape => single
  | double => if c = '\\' then doubleEscape else if c = '"' then outside else double
  | doubleEscape => double

/-- Reads a line up to a comment, which begins behind a blank.  The place where the line ends is
given if there is no comment. -/
def scan (quoting : Quoting) : List Char → List Char × Option Quoting
  | [] => ([], some quoting)
  | c :: rest =>
    if quoting = .blank ∧ c = '#' then ([], none)
    else
      let (kept, last) := scan (quoting.next c) rest
      (c :: kept, last)

def linesOf : List Char → List (List Char)
  | [] => []
  | c :: rest =>
    if c = '\n' then [c] :: linesOf rest
    else
      match linesOf rest with
      | [] => [[c]]
      | line :: lines => (c :: line) :: lines

def withoutEnd (line : List Char) : List Char :=
  match line.reverse with
  | '\n' :: '\r' :: front => front.reverse
  | '\n' :: front => front.reverse
  | _ => line

/-- Joins the lines of quotations that go on.  There is no entry for what an open quotation at the
end of the file begins: it is `none`. -/
def joined (before : List Char) (quoting : Quoting) : List (List Char) → List (Option (List Char))
  | [] => if quoting = .outside then [] else [none]
  | line :: lines =>
    if (trimFront (before ++ line)).head? = some '#' then joined [] .outside lines
    else
      match scan quoting line with
      | (kept, none) => some (before ++ kept) :: joined [] .outside lines
      | (_, some .outside) => some (withoutEnd (before ++ line)) :: joined [] .outside lines
      | (_, some last) => joined (before ++ line) last lines

/-! ## Values -/

/-- Whether a reference to a variable is being read, and in which form. -/
inductive Reference where
  | closed
  | plain
  | braced
  deriving Repr, DecidableEq

/-- What has been read of a value.  The value and the name of a variable are kept from their
ends. -/
structure Reader where
  inSingle : Bool
  inDouble : Bool
  isEscaped : Bool
  isEnded : Bool
  reference : Reference
  name : List Char
  value : List Char

namespace Reader

def start : Reader :=
  ⟨false, false, false, false, .closed, [], []⟩

def push (reader : Reader) (c : Char) : Reader :=
  { reader with value := c :: reader.value }

/-- Puts the value of a variable in place of its name. -/
def resolve (valueOf : String → String) (reader : Reader) : Reader :=
  let found := (valueOf (String.ofList reader.name.reverse)).toList
  { reader with value := found.reverse ++ reader.value, name := [] }

/-- Whether a character can stand in a name without braces.  One beyond ASCII counts as a letter. -/
def isNameChar (c : Char) : Bool :=
  c.isAlphanum || 128 ≤ c.toNat

def stepEscaped (reader : Reader) (c : Char) : Option Reader :=
  if ['\\', '\'', '"', '$', ' '].contains c then some { reader.push c with isEscaped := false }
  else if c = 'n' then some { reader.push '\n' with isEscaped := false }
  else none

def stepReference (valueOf : String → String) (reader : Reader) (c : Char) : Reader :=
  if isNameChar c then { reader with name := c :: reader.name }
  else if reader.reference = .braced then
    if c = '\x7d' then { reader.resolve valueOf with reference := .closed }
    else { reader with name := c :: reader.name }
  else if c = '\x7b' ∧ reader.name.isEmpty then { reader with reference := .braced }
  else
    let resolved := reader.resolve valueOf
    if c = '$' then resolved else { resolved with reference := .closed }.push c

/-- Reads a character outside of single quotes and references. -/
def stepPlain (reader : Reader) (c : Char) : Reader :=
  if c = '$' then { reader with reference := .plain }
  else if c = '\\' then { reader with isEscaped := true }
  else if c = '"' then { reader with inDouble := !reader.inDouble }
  else if reader.inDouble then reader.push c
  else if c = '\'' then { reader with inSingle := true }
  else if c = ' ' ∨ c = '\t' then { reader with isEnded := true }
  else reader.push c

/-- Reads a character of a value that has not ended. -/
def step (valueOf : String → String) (reader : Reader) (c : Char) : Option Reader :=
  if reader.isEscaped then reader.stepEscaped c
  else if reader.inSingle then
    some (if c = '\'' then { reader with inSingle := false } else reader.push c)
  else if reader.reference ≠ .closed then some (reader.stepReference valueOf c)
  else some (reader.stepPlain c)

/-- The whole value, if no quotation and no brace is left open. -/
def finish (valueOf : String → String) (reader : Reader) : Option String :=
  if reader.reference = .braced ∨ reader.inSingle ∨ reader.inDouble then none
  else some (String.ofList (reader.resolve valueOf).value.reverse)

end Reader

/-- Reads a value.  Behind its end only blanks and a comment may stand. -/
def valueFrom? (valueOf : String → String) (reader : Reader) : List Char → Option String
  | [] => reader.finish valueOf
  | c :: rest =>
    if reader.isEnded then
      if c = ' ' ∨ c = '\t' then valueFrom? valueOf reader rest
      else if c = '#' then reader.finish valueOf
      else none
    else do valueFrom? valueOf (← reader.step valueOf c) rest

/-! ## Assignments -/

def name? : List Char → Option (String × List Char)
  | [] => none
  | c :: rest =>
    if c.isAlpha ∨ c = '_' then
      let isInName := fun c : Char => c.isAlphanum || c == '_' || c == '.'
      some (String.ofList (c :: rest.takeWhile isInName), rest.dropWhile isInName)
    else none

def afterEquals? : List Char → Option (List Char)
  | '=' :: rest => some rest
  | _ => none

/-- Takes the name of an assignment and its equals sign.  The word `export` may stand in front. -/
def target? (line : List Char) : Option (String × List Char) := do
  let (name, rest) ← name? line
  match afterEquals? (trimFront rest) with
  | some rest => return (name, rest)
  | none =>
    if name = "export" then
      let (name, rest) ← name? (trimFront rest)
      return (name, ← afterEquals? (trimFront rest))
    else none

def isOver (text : List Char) : Bool :=
  text.isEmpty || text.head? == some '#'

/-- The value that a name has: outside if it is set there, else in the file. -/
def valueOf (environment : Environment) (given : List (String × String)) (name : String) :
    String :=
  ((environment.get? name).or (given.lookup name)).getD ""

/-- What a line assigns, if anything; no answer if it is not of the form of a line. -/
def assignment? (environment : Environment) (given : List (String × String)) (line : List Char) :
    Option (Option (String × String)) := do
  let line := trim line
  if isOver line then return none
  else
    let (name, rest) ← target? line
    let rest := trimFront rest
    if isOver rest then return some (name, "")
    else return some (name, ← valueFrom? (valueOf environment given) .start rest)

/-- Takes the lines of a file one after another, as far as they are well formed. -/
def provideFrom (environment : Environment) (given : List (String × String)) :
    List (Option (List Char)) → Environment
  | some line :: lines =>
    match assignment? environment given line with
    | none => environment
    | some none => provideFrom environment given lines
    | some (some (name, value)) =>
      provideFrom (environment.provide name value) ((name, value) :: given) lines
  | _ => environment

/-- The text of a file without the mark that may stand in front. -/
def withoutMark (text : List Char) : List Char :=
  if text.head? = some '\uFEFF' then text.drop 1 else text

/-- The text of a file, up to the first line that is no text. -/
def textOf (file : Bytes) : List Char :=
  match Utf8.decode file with
  | some text => text
  | none =>
    (((Lines.ofBytes file).map Utf8.decode).takeWhile (·.isSome)).flatMap fun line =>
      line.getD [] ++ ['\n']

/-- The environment with the variables that a file provides. -/
def provide (environment : Environment) (file : Bytes) : Environment :=
  provideFrom environment [] (joined [] .outside (linesOf (withoutMark (textOf file))))

end DrivewayWatch.Environment.File
