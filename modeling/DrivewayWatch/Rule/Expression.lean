import DrivewayWatch.Rule.Token

/-!
# Expressions

What the tokens of a rule mean.  From the loosest to the tightest binding: a choice between two
expressions, `||`, `&&`, one comparison, sums, products, one operator in front, and what may follow
a value.  Comparisons do not chain, and only the last part of a choice may be a choice again.

`nested` reads an expression inside another one; its depth is bounded by the number of tokens,
because every nesting takes one.
-/

namespace DrivewayWatch.Rule

/-- Operators in front of an operand. -/
inductive UnaryOperator where
  | not
  | twiceNot
  | minus
  | twiceMinus
  deriving Repr, DecidableEq

/-- Operators between two operands that are always both evaluated. -/
inductive BinaryOperator where
  | less | atMost | greater | atLeast | equal | unequal | member
  | plus | minus | times | divide | modulo
  deriving Repr, DecidableEq

/-- Values that are written down. -/
inductive Literal where
  | int (n : Int)
  | uint (n : Nat)
  | float (x : Float)
  | string (text : String)
  | bytes (bytes : Bytes)
  | bool (value : Bool)
  | null
  deriving Repr

/-- The expressions of rules. -/
inductive Expression where
  | literal (value : Literal)
  | name (name : String)
  | list (items : List Expression)
  | map (entries : List (Expression × Expression))
  | unary (operator : UnaryOperator) (operand : Expression)
  | binary (operator : BinaryOperator) (left right : Expression)
  | or (left right : Expression)
  | and (left right : Expression)
  | choice (condition whenTrue whenFalse : Expression)
  | property (target : Expression) (name : String)
  | index (target position : Expression)
  | fields (target : Expression)
  | call (function : String) (target : Option Expression) (arguments : List Expression)
  deriving Repr

namespace Expression

/-- Reads something from the front of the tokens, and returns what follows it. -/
abbrev Reader (α : Type) : Type := List Token → Option (α × List Token)

def expect? (symbol : Symbol) : List Token → Option (List Token)
  | .symbol found :: rest => if found = symbol then some rest else none
  | _ => none

/-- Reads items up to a closing symbol, with commas between them and perhaps one more behind the
last. -/
def separated {α : Type} (item : Reader α) (close : Symbol) (tokens : List Token) :
    Option (List α × List Token) :=
  match expect? close tokens with
  | some rest => some ([], rest)
  | none =>
    match item tokens with
    | none => none
    | some (first, afterFirst) =>
      match expect? .comma afterFirst with
      | none => (expect? close afterFirst).map fun rest => ([first], rest)
      | some rest =>
        if rest.length < tokens.length then
          (separated item close rest).map fun (others, rest) => (first :: others, rest)
        else none
termination_by tokens.length

/-- Reads a key, a colon and a value. -/
def entry (nested : Reader Expression) : Reader (Expression × Expression) := fun tokens => do
  let (key, rest) ← nested tokens
  let (value, rest) ← nested (← expect? .colon rest)
  return ((key, value), rest)

/-- Reads a name, a colon and a value. -/
def field (nested : Reader Expression) : Reader Unit
  | .name _ :: rest => do
    let (_, rest) ← nested (← expect? .colon rest)
    return ((), rest)
  | _ => none

def reference (nested : Reader Expression) (label : String) : Reader Expression
  | .symbol .openParen :: rest =>
    (separated nested .closeParen rest).map fun (arguments, rest) =>
      (call label none arguments, rest)
  | rest => some (.name label, rest)

/-- Reads an expression that no operator belongs to. -/
def primary (nested : Reader Expression) : Reader Expression
  | .int n :: rest => some (literal (.int n), rest)
  | .uint n :: rest => some (literal (.uint n), rest)
  | .float x :: rest => some (literal (.float x), rest)
  | .string text :: rest => some (literal (.string text), rest)
  | .bytes bytes :: rest => some (literal (.bytes bytes), rest)
  | .keyword .true :: rest => some (literal (.bool true), rest)
  | .keyword .false :: rest => some (literal (.bool false), rest)
  | .keyword .null :: rest => some (literal .null, rest)
  | .name label :: rest => reference nested label rest
  | .symbol .dot :: .name label :: rest => reference nested label rest
  | .symbol .openParen :: rest => do
    let (inner, rest) ← nested rest
    return (inner, ← expect? .closeParen rest)
  | .symbol .openBracket :: rest =>
    (separated nested .closeBracket rest).map fun (items, rest) => (list items, rest)
  | .symbol .openBrace :: rest =>
    (separated (entry nested) .closeBrace rest).map fun (entries, rest) => (map entries, rest)
  | _ => none

/-- Reads one thing that may follow a value: a property, a call, an index or fields.  There is no
answer if nothing of the kind begins, and an empty one if it goes wrong. -/
def suffix? (nested : Reader Expression) (target : Expression) :
    List Token → Option (Option (Expression × List Token))
  | .symbol .dot :: .name label :: .symbol .openParen :: rest =>
    some <| (separated nested .closeParen rest).map fun (arguments, rest) =>
      (call label (some target) arguments, rest)
  | .symbol .dot :: .name label :: rest => some (some (property target label, rest))
  | .symbol .dot :: _ => some none
  | .symbol .openBracket :: rest =>
    some <| do
      let (position, rest) ← nested rest
      return (index target position, ← expect? .closeBracket rest)
  | .symbol .openBrace :: rest =>
    some <| (separated (field nested) .closeBrace rest).map fun (_, rest) => (fields target, rest)
  | _ => none

def suffixes (nested : Reader Expression) (target : Expression) (tokens : List Token) :
    Option (Expression × List Token) :=
  match suffix? nested target tokens with
  | none => some (target, tokens)
  | some none => none
  | some (some (longer, rest)) =>
    if rest.length < tokens.length then suffixes nested longer rest else none
termination_by tokens.length

def member (nested : Reader Expression) : Reader Expression := fun tokens => do
  let (target, rest) ← primary nested tokens
  suffixes nested target rest

def unaryOf? : Symbol → Option UnaryOperator
  | .not => some .not
  | .twiceNot => some .twiceNot
  | .minus => some .minus
  | .twiceMinus => some .twiceMinus
  | _ => none

/-- Reads a value, perhaps with one operator in front. -/
def unary? (nested : Reader Expression) : Reader Expression
  | .symbol symbol :: rest =>
    match unaryOf? symbol with
    | some operator => (member nested rest).map fun (operand, rest) =>
        (unary operator operand, rest)
    | none => member nested (.symbol symbol :: rest)
  | tokens => member nested tokens

/-- The operator that a token is, if it binds as a product does. -/
def productOf? : Token → Option BinaryOperator
  | .symbol .times => some .times
  | .symbol .divide => some .divide
  | .symbol .modulo => some .modulo
  | _ => none

/-- The operator that a token is, if it binds as a sum does. -/
def sumOf? : Token → Option BinaryOperator
  | .symbol .plus => some .plus
  | .symbol .minus => some .minus
  | _ => none

def comparisonOf? : Token → Option BinaryOperator
  | .symbol .less => some .less
  | .symbol .atMost => some .atMost
  | .symbol .greater => some .greater
  | .symbol .atLeast => some .atLeast
  | .symbol .equal => some .equal
  | .symbol .unequal => some .unequal
  | .keyword .member => some .member
  | _ => none

/-- The connective that a token is, as `||` reads it. -/
def disjunctionOf? : Token → Option (Expression → Expression → Expression)
  | .symbol .or => some or
  | _ => none

/-- The connective that a token is, as `&&` reads it. -/
def conjunctionOf? : Token → Option (Expression → Expression → Expression)
  | .symbol .and => some and
  | _ => none

/-- Continues an expression with further operands; operators of one rank are applied from left to
right. -/
def chain (operand : Reader Expression)
    (join? : Token → Option (Expression → Expression → Expression)) (left : Expression)
    (tokens : List Token) : Option (Expression × List Token) :=
  match tokens with
  | [] => some (left, [])
  | token :: afterToken =>
    match join? token with
    | none => some (left, token :: afterToken)
    | some join =>
      match operand afterToken with
      | none => none
      | some (right, rest) =>
        if rest.length < (token :: afterToken).length then
          chain operand join? (join left right) rest
        else none
termination_by tokens.length
decreasing_by assumption

/-- Reads operands with operators of one rank between them. -/
def level (operand : Reader Expression)
    (join? : Token → Option (Expression → Expression → Expression)) : Reader Expression :=
  fun tokens => do
    let (left, rest) ← operand tokens
    chain operand join? left rest

def sum (nested : Reader Expression) : Reader Expression :=
  level (level (unary? nested) fun token => (productOf? token).map binary)
    fun token => (sumOf? token).map binary

/-- Reads a sum, or two with a comparison between them. -/
def comparison (nested : Reader Expression) : Reader Expression := fun tokens => do
  let (left, rest) ← sum nested tokens
  match rest with
  | [] => return (left, rest)
  | token :: afterToken =>
    match comparisonOf? token with
    | none => return (left, rest)
    | some operator =>
      let (right, rest) ← sum nested afterToken
      return (binary operator left right, rest)

def disjunction (nested : Reader Expression) : Reader Expression :=
  level (level (comparison nested) conjunctionOf?) disjunctionOf?

/-- Reads alternatives, or a choice that they decide. -/
def choice? (nested : Reader Expression) : Reader Expression := fun tokens => do
  let (condition, rest) ← disjunction nested tokens
  match expect? .question rest with
  | none => return (condition, rest)
  | some rest =>
    let (whenTrue, rest) ← disjunction nested rest
    let (whenFalse, rest) ← nested (← expect? .colon rest)
    return (choice condition whenTrue whenFalse, rest)

/-- Reads an expression that nests at most `depth` others. -/
def nested : Nat → Reader Expression
  | 0 => fun _ => none
  | depth + 1 => choice? (nested depth)

def read? (text : String) : Option Expression := do
  let tokens ← Token.scan? text.toList
  match ← nested (tokens.length + 1) tokens with
  | (expression, []) => some expression
  | _ => none

end Expression

end DrivewayWatch.Rule
