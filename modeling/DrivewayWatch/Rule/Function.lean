import DrivewayWatch.Number.Shortest
import DrivewayWatch.Number.Word
import DrivewayWatch.Rule.Arithmetic
import DrivewayWatch.Text.Pattern
import DrivewayWatch.Time.DurationText
import DrivewayWatch.Time.Printing

/-!
# Functions of rules

A function is called with arguments that are not evaluated yet, and perhaps with a target, the value
that it is called on.  Functions with a receiver take the target as the receiver, or else their
first argument; functions without one take arguments only.  Arguments that are left over are not
looked at.
-/

namespace DrivewayWatch.Rule

/-- The variables that are in force, the innermost one first. -/
abbrev Scope : Type := List (String × Value)

/-- An argument of a call: what it evaluates to, and the name that it is if it is nothing else. -/
structure Argument where
  name : Option String
  value : Scope → Except Fault Value

/-- The functions that rules can call. -/
inductive Function where
  | size
  | has
  | contains
  | startsWith
  | endsWith
  | matchesPattern
  | mapEach
  | filter
  | all
  | any
  | exactlyOne
  | maximum
  | duration
  | timestamp
  | string
  | bytes
  | double
  | int
  | uint
  deriving Repr, DecidableEq

namespace Function

def names : List (String × Function) :=
  [("size", size), ("has", has), ("contains", contains), ("startsWith", startsWith),
    ("endsWith", endsWith), ("matches", matchesPattern), ("map", mapEach), ("filter", filter),
    ("all", all), ("exists", any), ("exists_one", exactlyOne), ("max", maximum),
    ("duration", duration), ("timestamp", timestamp), ("string", string), ("bytes", bytes),
    ("double", double), ("int", int), ("uint", uint)]

def ofName? (name : String) : Option Function :=
  names.lookup name

/-- Takes the next argument, unevaluated. -/
def next : List Argument → Except Fault (Argument × List Argument)
  | [] => .error .invalidArgumentCount
  | argument :: others => .ok (argument, others)

def nextValue (scope : Scope) (arguments : List Argument) :
    Except Fault (Value × List Argument) := do
  let (argument, others) ← next arguments
  return (← argument.value scope, others)

/-- Takes the next argument as the name of a variable. -/
def nextName (arguments : List Argument) : Except Fault (String × List Argument) := do
  let (argument, others) ← next arguments
  match argument.name with
  | some name => return (name, others)
  | none => .error .unexpectedType

/-- The receiver of a call: the target, or the first argument if it has a value. -/
def receiver (scope : Scope) (target : Option Value) (arguments : List Argument) :
    Except Fault (Value × List Argument) :=
  match target, arguments with
  | some value, _ => .ok (value, arguments)
  | none, [] => .error .missingArgumentOrTarget
  | none, argument :: others =>
    match argument.value scope with
    | .ok value => .ok (value, others)
    | .error _ => .error .missingArgumentOrTarget

def textOf : Value → Except Fault String
  | .string text => .ok text
  | _ => .error .unexpectedType

/-- How many items, entries or bytes a value has. -/
def sizeOf : Value → Except Fault Value
  | .list items _ => .ok (.int items.length)
  | .map entries _ => .ok (.int entries.length)
  | .string text => .ok (.int text.utf8ByteSize)
  | .bytes content => .ok (.int content.length)
  | _ => .error (.functionFailed "size")

def holds : Value → Value → Except Fault Bool
  | .list items _, item => .ok (items.any (·.equals item))
  | .map entries _, item =>
    match item.toKey? with
    | some key => .ok (entries.lookup key).isSome
    | none => .error .unsupportedKeyType
  | .string whole, .string part => .ok (Text.occursIn part.toList whole.toList)
  | .bytes whole, .bytes part => .ok (Text.occursIn part whole)
  | _, _ => .ok false

/-- The items of a list, or the keys of a map. -/
def elements : Value → Except Fault (List Value)
  | .list items _ => .ok items
  | .map entries _ => .ok (entries.map (·.1.toValue))
  | _ => .error .unexpectedType

def isBool (expected : Bool) : Value → Bool
  | .bool value => value == expected
  | _ => false

def keep (body : Value → Except Fault Value) : List Value → Except Fault (List Value)
  | [] => .ok []
  | item :: items => do
    let verdict ← body item
    let others ← keep body items
    return if isBool true verdict then item :: others else others

/-- Whether an item turns the body into a given truth value.  Nothing behind the first such item is
evaluated. -/
def meets (expected : Bool) (body : Value → Except Fault Value) : List Value → Except Fault Bool
  | [] => .ok false
  | item :: items => do
    if isBool expected (← body item) then return true
    else meets expected body items

/-- Whether the body is true for exactly one item.  Nothing behind the second such item is
evaluated. -/
def meetsOnce (body : Value → Except Fault Value) (found : Bool) :
    List Value → Except Fault Bool
  | [] => .ok found
  | item :: items => do
    if isBool true (← body item) then
      if found then return false else meetsOnce body true items
    else meetsOnce body found items

/-- The greatest of several values; of equal ones the last. -/
def greatest (best : Value) : List Value → Except Fault Value
  | [] => .ok best
  | value :: values =>
    match best.compare? value with
    | none => .error .valuesNotComparable
    | some .gt => greatest best values
    | some _ => greatest value values

/-- The greatest of some values, or of the items of a single list. -/
def greatestOf : List Value → Except Fault Value
  | [] => .ok .null
  | [.list [] _] => .ok .null
  | [.list (first :: others) _] => greatest first others
  | first :: others => greatest first others

def toText : Value → Except Fault Value
  | .string text => .ok (.string text)
  | .timestamp time => .ok (.string time.text)
  | .duration length => .ok (.string length.text)
  | .int n => .ok (.string (Decimal.text n))
  | .uint n => .ok (.string (Decimal.text n))
  | .float x => .ok (.string (Shortest.text x))
  | .bytes content => .ok (.string (String.ofList (Text.Utf8.decodeLenient content)))
  | _ => .error (.functionFailed "string")

/-- What a function gives, or its failure if it gives nothing. -/
def orFail (name : String) (result : Option Value) : Except Fault Value :=
  match result with
  | some value => .ok value
  | none => .error (.functionFailed name)

def toDouble : Value → Option Value
  | .string text => (Decimal.float? text.toList).map .float
  | .float x => some (.float x)
  | .int n => some (.float (Value.floatOf n))
  | .uint n => some (.float (Value.floatOf n))
  | _ => none

def toInt : Value → Option Value
  | .string text => (Decimal.int64? text.toList).map .int
  | .float x =>
    if Value.floatOf (Word.greatest + 1) < x || x < Value.floatOf Word.least then none
    else some (.int (saturateFloat x))
  | .int n => some (.int n)
  | .uint n => if Word.isSigned n then some (.int n) else none
  | _ => none

/-- The integer part of a nonnegative floating-point number, at most the largest unsigned word. -/
def unsignedPart (x : Float) : Nat :=
  min Word.greatestNat ((truncateFloat? x).getD 0).toNat

def toUint : Value → Option Value
  | .string text => (Decimal.nat64? text.toList).map .uint
  | .float x =>
    if Value.floatOf Word.count < x || x < 0.0 then none else some (.uint (unsignedPart x))
  | .int n => if 0 ≤ n then some (.uint n.toNat) else none
  | .uint n => some (.uint n)
  | _ => none

/-- Calls a function whose receiver and first argument are both texts. -/
def onTexts (scope : Scope) (target : Option Value) (arguments : List Argument)
    (test : String → String → Except Fault Bool) : Except Fault Value := do
  let (subject, others) ← receiver scope target arguments
  let subject ← textOf subject
  let (argument, _) ← nextValue scope others
  return .bool (← test subject (← textOf argument))

/-- Calls a function that binds a variable to each element of its receiver and evaluates a body. -/
def onElements (scope : Scope) (target : Option Value) (arguments : List Argument)
    (work : Value → (Value → Except Fault Value) → Except Fault Value) : Except Fault Value := do
  let (subject, others) ← receiver scope target arguments
  let (name, others) ← nextName others
  let (body, _) ← next others
  work subject fun element => body.value ((name, element) :: scope)

/-- Calls a function that converts its receiver. -/
def onReceiver (scope : Scope) (target : Option Value) (arguments : List Argument)
    (convert : Value → Except Fault Value) : Except Fault Value := do
  let (subject, _) ← receiver scope target arguments
  convert subject

/-- Calls a function that takes one text as an argument. -/
def onText (scope : Scope) (arguments : List Argument)
    (convert : String → Except Fault Value) : Except Fault Value := do
  let (argument, _) ← nextValue scope arguments
  convert (← textOf argument)

/-- Whether a property can be asked for; every other failure stays one. -/
def isPresent : Except Fault Value → Except Fault Value
  | .ok _ => .ok (.bool true)
  | .error (.noSuchKey _) => .ok (.bool false)
  | .error fault => .error fault

def call (scope : Scope) (target : Option Value) (arguments : List Argument) :
    Function → Except Fault Value
  | size => do
    let (argument, _) ← nextValue scope arguments
    sizeOf argument
  | has => do
    let (argument, _) ← next arguments
    isPresent (argument.value scope)
  | contains => do
    let (subject, others) ← receiver scope target arguments
    let (argument, _) ← nextValue scope others
    return .bool (← holds subject argument)
  | startsWith =>
    onTexts scope target arguments fun text part =>
      .ok (Text.startsWith text.toList part.toList)
  | endsWith =>
    onTexts scope target arguments fun text part => .ok (Text.endsWith text.toList part.toList)
  | matchesPattern =>
    onTexts scope target arguments fun text spelling =>
      match Text.Pattern.read? spelling with
      | some pattern => .ok (pattern.occursIn text)
      | none => .error (.functionFailed "matches")
  | mapEach =>
    onElements scope target arguments fun subject body => do
      return .list (← (← elements subject).mapM body) none
  | filter =>
    onElements scope target arguments fun subject body =>
      match subject with
      | .list items _ => (keep body items).map (Value.list · none)
      | _ => .error .unexpectedType
  | all =>
    onElements scope target arguments fun subject body => do
      return .bool !(← meets false body (← elements subject))
  | any =>
    onElements scope target arguments fun subject body => do
      return .bool (← meets true body (← elements subject))
  | exactlyOne =>
    onElements scope target arguments fun subject body => do
      return .bool (← meetsOnce body false (← elements subject))
  | maximum => do greatestOf (← arguments.mapM (·.value scope))
  | duration =>
    onText scope arguments fun text =>
      orFail "duration" ((Duration.read? text).map .duration)
  | timestamp =>
    onText scope arguments fun text =>
      orFail "timestamp" ((Reading.strict? text.toList).map .timestamp)
  | string => onReceiver scope target arguments toText
  | bytes => onText scope arguments fun text => .ok (.bytes (Text.Utf8.bytesOf text))
  | double => onReceiver scope target arguments fun value => orFail "double" (toDouble value)
  | int => onReceiver scope target arguments fun value => orFail "int" (toInt value)
  | uint => onReceiver scope target arguments fun value => orFail "uint" (toUint value)

end Function

end DrivewayWatch.Rule
