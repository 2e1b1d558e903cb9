import DrivewayWatch.Number.Word
import DrivewayWatch.Rule.Expression
import DrivewayWatch.Rule.Fault
import DrivewayWatch.Time.Reading

/-!
# Values of rules

What expressions evaluate to, and what can be asked of values without evaluating anything: their
type, whether they count as true, whether two of them are equal, and which of two comes first.

Numbers of different types are compared by value.  Values of other different types are unequal and
have no order.  A list or map that is taken from the view of a track remembers its place there: it
is equal to itself even if it holds something that is not a number.
-/

namespace DrivewayWatch.Rule

/-- The keys of maps. -/
inductive Key where
  | int (n : Int)
  | uint (n : Nat)
  | bool (value : Bool)
  | string (text : String)
  deriving Repr, DecidableEq

/-- Where a list or map stands in the view of a track, the innermost name first.  One that a rule
makes has no place. -/
abbrev Place : Type := Option (List String)

def Place.isSame (a b : Place) : Bool :=
  a.isSome && a == b

/-- The values of expressions.  A map has each key once.  A function that is asked for as if it
were a property is kept with the value it was asked of. -/
inductive Value where
  | int (n : Int)
  | uint (n : Nat)
  | float (x : Float)
  | string (text : String)
  | bytes (bytes : Bytes)
  | bool (value : Bool)
  | null
  | list (items : List Value) (place : Place)
  | map (entries : List (Key × Value)) (place : Place)
  | duration (duration : Duration)
  | timestamp (time : ZonedInstant)
  | function (name : String) (target : Value)
  deriving Repr

def Key.toValue : Key → Value
  | int n => .int n
  | uint n => .uint n
  | bool value => .bool value
  | string text => .string text

namespace Value

def toKey? : Value → Option Key
  | int n => some (.int n)
  | uint n => some (.uint n)
  | bool value => some (.bool value)
  | string text => some (.string text)
  | _ => none

def ofLiteral : Literal → Value
  | .int n => int n
  | .uint n => uint n
  | .float x => float x
  | .string text => string text
  | .bytes content => bytes content
  | .bool value => bool value
  | .null => null

def type : Value → ValueType
  | int _ => .int
  | uint _ => .uint
  | float _ => .float
  | string _ => .string
  | bytes _ => .bytes
  | bool _ => .bool
  | null => .null
  | list _ _ => .list
  | map _ _ => .map
  | duration _ => .duration
  | timestamp _ => .timestamp
  | function _ _ => .function

/-- The nanoseconds from the beginning of 1970, if they fit 64 bits. -/
def nanoseconds? (instant : Instant) : Option Int :=
  let n := instant.second * 1000000000 + instant.nanosecond
  if Word.isSigned n then some n else none

/-- Whether a value counts as true: numbers that are not zero, texts, lists and maps that are not
empty, durations that are not zero, and points in time after the beginning of 1970.  Durations and
points in time beyond 64 bits of nanoseconds count as false. -/
def isTrue : Value → Bool
  | int n => n != 0
  | uint n => n != 0
  | float x => x != 0.0
  | string text => !text.isEmpty
  | bytes content => !content.isEmpty
  | bool value => value
  | null => false
  | list items _ => !items.isEmpty
  | map entries _ => !entries.isEmpty
  | duration length => length.nanoseconds != 0 && Word.isSigned length.nanoseconds
  | timestamp time => 0 < (nanoseconds? time.instant).getD 0
  | function _ _ => false

def floatOf (n : Int) : Float :=
  Float.ofInt n

mutual

def equals : Value → Value → Bool
  | int a, int b => a == b
  | int a, uint b => a == (b : Int)
  | int a, float b => floatOf a == b
  | uint a, int b => (a : Int) == b
  | uint a, uint b => a == b
  | uint a, float b => floatOf a == b
  | float a, int b => a == floatOf b
  | float a, uint b => a == floatOf b
  | float a, float b => a == b
  | string a, string b => a == b
  | bytes a, bytes b => a == b
  | bool a, bool b => a == b
  | null, null => true
  | list a p, list b q => Place.isSame p q || listsEqual a b
  | map a p, map b q => Place.isSame p q || (a.length == b.length && entriesIn a b)
  | duration a, duration b => a == b
  | timestamp a, timestamp b => a.instant == b.instant
  | function a x, function b y => a == b && equals x y
  | _, _ => false

/-- Whether two lists have equal items at equal places. -/
def listsEqual : List Value → List Value → Bool
  | [], [] => true
  | a :: as, b :: bs => equals a b && listsEqual as bs
  | _, _ => false

def entriesIn : List (Key × Value) → List (Key × Value) → Bool
  | [], _ => true
  | (key, a) :: entries, others =>
    (match others.lookup key with
      | some b => equals a b
      | none => false) && entriesIn entries others

end

/-- Which of two floating-point numbers comes first, if both are numbers. -/
def compareFloats (a b : Float) : Option Ordering :=
  if a < b then some .lt
  else if b < a then some .gt
  else if a == b then some .eq
  else none

def compareInstants (a b : Instant) : Ordering :=
  if a.isBefore b then .lt else if b.isBefore a then .gt else .eq

/-- Which of two values comes first, for values that have an order. -/
def compare? : Value → Value → Option Ordering
  | int a, int b => some (compare a b)
  | int a, uint b => some (compare a b)
  | int a, float b => compareFloats (floatOf a) b
  | uint a, int b => some (compare (a : Int) b)
  | uint a, uint b => some (compare a b)
  | uint a, float b => compareFloats (floatOf a) b
  | float a, int b => compareFloats a (floatOf b)
  | float a, uint b => compareFloats a (floatOf b)
  | float a, float b => compareFloats a b
  | string a, string b => some (compare a b)
  | bool a, bool b => some (compare a b)
  | null, null => some .eq
  | duration a, duration b => some (compare a.nanoseconds b.nanoseconds)
  | timestamp a, timestamp b => some (compareInstants a.instant b.instant)
  | _, _ => none

end Value

end DrivewayWatch.Rule
