import DrivewayWatch.Number.Word
import DrivewayWatch.Rule.Value
import DrivewayWatch.Text.Search

/-!
# Operators of rules

What the operators make of values.  Integers have 64 bits and wrap around.  An integer and a
floating-point number are combined as floating-point numbers; the two kinds of integers are not
combined.  Texts, lists and maps can be joined, durations and points in time added and subtracted.
-/

namespace DrivewayWatch.Rule

namespace Value

/-- An integer brought into the range of signed words. -/
def wrapInt (n : Int) : Value :=
  int (n.bmod Word.count)

/-- An integer brought into the range of unsigned words. -/
def wrapUint (n : Int) : Value :=
  uint (n % Word.count).toNat

/-- The two operands as floating-point numbers, if both are numbers and one of them is of that
kind. -/
def floats? : Value → Value → Option (Float × Float)
  | float a, float b => some (a, b)
  | float a, int b => some (a, floatOf b)
  | float a, uint b => some (a, floatOf b)
  | int a, float b => some (floatOf a, b)
  | uint a, float b => some (floatOf a, b)
  | _, _ => none

def numeric (onIntegers : Int → Int → Int) (onFloats : Float → Float → Float) (a b : Value) :
    Except Fault Value :=
  match a, b with
  | int a, int b => .ok (wrapInt (onIntegers a b))
  | uint a, uint b => .ok (wrapUint (onIntegers a b))
  | a, b =>
    match floats? a b with
    | some (x, y) => .ok (float (onFloats x y))
    | none => .error .unsupportedBinaryOperator

def setEntry (entries : List (Key × Value)) (key : Key) (value : Value) : List (Key × Value) :=
  if (entries.lookup key).isSome then
    entries.map fun entry => if entry.1 = key then (key, value) else entry
  else entries ++ [(key, value)]

/-- The entries of two maps; the second one decides about keys of both. -/
def mergeEntries (entries others : List (Key × Value)) : List (Key × Value) :=
  others.foldl (fun merged entry => setEntry merged entry.1 entry.2) entries

/-- A point in time moved by a duration, on the same clock. -/
def moved (time : ZonedInstant) (length : Duration) : Value :=
  timestamp { time with instant := time.instant.later length }

def add : Value → Value → Except Fault Value
  | list a _, list b _ => .ok (list (a ++ b) none)
  | string a, string b => .ok (string (a ++ b))
  | map a _, map b _ => .ok (map (mergeEntries a b) none)
  | duration a, duration b => .ok (duration ⟨a.nanoseconds + b.nanoseconds⟩)
  | timestamp time, duration length => .ok (moved time length)
  | duration length, timestamp time => .ok (moved time length)
  | a, b => numeric (· + ·) (· + ·) a b

def subtract : Value → Value → Except Fault Value
  | duration a, duration b => .ok (duration ⟨a.nanoseconds - b.nanoseconds⟩)
  | timestamp time, duration length => .ok (moved time ⟨-length.nanoseconds⟩)
  | timestamp a, timestamp b => .ok (duration (a.instant.since b.instant))
  | a, b => numeric (· - ·) (· - ·) a b

def isIntegerZero : Value → Bool
  | int n => n == 0
  | uint n => n == 0
  | _ => false

/-- Whether the value is an integer of either kind. -/
def isInteger : Value → Bool
  | int _ => true
  | uint _ => true
  | _ => false

/-- The quotient of two values; one of integers drops its fraction. -/
def divide (a b : Value) : Except Fault Value :=
  if a.isInteger && b.isIntegerZero then .error .divisionByZero
  else numeric Int.tdiv (· / ·) a b

/-- The remainder of two integers of one kind, with the sign of the first. -/
def modulo (a b : Value) : Except Fault Value :=
  if a.isInteger && b.isIntegerZero then .error .divisionByZero
  else match a, b with
    | int _, int _ => numeric Int.tmod (· + ·) a b
    | uint _, uint _ => numeric Int.tmod (· + ·) a b
    | _, _ => .error .unsupportedBinaryOperator

/-- Whether one value lies in another: a text in a text, an item in a list, a key in a map. -/
def isMember : Value → Value → Except Fault Value
  | string part, string whole => .ok (bool (Text.occursIn part.toList whole.toList))
  | item, list items _ => .ok (bool (items.any (·.equals item)))
  | item, map entries _ =>
    .ok <| bool <| match item.toKey? with
      | some key => (entries.lookup key).isSome
      | none => false
  | _, _ => .error .valuesNotComparable

def ordered (test : Ordering → Bool) (a b : Value) : Except Fault Value :=
  match a.compare? b with
  | some order => .ok (bool (test order))
  | none => .error .valuesNotComparable

def combine : BinaryOperator → Value → Value → Except Fault Value
  | .less, a, b => ordered (· == .lt) a b
  | .atMost, a, b => ordered (· != .gt) a b
  | .greater, a, b => ordered (· == .gt) a b
  | .atLeast, a, b => ordered (· != .lt) a b
  | .equal, a, b => .ok (bool (a.equals b))
  | .unequal, a, b => .ok (bool (!a.equals b))
  | .member, a, b => isMember a b
  | .plus, a, b => add a b
  | .minus, a, b => subtract a b
  | .times, a, b => numeric (· * ·) (· * ·) a b
  | .divide, a, b => divide a b
  | .modulo, a, b => modulo a b

def apply : UnaryOperator → Value → Except Fault Value
  | .not, value => .ok (bool (!value.isTrue))
  | .twiceNot, value => .ok (bool value.isTrue)
  | .minus, int n => .ok (wrapInt (-n))
  | .minus, float x => .ok (float (-x))
  | .minus, _ => .error .unsupportedUnaryOperator
  | .twiceMinus, int n => .ok (int n)
  | .twiceMinus, uint n => .ok (uint n)
  | .twiceMinus, float x => .ok (float x)
  | .twiceMinus, _ => .error .unsupportedUnaryOperator

/-- The part of a text that begins at a byte and is one byte long, if it is a character. -/
def characterAt? (text : String) (place : Int) : Option String :=
  if place < 0 then none
  else
    match ((Text.Utf8.bytesOf text).drop place.toNat).head? with
    | some byte => if byte < 0x80 then some (String.singleton (Char.ofNat byte.toNat)) else none
    | none => none

/-- What stands at a position of a list, a text or a map; nothing stands outside of it. -/
def item : Value → Value → Except Fault Value
  | list items _, int n => .ok (if n < 0 then null else (items[n.toNat]?).getD null)
  | list _ _, _ => .error .unsupportedListIndex
  | string text, int n => .ok (((characterAt? text n).map string).getD null)
  | map entries _, position =>
    match position.toKey? with
    | some key => .ok ((entries.lookup key).getD null)
    | none => .error .unsupportedMapIndex
  | _, _ => .error .unsupportedIndex

end Value

end DrivewayWatch.Rule
