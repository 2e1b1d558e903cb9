import DrivewayWatch.Rule.Function

/-!
# Evaluation

An expression has a value in a scope, or a fault that stops its evaluation.  Operands are evaluated
from left to right.  The right side of `||` is evaluated only if the left one does not count as
true; both sides of `&&` always are.
-/

namespace DrivewayWatch.Rule

namespace Value

/-- The value of a property: an entry of a map, or else a function of that name. -/
def property (target : Value) (name : String) : Except Fault Value :=
  let entry := match target with
    | map entries _ => entries.lookup (.string name)
    | _ => none
  match entry with
  | some value => .ok value
  | none =>
    match Function.ofName? name with
    | some _ => .ok (function name target)
    | none => .error (.noSuchKey name)

end Value

namespace Expression

/-- The name that an expression is if it is nothing else. -/
def name? : Expression → Option String
  | name label => some label
  | _ => none

mutual

def evaluate : Expression → Scope → Except Fault Value
  | literal value, _ => .ok (.ofLiteral value)
  | name label, scope =>
    match scope.lookup label with
    | some value => .ok value
    | none => .error (.undeclaredReference label)
  | list items, scope => do return .list (← evaluateAll items scope) none
  | map entries, scope => do return .map (← evaluateEntries entries [] scope) none
  | unary operator operand, scope => do Value.apply operator (← evaluate operand scope)
  | binary operator left right, scope => do
    let first ← evaluate left scope
    let second ← evaluate right scope
    Value.combine operator first second
  | or left right, scope => do
    let first ← evaluate left scope
    if first.isTrue then return first else evaluate right scope
  | and left right, scope => do
    let first ← evaluate left scope
    let second ← evaluate right scope
    return .bool (first.isTrue && second.isTrue)
  | choice condition whenTrue whenFalse, scope => do
    let decision ← evaluate condition scope
    if decision.isTrue then evaluate whenTrue scope else evaluate whenFalse scope
  | property target label, scope => do (← evaluate target scope).property label
  | index target position, scope => do
    let whole ← evaluate target scope
    let place ← evaluate position scope
    whole.item place
  | fields target, scope => do
    let _ ← evaluate target scope
    .error .unsupportedFields
  | call label target arguments, scope =>
    match Function.ofName? label with
    | none => .error (.undeclaredReference label)
    | some function =>
      match target with
      | none => function.call scope none (delayed arguments)
      | some receiver => do
        let value ← evaluate receiver scope
        function.call scope (some value) (delayed arguments)

def evaluateAll : List Expression → Scope → Except Fault (List Value)
  | [], _ => .ok []
  | item :: items, scope => do
    let value ← evaluate item scope
    return value :: (← evaluateAll items scope)

/-- The entries of a map, added to those before them. -/
def evaluateEntries : List (Expression × Expression) → List (Key × Value) → Scope →
    Except Fault (List (Key × Value))
  | [], entries, _ => .ok entries
  | (key, item) :: others, entries, scope => do
    match (← evaluate key scope).toKey? with
    | none => .error .unsupportedKeyType
    | some key =>
      let value ← evaluate item scope
      evaluateEntries others (Value.setEntry entries key value) scope

/-- Arguments, to be evaluated when the function asks for them. -/
def delayed : List Expression → List Argument
  | [] => []
  | item :: items => ⟨item.name?, fun scope => evaluate item scope⟩ :: delayed items

end

end Expression

end DrivewayWatch.Rule
