/-!
# Faults of rules

Why a rule has no truth value: its evaluation stopped, or it ended in a value of another type.
-/

namespace DrivewayWatch.Rule

/-- The types of values. -/
inductive ValueType where
  | int
  | uint
  | float
  | string
  | bytes
  | bool
  | null
  | list
  | map
  | duration
  | timestamp
  | function
  deriving Repr, DecidableEq

/-- Why a rule has no truth value. -/
inductive Fault where
  | undeclaredReference (name : String)
  | noSuchKey (name : String)
  | valuesNotComparable
  | unsupportedBinaryOperator
  | unsupportedUnaryOperator
  | unsupportedListIndex
  | unsupportedMapIndex
  | unsupportedIndex
  | unsupportedKeyType
  | unsupportedFields
  | unexpectedType
  | invalidArgumentCount
  | missingArgumentOrTarget
  | functionFailed (name : String)
  | divisionByZero
  | notBoolean (type : ValueType)
  deriving Repr, DecidableEq

end DrivewayWatch.Rule
