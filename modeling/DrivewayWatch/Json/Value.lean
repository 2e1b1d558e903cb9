import DrivewayWatch.Json.Document

/-!
# Values

A value is a document of which every part has been judged: every numeral denotes a number, every
string is Unicode text, nesting stays within a limit, and of several members with one key the last
one counts.
-/

namespace DrivewayWatch.Json

/-- A value. -/
inductive Value where
  | null
  | bool (value : Bool)
  | number (value : Number)
  | string (content : String)
  | array (items : List Value)
  | object (members : List (String × Value))
  deriving Repr, Inhabited

namespace Value

/-- Sets the value of a key: in place if the key is there, else at the end. -/
def setMember (members : List (String × Value)) (key : String) (value : Value) :
    List (String × Value) :=
  if members.any (·.1 == key) then
    members.map fun member => if member.1 == key then (key, value) else member
  else members ++ [(key, value)]

/-- The value of a key of an object; `none` for a value that is no object. -/
def field? (key : String) : Value → Option Value
  | object members => (members.find? (·.1 == key)).map (·.2)
  | _ => none

def text? : Value → Option String
  | string content => some content
  | _ => none

end Value

def nestingLimit : Nat := 127

mutual

/-- The value of a document whose arrays and objects are nested at most `levels` deep. -/
def Document.valueWithin? : (levels : Nat) → Document → Option Value
  | _, .null => some .null
  | _, .bool value => some (.bool value)
  | _, .number numeral => numeral.value?.map .number
  | _, .string content => content.map .string
  | 0, .array _ => none
  | levels + 1, .array items => (Document.itemsWithin? levels items).map .array
  | 0, .object _ => none
  | levels + 1, .object members => (Document.membersWithin? levels members).map fun members =>
    .object (members.foldl (fun kept member => Value.setMember kept member.1 member.2) [])

def Document.itemsWithin? : (levels : Nat) → List Document → Option (List Value)
  | _, [] => some []
  | levels, document :: rest => do
    return (← Document.valueWithin? levels document) :: (← Document.itemsWithin? levels rest)

def Document.membersWithin? :
    (levels : Nat) → List (Option String × Document) → Option (List (String × Value))
  | _, [] => some []
  | levels, (key, document) :: rest => do
    let value ← Document.valueWithin? levels document
    return (← key, value) :: (← Document.membersWithin? levels rest)

end

def Document.value? (document : Document) : Option Value :=
  document.valueWithin? nestingLimit

def Value.read? (text : List Char) : Option Value := do
  (← Document.read? text).value?

end DrivewayWatch.Json
