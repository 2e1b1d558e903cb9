import DrivewayWatch.Bytes.Hex
import DrivewayWatch.Json.Value
import DrivewayWatch.Number.Shortest

/-!
# Writing values

The compact form without blanks.  In strings, quotes, backslashes and control characters are
escaped; all other characters stand for themselves.
-/

namespace DrivewayWatch.Json.Value

/-- A character as it is written inside a string. -/
def escaped (c : Char) : List Char :=
  if c = '"' then ['\\', '"']
  else if c = '\\' then ['\\', '\\']
  else if c = '\n' then ['\\', 'n']
  else if c = '\r' then ['\\', 'r']
  else if c = '\t' then ['\\', 't']
  else if c = '\x08' then ['\\', 'b']
  else if c = '\x0c' then ['\\', 'f']
  else if c.toNat < 0x20 then '\\' :: 'u' :: Hex.padded 4 c.toNat
  else [c]

def quoted (content : String) : List Char :=
  '"' :: content.toList.flatMap escaped ++ ['"']

/-- A number; one that is not finite is written as `null`. -/
def numeral : Number → List Char
  | .natural n => Decimal.digits n
  | .negative n => Decimal.ofInt n
  | .real x => if x.isFinite then (Shortest.text x).toList else "null".toList

def commaSeparated (parts : List (List Char)) : List Char :=
  (parts.intersperse [',']).flatten

mutual

def write : Value → List Char
  | null => "null".toList
  | bool value => if value then "true".toList else "false".toList
  | number value => numeral value
  | string content => quoted content
  | array items => '[' :: commaSeparated (writeItems items) ++ [']']
  | object members => '\x7b' :: commaSeparated (writeMembers members) ++ ['\x7d']

def writeItems : List Value → List (List Char)
  | [] => []
  | value :: rest => write value :: writeItems rest

def writeMembers : List (String × Value) → List (List Char)
  | [] => []
  | (key, value) :: rest => (quoted key ++ ':' :: write value) :: writeMembers rest

end

def text (value : Value) : String :=
  String.ofList value.write

end DrivewayWatch.Json.Value
