import DrivewayWatch.Json.Value

/-!
# Reading records from documents

A record is an object whose unknown members are skipped unread and whose known members occur once
each, or an array of its fields in order.  An integer is read as a floating-point number where one
is asked for, but never the other way round.
-/

namespace DrivewayWatch.Json.Document

def text? : Document → Option String
  | string content => content
  | _ => none

def bool? : Document → Option Bool
  | bool value => some value
  | _ => none

def number? : Document → Option Number
  | number numeral => numeral.value?
  | _ => none

def float? (document : Document) : Option Float :=
  document.number?.map Number.toFloat

/-- An integer between two bounds, which belong to the range. -/
def integer? (low high : Int) (document : Document) : Option Int := do
  let n ← (← document.number?).integer?
  if low ≤ n ∧ n ≤ high then some n else none

/-- What `null` or a document of another kind holds. -/
def optional? {α : Type} (decode : Document → Option α) : Document → Option (Option α)
  | null => some none
  | document => (decode document).map some

def list? {α : Type} (decode : Document → Option α) : Document → Option (List α)
  | array items => items.mapM decode
  | _ => none

/-- Sets what a key stands for: in place if the key is there, else at the end. -/
def setEntry {α : Type} (entries : List (String × α)) (key : String) (value : α) :
    List (String × α) :=
  if entries.any (·.1 == key) then
    entries.map fun entry => if entry.1 == key then (key, value) else entry
  else entries ++ [(key, value)]

/-- The members of an object; the last one of a key counts. -/
def entries? {α : Type} (decode : Document → Option α) : Document → Option (List (String × α))
  | object members => members.foldlM (fun kept member => do
      return setEntry kept (← member.1) (← decode member.2)) []
  | _ => none

/-- One of the names of an enumeration, as a string or as an object that maps it to `null`. -/
def variant? : Document → Option String
  | string content => content
  | object [(key, null)] => key
  | _ => none

/-- The member of an object with a given key, `none` if there is none, and no answer at all if
there are several. -/
def single? (members : List (Option String × Document)) (name : String) :
    Option (Option Document) :=
  match members.filter (·.1 == some name) with
  | [] => some none
  | [(_, document)] => some (some document)
  | _ => none

/-- The fields of a record with the given names, each `none` if it is left out. -/
def fields? (names : List String) : Document → Option (List (Option Document))
  | object members =>
    if members.all (·.1.isSome) then names.mapM (single? members) else none
  | array items =>
    if items.length ≤ names.length then
      some (items.map some ++ List.replicate (names.length - items.length) none)
    else none
  | _ => none

def orDefault {α : Type} (default : α) (decode : Document → Option α) :
    Option Document → Option α
  | none => some default
  | some document => decode document

end DrivewayWatch.Json.Document
