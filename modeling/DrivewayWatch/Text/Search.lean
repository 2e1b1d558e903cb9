/-!
# Parts of texts

Looking for one text in another, and taking a text apart where another one stands.  All of it works
on lists, so that texts and bytes are searched alike.
-/

namespace DrivewayWatch.Text

variable {α : Type} [BEq α]

/-- What follows a given beginning, if the text has it. -/
def after? : List α → List α → Option (List α)
  | [], text => some text
  | _ :: _, [] => none
  | a :: beginning, b :: text => if a == b then after? beginning text else none

def startsWith (text beginning : List α) : Bool :=
  (after? beginning text).isSome

def endsWith (text ending : List α) : Bool :=
  startsWith text.reverse ending.reverse

def occursIn (part : List α) : List α → Bool
  | [] => part.isEmpty
  | a :: text => startsWith (a :: text) part || occursIn part text

/-- What stands before a given ending, if the text has it. -/
def before? (ending text : List α) : Option (List α) :=
  (after? ending.reverse text.reverse).map List.reverse

end DrivewayWatch.Text
