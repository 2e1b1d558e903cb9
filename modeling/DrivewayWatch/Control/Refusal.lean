/-!
# Refusals

Why the control server refuses a request, and how it says so.
-/

namespace DrivewayWatch.Control

/-- Why a request is refused. -/
inductive Refusal where
  | invalidBody
  | missingKey
  | unknownKey
  | missingSeconds
  | invalidSeconds
  | invalidFileName
  | unknownRecord
  | noPhoto
  deriving Repr, DecidableEq

/-- The kinds of refusals. -/
inductive RefusalKind where
  | forbidden
  | notFound
  | badRequest
  deriving Repr, DecidableEq

def RefusalKind.status : RefusalKind → Nat
  | forbidden => 403
  | notFound => 404
  | badRequest => 400

/-- The words that begin every refusal of a kind. -/
def RefusalKind.title : RefusalKind → String
  | forbidden => "Forbidden"
  | notFound => "Not found"
  | badRequest => "Bad request"

namespace Refusal

def kind : Refusal → RefusalKind
  | missingKey => .forbidden
  | unknownKey => .forbidden
  | unknownRecord => .notFound
  | noPhoto => .notFound
  | invalidBody => .badRequest
  | missingSeconds => .badRequest
  | invalidSeconds => .badRequest
  | invalidFileName => .badRequest

def reason : Refusal → String
  | invalidBody => "invalid JSON body"
  | missingKey => "missing 'key' field"
  | unknownKey => "bad key"
  | missingSeconds => "missing 's' field"
  | invalidSeconds => "invalid 's' field"
  | invalidFileName => "invalid filename"
  | unknownRecord => "record not found"
  | noPhoto => "record has no photo"

def message (refusal : Refusal) : String :=
  refusal.kind.title ++ ": " ++ refusal.reason

end Refusal

end DrivewayWatch.Control
