import DrivewayWatch.Json.Decode
import DrivewayWatch.Net.Address
import DrivewayWatch.Text.Blank

/-!
# Settings of the control server

Where the control server listens, and the address under which the owner reaches it.
-/

namespace DrivewayWatch.Control

open Json

/-- Where the control server listens. -/
structure Settings where
  port : Nat
  bindTo : String
  externalBaseUrl : String
  deriving Repr, DecidableEq

namespace Settings

/-- The settings that are used where none are given. -/
def standard : Settings :=
  { port := 5550, bindTo := "0.0.0.0", externalBaseUrl := "http://localhost:5550" }

def ofDocument? (document : Document) : Option Settings := do
  match ← document.fields? ["port", "bind_to", "external_base_url"] with
  | [port, bindTo, externalBaseUrl] =>
    let port ← Document.orDefault (standard.port : Int) (·.integer? 0 65535) port
    return {
      port := port.toNat
      bindTo := ← Document.orDefault standard.bindTo (·.text?) bindTo
      externalBaseUrl := ← Document.orDefault standard.externalBaseUrl (·.text?) externalBaseUrl }
  | _ => none

/-- The host that is listened on; no host and a star mean every one. -/
def host (settings : Settings) : String :=
  let host := Text.trimmed settings.bindTo
  if host = "" ∨ host = "*" then "0.0.0.0" else host

/-- The socket that is listened on, or the host that is none. -/
def socket (settings : Settings) : Except String Net.Socket :=
  match Net.Socket.read? (settings.host.toList ++ ':' :: Decimal.digits settings.port) with
  | some socket => .ok socket
  | none => .error settings.host

end Settings

/-- What is said of a host that cannot be listened on. -/
def invalidHostMessage (host : String) : String :=
  "Internal error: invalid bind address '" ++ host ++ "': invalid socket address syntax"

end DrivewayWatch.Control
