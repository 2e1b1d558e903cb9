import DrivewayWatch.Counter
import DrivewayWatch.Net.Http

/-!
# Signs of life

A sign of life is a request to a health check.  It fails if no answer comes or if the answer is an
error; a failure is counted and nothing else happens.
-/

namespace DrivewayWatch.HealthPing

def request (url : String) : Net.Request :=
  { method := .get, url, headers := [], body := "" }

/-- Whether a health check answers without an error. -/
def succeeds (exchange : Net.Exchange) (url : String) : Bool :=
  match (request url).send exchange with
  | some reply => !reply.isError
  | none => false

def failureMessage : String := "HTTP request failed"

/-- What is counted for the signs of life to several health checks. -/
def counts (exchange : Net.Exchange) (urls : List String) : List Counter :=
  (urls.filter fun url => !succeeds exchange url).map fun _ => .healthPingFailed

end DrivewayWatch.HealthPing
