/-!
# The environment

Variables that are set outside the program, and what the program takes from them.
-/

namespace DrivewayWatch

/-- The variables that are set, by name. -/
structure Environment where
  settings : List (String × String)
  deriving Repr, DecidableEq

namespace Environment

def get? (environment : Environment) (name : String) : Option String :=
  environment.settings.lookup name

/-- Sets a variable, unless it is set already. -/
def provide (environment : Environment) (name value : String) : Environment :=
  if (environment.get? name).isSome then environment
  else ⟨environment.settings ++ [(name, value)]⟩

def configFile (environment : Environment) : Option String :=
  environment.get? "DMON_CONFIG"

def token (environment : Environment) : Option String :=
  environment.get? "NTFY_TOKEN"

/-- Whether counters are reported.  They are unless something else is said. -/
def reportsCounters (environment : Environment) : Bool :=
  match environment.get? "METRICS_ENABLED" with
  | some value => value = "true" || value = "1"
  | none => true

end Environment

end DrivewayWatch
