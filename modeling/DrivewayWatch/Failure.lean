import DrivewayWatch.Control.Settings
import DrivewayWatch.Intake.Settings
import DrivewayWatch.Number.Decimal
import DrivewayWatch.SettingsFault
import DrivewayWatch.Net.Url
import DrivewayWatch.Tracking.Settings

/-!
# Failures

What keeps the program from starting, or ends it early, and how it is worded.
-/

namespace DrivewayWatch

/-- Why the program stops. -/
inductive Failure where
  | settingsFile (path : String)
  | settingsText
  | tracking (error : TrackingError)
  | tick
  | address (setting : String) (fault : Net.Url.Fault)
  | listening (host : String)
  | messaging (fault : SettingsFault)
  | inputFile (path : String)
  | input
  deriving Repr, DecidableEq

namespace Failure

/-- What is said of a failure of the configuration as a whole. -/
def configurationText (reason : String) : String :=
  "Configuration error: " ++ reason

/-- The range of the time between two reports, in words. -/
def tickRange : String :=
  Decimal.text Intake.Settings.leastTickSeconds ++ " and " ++
    Decimal.text Intake.Settings.greatestTickSeconds

def message : Failure → String
  | settingsFile path => configurationText ("error reading config file '" ++ path ++ "'")
  | settingsText => configurationText "invalid config file"
  | tracking error => "Tracker error: " ++ error.message
  | tick => configurationText ("model.liveness_tick_s must be between " ++ tickRange)
  | address setting .malformed => configurationText (setting ++ " is not a valid URL")
  | address setting .otherScheme => configurationText (SettingsFault.addressText setting)
  | listening host => "API error: " ++ Control.invalidHostMessage host
  | messaging fault => "Notifier error: " ++ fault.message
  | inputFile path => configurationText ("error opening input '" ++ path ++ "'")
  | input => "IO error"

end Failure

end DrivewayWatch
