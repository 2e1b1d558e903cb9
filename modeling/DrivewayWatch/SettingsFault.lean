import DrivewayWatch.Number.Decimal
import DrivewayWatch.Time.Timeout

/-!
# Faults of settings

What can be wrong with the settings of notifications and descriptions, and how it is worded.
-/

namespace DrivewayWatch

/-- What is wrong with the settings of notifications or descriptions. -/
inductive SettingsFault where
  | unknownPriority (name : String)
  | unknownPictureLink (name : String)
  | emptyTopic
  | serverAddress
  | negativeDebounce
  | requestTimeout
  | externalAddress
  | descriptionEndpoint
  | descriptionTimeout
  | promptFile (path : String)
  deriving Repr, DecidableEq

namespace SettingsFault

/-- What is said of a setting that has to be a web address. -/
def addressText (setting : String) : String :=
  setting ++ " must start with http:// or https://"

/-- What is said of a setting that has to be a timeout. -/
def timeoutText (setting : String) : String :=
  setting ++ " must be positive and at most " ++ Decimal.text Timeout.limitSeconds

def reason : SettingsFault → String
  | unknownPriority name => "invalid ntfy priority '" ++ name ++ "'"
  | unknownPictureLink name =>
    "invalid image_method '" ++ name ++ "' (expected attach or click)"
  | emptyTopic => "notifier.topic must not be empty"
  | serverAddress => addressText "notifier.server"
  | negativeDebounce => "notifier.debounce_threshold_s must not be negative"
  | requestTimeout => timeoutText "notifier.req_timeout_s"
  | externalAddress => addressText "web.external_base_url"
  | descriptionEndpoint => addressText "enrichment.endpoint"
  | descriptionTimeout => timeoutText "enrichment.timeout_s"
  | promptFile path => "enrichment.prompt_files: error reading file '" ++ path ++ "'"

def message (fault : SettingsFault) : String :=
  "Configuration error: " ++ fault.reason

end SettingsFault

end DrivewayWatch
