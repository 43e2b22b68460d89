/-!
# Telemetry errors

What can go wrong when logging and metrics are set up.
-/

namespace Endpoint

/-- Why logging or metrics cannot be set up. -/
inductive TelemetryError where
  | metrics (reason : String)
  | logging (reason : String)
  /-- a text that names no level, with the component it was given for -/
  | invalidLevel (component level : String)
  | invalidAddress (address : String)
  deriving DecidableEq, Repr

namespace TelemetryError

/-- The name of the kind of an error. -/
def kind : TelemetryError → String
  | metrics _ => "MetricsInit"
  | logging _ => "LoggingInit"
  | invalidLevel _ _ => "InvalidLevel"
  | invalidAddress _ => "InvalidAddress"

def message : TelemetryError → String
  | metrics reason => "Failed to initialize metrics: " ++ reason
  | logging reason => "Failed to initialize logging: " ++ reason
  | invalidLevel component level => "Invalid log level for '" ++ component ++ "': " ++ level
  | invalidAddress address => "Invalid address: " ++ address ++ ": invalid socket address syntax"

end TelemetryError

end Endpoint
