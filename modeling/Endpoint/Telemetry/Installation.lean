import Endpoint.Telemetry.Exposition
import Endpoint.Telemetry.LogLine
import Endpoint.Telemetry.MetricsSettings

/-!
# Setting up telemetry

Logging and metrics are each set up at most once in a process.  What is turned off is not
set up, and does not count.
-/

namespace Endpoint

/-- What has been set up in a process. -/
structure Telemetry where
  logging : Option LogOutput
  /-- the bounds of the buckets for times -/
  metrics : Option (List Binary64)

namespace Telemetry

/-- Nothing has been set up yet. -/
def empty : Telemetry := ⟨none, none⟩

/-- Sets up logging. -/
def startLogging (t : Telemetry) (s : LogSettings) : Except TelemetryError Telemetry :=
  if !s.enabled then .ok t
  else do
    let text ← s.directives
    match LogFilter.ofText? text, t.logging with
    | none, _ => throw (.logging "invalid filter directive")
    | some _, some _ => throw (.logging "a global default trace dispatcher has already been set")
    | some filter, none => pure { t with logging := some ⟨s, filter⟩ }

/-- Sets up metrics. -/
def startMetrics (t : Telemetry) (s : MetricsSettings) : Except TelemetryError Telemetry :=
  if !s.enabled then .ok t
  else do
    let _ ← s.socketAddress
    if s.durationBuckets.isEmpty then throw (.metrics "bucket bounds cannot be empty")
    else if t.metrics.isSome then throw (.metrics "a recorder is already installed")
    else pure { t with metrics := some s.durationBuckets }

/-- Sets up logging and then metrics. -/
def start (t : Telemetry) (s : TelemetrySettings) : Except TelemetryError Telemetry := do
  (← t.startLogging s.logging).startMetrics s.metrics

/-- The text of the metrics line by line, if metrics have been set up. -/
def render (t : Telemetry) (ms : List Measurement) : Option (List String) :=
  t.metrics.map fun buckets => Exposition.lines buckets ms

/-- What is printed of a log, nothing unless logging has been set up. -/
def print (t : Telemetry) (log : List LogEntry) : List Json :=
  (t.logging.map fun o => o.lines log).getD []

end Telemetry

end Endpoint
