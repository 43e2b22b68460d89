import Endpoint.Telemetry.LogSettings
import Endpoint.Telemetry.SocketAddress

/-!
# Metrics settings

Whether metrics are recorded, the address at which they are served, and the bounds of the
buckets that the times of requests are counted in.
-/

namespace Endpoint

/-- How metrics are recorded. -/
structure MetricsSettings where
  enabled : Bool
  address : String
  /-- upper bounds in seconds -/
  durationBuckets : List Binary64
  deriving DecidableEq, Repr

namespace MetricsSettings

/-- The usual bounds, from a millisecond to ten seconds. -/
def standardBuckets : List Binary64 :=
  [(1, -3), (5, -3), (1, -2), (25, -3), (5, -2), (1, -1), (25, -2), (5, -1), (1, 0), (25, -1),
    (5, 0), (10, 0)].map fun (m, e) => Binary64.ofDecimal .double false m e

/-- Nothing is recorded. -/
def standard : MetricsSettings := ⟨false, "0.0.0.0:9090", standardBuckets⟩

/-- The address at which metrics are served. -/
def socketAddress (s : MetricsSettings) : Except TelemetryError SocketAddress :=
  match SocketAddress.ofText? s.address with
  | some a => .ok a
  | none => .error (.invalidAddress s.address)

/-- Reads settings from a document. -/
def decode : Decoder MetricsSettings := fun d => do
  match ← Decoder.fields true ["enabled", "addr", "duration_buckets"] d with
  | [enabled, address, buckets] =>
    some {
      enabled := ← Decoder.withDefault standard.enabled Decoder.bool enabled
      address := ← Decoder.withDefault standard.address Decoder.string address
      durationBuckets := ← Decoder.withDefault standard.durationBuckets
        (Decoder.list Decoder.float) buckets }
  | _ => none

def toJson (s : MetricsSettings) : Json :=
  .object [("enabled", .bool s.enabled), ("addr", .str s.address),
    ("duration_buckets", .arr (s.durationBuckets.map .float))]

end MetricsSettings

/-- How logging and metrics are set up. -/
structure TelemetrySettings where
  logging : LogSettings
  metrics : MetricsSettings
  deriving DecidableEq, Repr

namespace TelemetrySettings

def standard : TelemetrySettings := ⟨.production, .standard⟩

/-- Turns metrics on and serves them at an address. -/
def serveMetricsAt (s : TelemetrySettings) (address : String) : TelemetrySettings :=
  { s with metrics := { s.metrics with enabled := true, address := address } }

/-- Reads settings from a document. -/
def decode : Decoder TelemetrySettings := fun d => do
  match ← Decoder.fields true ["logging", "metrics"] d with
  | [logging, metrics] =>
    some {
      logging := ← Decoder.withDefault standard.logging LogSettings.decode logging
      metrics := ← Decoder.withDefault standard.metrics MetricsSettings.decode metrics }
  | _ => none

def toJson (s : TelemetrySettings) : Json :=
  .object [("logging", s.logging.toJson), ("metrics", s.metrics.toJson)]

end TelemetrySettings

end Endpoint
