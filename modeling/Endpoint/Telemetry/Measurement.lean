import Endpoint.Response.Basic

/-!
# Measurements

What is measured of the requests of a service: how many were answered, with which outcome
and status and after which time, how many are being processed, and how many failed
validation.  A measurement adds samples to series, each known by a name and labels.
-/

namespace Endpoint

/-- One thing measured. -/
inductive Measurement where
  /-- the processing of a request has begun -/
  | entered
  /-- the processing of a request has ended -/
  | left
  /-- a response was written with an outcome and a status, after some nanoseconds -/
  | answered (handler : String) (outcome : Outcome) (status nanoseconds : Nat)
  /-- a request of a handler failed validation -/
  | validationFailed (handler : String)
  deriving DecidableEq, Repr

/-- A series of samples: its name and its labels in order. -/
structure Series where
  name : String
  labels : List (String × String)
  deriving DecidableEq, Repr

namespace Series

/-- The name of a series with its labels in braces. -/
def text (s : Series) : String :=
  s.name ++ "\x7b" ++ ",".intercalate (s.labels.map fun (k, v) => k ++ "=" ++ v) ++ "\x7d"

/-- Responses written. -/
def requests (handler : String) (outcome : Outcome) (status : Nat) : Series :=
  ⟨"hypatia_requests_total",
    [("handler", handler), ("outcome", outcome.name), ("status", toString status)]⟩

/-- The times after which responses were written. -/
def durations (handler : String) : Series :=
  ⟨"hypatia_request_duration_seconds", [("handler", handler)]⟩

/-- Requests being processed. -/
def inFlight : Series := ⟨"hypatia_in_flight_requests", []⟩

/-- Requests that failed validation. -/
def validationFailures (handler : String) : Series :=
  ⟨"hypatia_validation_failures_total", [("handler", handler)]⟩

end Series

namespace Measurement

/-- The series that a measurement adds to, with the amount it adds to each; for a series of
    times that is the number of times. -/
def samples : Measurement → List (Series × Int)
  | entered => [(.inFlight, 1)]
  | left => [(.inFlight, -1)]
  | answered handler outcome status _ =>
    [(.requests handler outcome status, 1), (.durations handler, 1)]
  | validationFailed handler => [(.validationFailures handler, 1)]

/-- The amount that measurements add to a series. -/
def total (ms : List Measurement) (s : Series) : Int :=
  (ms.flatMap samples).foldr (fun (s', n) sum => if s' = s then n + sum else sum) 0

/-- The series that measurements add to. -/
def touched (ms : List Measurement) : List Series :=
  ((ms.flatMap samples).map Prod.fst).eraseDups

end Measurement

end Endpoint
