import Endpoint.Telemetry.Measurement
import Endpoint.Number.Digits

/-!
# The text of metrics

Metrics are served as text, one sample to a line: the name of the series, its labels and its
value.  Times are counted in buckets, each of which counts all times up to its bound, beside
their number and their sum.  Lines that start with `#` describe the metrics.
-/

namespace Endpoint

/-- A metric: its name, its kind and what is said of it. -/
structure Metric where
  name : String
  kind : String
  help : String
  deriving DecidableEq, Repr

namespace Metric

def requests : Metric :=
  ⟨"hypatia_requests_total", "counter", "Total number of web service requests processed"⟩

def durations : Metric :=
  ⟨"hypatia_request_duration_seconds", "histogram", "Web service request duration in seconds"⟩

def inFlight : Metric :=
  ⟨"hypatia_in_flight_requests", "gauge", "Number of web service requests being processed"⟩

def validationFailures : Metric :=
  ⟨"hypatia_validation_failures_total", "counter", "Requests rejected during the validate phase"⟩

def all : List Metric := [requests, durations, inFlight, validationFailures]

end Metric

namespace Exposition

/-- The characters of a label's value.  A backslash that precedes a quote or another backslash
    counts as one that escapes it; `pending` says that one has just been read. -/
def escapeFrom (pending : Bool) : List Char → List Char
  | [] => if pending then ['\\', '\\'] else []
  | c :: rest =>
    if c = '\n' then '\\' :: 'n' :: escapeFrom pending rest
    else if c = '"' then '\\' :: '"' :: escapeFrom false rest
    else if c = '\\' then (if pending then ['\\', '\\'] else []) ++ escapeFrom (!pending) rest
    else (if pending then ['\\', '\\'] else []) ++ c :: escapeFrom false rest

/-- The value of a label. -/
def escape (s : String) : String := String.ofList (escapeFrom false s.toList)

/-- One sample. -/
def sampleLine (name : String) (labels : List (String × String)) (value : String) : String :=
  let shown := labels.map fun (k, v) => k ++ "=\"" ++ v ++ "\""
  name ++ (if shown.isEmpty then "" else "\x7b" ++ ",".intercalate shown ++ "\x7d") ++ " " ++ value

/-- The text of a number. -/
def numberText (x : Binary64) : String := FloatLayout.sample.write x

/-- A duration in seconds. -/
def seconds (nanoseconds : Nat) : Binary64 :=
  (Binary64.ofNat (nanoseconds / 1000000000)).add
    ((Binary64.ofNat (nanoseconds % 1000000000)).div (Binary64.ofNat 1000000000))

/-- The times of the responses that a handler gave, in order. -/
def timesOf (handler : String) (ms : List Measurement) : List Binary64 :=
  ms.filterMap fun
    | .answered h _ _ nanoseconds => if h = handler then some (seconds nanoseconds) else none
    | _ => none

/-- Whether a time counts in the bucket up to a bound. -/
def within (time bound : Binary64) : Bool := time.less bound || time.equal bound

/-- The samples of the times of a handler. -/
def durationLines (buckets : List Binary64) (labels : List (String × String))
    (times : List Binary64) : List String :=
  let name := Metric.durations.name
  (buckets.map fun bound =>
    sampleLine (name ++ "_bucket") (labels ++ [("le", numberText bound)])
      (toString (times.countP fun t => within t bound)))
  ++ [sampleLine (name ++ "_bucket") (labels ++ [("le", "+Inf")]) (toString times.length),
    sampleLine (name ++ "_sum") labels (numberText (times.foldl Binary64.add .zero)),
    sampleLine (name ++ "_count") labels (toString times.length)]

/-- The lines of one series. -/
def seriesLines (buckets : List Binary64) (ms : List Measurement) (s : Series) : List String :=
  let labels := s.labels.map fun (k, v) => (k, escape v)
  if s.name = Metric.durations.name then
    durationLines buckets labels (timesOf ((s.labels.map Prod.snd).headD "") ms)
  else [sampleLine s.name labels (toString (Measurement.total ms s))]

/-- The lines that describe a metric. -/
def descriptionLines (m : Metric) : List String :=
  ["# HELP " ++ m.name ++ " " ++ m.help, "# TYPE " ++ m.name ++ " " ++ m.kind]

/-- All lines for some measurements, of metrics of which there are any. -/
def lines (buckets : List Binary64) (ms : List Measurement) : List String :=
  let touched := Measurement.touched ms
  Metric.all.flatMap fun m =>
    match touched.filter fun s => s.name == m.name with
    | [] => []
    | series => descriptionLines m ++ series.flatMap (seriesLines buckets ms)

end Exposition

end Endpoint
