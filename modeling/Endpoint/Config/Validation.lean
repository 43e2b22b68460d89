import Endpoint.Config.Basic
import Endpoint.Config.Error
import Endpoint.Http.Header

/-!
# Checking configurations

A configuration that passes can be put to use.  The checks are made in a fixed order, and the
first that fails decides.
-/

namespace Endpoint

/-- Checks default headers in order. -/
def checkHeaders : Entries String → Except ConfigError Unit
  | [] => .ok ()
  | (name, value) :: rest =>
    let field := "response_writer.default_headers." ++ name
    if !Header.isName name then .error (.invalidValue field "invalid header name")
    else if !Header.isValue value then .error (.invalidValue field "invalid header value")
    else checkHeaders rest

namespace WrapperSection

/-- The names must be there and differ. -/
def check (s : WrapperSection) : Except ConfigError Unit :=
  if s.bodyField.isEmpty then
    .error (.invalidValue "response_writer.wrapper.body_field" "must not be empty")
  else if s.errorsField.isEmpty then
    .error (.invalidValue "response_writer.wrapper.errors_field" "must not be empty")
  else if s.bodyField = s.errorsField then
    .error (.invalid "response_writer.wrapper.body_field and errors_field must differ")
  else .ok ()

end WrapperSection

/-- The indent must be white space. -/
def MarshalSection.check (s : MarshalSection) : Except ConfigError Unit :=
  if isBlankText s.indent then .ok ()
  else .error (.invalidValue "response_writer.marshal.indent" "must contain only whitespace")

/-- The statuses that keys stand for, with their messages in the order of the keys. -/
def readStatuses : Entries String → Except ConfigError (List (Status × String))
  | [] => .ok []
  | (key, message) :: rest =>
    match Status.ofText? (trimText key) with
    | none =>
      .error (.invalidValue ("framework_errors.http_messages." ++ key) "not an HTTP status code")
    | some status => (readStatuses rest).map ((status, message) :: ·)

/-- The statuses that have messages of their own. -/
def FaultSection.statuses (s : FaultSection) : Except ConfigError (List (Status × String)) :=
  readStatuses s.httpMessages

/-- Codes must be there and must not be among those seen before. -/
def checkCodes (seen : List String) : List ErrorDefinition → Except ConfigError Unit
  | [] => .ok ()
  | d :: rest =>
    if isBlankText d.code then .error (.invalidValue "service_errors.code" "must not be empty")
    else if d.code ∈ seen then .error (.invalid (Catalogue.repeatedMessage d.code))
    else checkCodes (d.code :: seen) rest

/-- All levels must be levels. -/
def checkLogging (s : LogSettings) : Except ConfigError Unit :=
  match s.validate with
  | .ok _ => .ok ()
  | .error e => .error (.invalidValue "logging" e.message)

/-- The address must be one if metrics are served. -/
def checkMetrics (s : MetricsSettings) : Except ConfigError Unit :=
  if s.enabled then
    match s.socketAddress with
    | .ok _ => .ok ()
    | .error e => .error (.invalidValue "metrics.addr" e.message)
  else .ok ()

/-- Checks a configuration. -/
def Configuration.validate (c : Configuration) : Except ConfigError Unit := do
  checkHeaders c.writer.defaultHeaders
  c.writer.wrapper.check
  c.writer.marshal.check
  let _ ← c.faults.statuses
  checkCodes [] c.serviceErrors
  checkLogging c.logging
  checkMetrics c.metrics

end Endpoint
