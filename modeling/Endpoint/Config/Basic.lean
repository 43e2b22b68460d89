import Endpoint.Fault.MessageBook
import Endpoint.Response.Form
import Endpoint.Telemetry.MetricsSettings

/-!
# Configurations

The configuration of a facility: how responses are written, the wording of faults, the
predefined errors, what holds for every handler, and telemetry.
-/

namespace Endpoint

/-- How the body of a response and its errors are combined. -/
inductive WrapMode where
  /-- as two fields of an object -/
  | wrap
  /-- the errors if there are any, else the body -/
  | body
  deriving DecidableEq, Repr

namespace WrapMode

def all : List WrapMode := [wrap, body]

def name : WrapMode → String
  | wrap => "wrap"
  | body => "body"

/-- The name of a mode with a capital letter. -/
def title : WrapMode → String
  | wrap => "Wrap"
  | body => "Body"

def ofName? (s : String) : Option WrapMode := all.find? fun m => m.name == s

end WrapMode

/-- The names of the two fields. -/
structure WrapperSection where
  bodyField : String
  errorsField : String
  deriving DecidableEq, Repr

def WrapperSection.standard : WrapperSection := ⟨"response", "errors"⟩

/-- How JSON is laid out. -/
structure MarshalSection where
  prettyPrint : Bool
  indent : String
  deriving DecidableEq, Repr

def MarshalSection.standard : MarshalSection := ⟨false, "  "⟩

/-- How responses are written. -/
structure WriterSection where
  defaultHeaders : Entries String
  wrapMode : WrapMode
  wrapper : WrapperSection
  marshal : MarshalSection
  deriving DecidableEq, Repr

def WriterSection.standard : WriterSection := ⟨[], .wrap, .standard, .standard⟩

/-- The wording of faults and of HTTP statuses.  Events without a wording keep the built-in
    one; statuses are given by their numbers. -/
structure FaultSection where
  messages : List (FaultEvent × Wording)
  httpMessages : Entries String
  deriving DecidableEq, Repr

def FaultSection.standard : FaultSection := ⟨[], []⟩

/-- What holds for every handler. -/
structure HandlerSection where
  autoBindQuery : Bool
  requireAuthentication : Bool
  deriving DecidableEq, Repr

def HandlerSection.standard : HandlerSection := ⟨false, false⟩

/-- A complete configuration. -/
structure Configuration where
  writer : WriterSection
  faults : FaultSection
  serviceErrors : List ErrorDefinition
  handler : HandlerSection
  logging : LogSettings
  metrics : MetricsSettings
  deriving DecidableEq, Repr

namespace Configuration

/-- The configuration in which nothing is set. -/
def standard : Configuration := ⟨.standard, .standard, [], .standard, .production, .standard⟩

/-- For development: logs for people and responses over several lines. -/
def development : Configuration :=
  { standard with
    logging := .development
    writer := { WriterSection.standard with
      marshal := { MarshalSection.standard with prettyPrint := true } } }

/-- For production: logs in JSON and responses on one line. -/
def production : Configuration :=
  { standard with
    logging := .production
    writer := { WriterSection.standard with
      marshal := { MarshalSection.standard with prettyPrint := false } } }

/-- Adds a default header. -/
def addHeader (c : Configuration) (name value : String) : Configuration :=
  { c with writer := { c.writer with
    defaultHeaders := Entries.insert name value c.writer.defaultHeaders } }

/-- Adds a predefined error. -/
def addServiceError (c : Configuration) (d : ErrorDefinition) : Configuration :=
  { c with serviceErrors := c.serviceErrors ++ [d] }

/-- The parts about logging and metrics. -/
def telemetry (c : Configuration) : TelemetrySettings := ⟨c.logging, c.metrics⟩

end Configuration

end Endpoint
