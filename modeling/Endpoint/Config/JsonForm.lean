import Endpoint.Config.Basic
import Endpoint.Json.Overlay

/-!
# Configurations in JSON

Every section may be left out, and every field of it; what is not known is refused.
-/

namespace Endpoint

/-- Reads one of several named alternatives: its name, or an object that has the name as its
    only key and null as the value. -/
def Decoder.alternative {α : Type} (find : String → Option α) : Decoder α
  | .str name => find name
  | .obj [(some name, .null)] => find name
  | _ => none

namespace WrapperSection

def decode : Decoder WrapperSection := fun d => do
  match ← Decoder.fields true ["body_field", "errors_field"] d with
  | [body, errors] =>
    some {
      bodyField := ← Decoder.withDefault standard.bodyField Decoder.string body
      errorsField := ← Decoder.withDefault standard.errorsField Decoder.string errors }
  | _ => none

def toJson (s : WrapperSection) : Json :=
  .object [("body_field", .str s.bodyField), ("errors_field", .str s.errorsField)]

end WrapperSection

namespace MarshalSection

def decode : Decoder MarshalSection := fun d => do
  match ← Decoder.fields true ["pretty_print", "indent"] d with
  | [pretty, indent] =>
    some {
      prettyPrint := ← Decoder.withDefault standard.prettyPrint Decoder.bool pretty
      indent := ← Decoder.withDefault standard.indent Decoder.string indent }
  | _ => none

def toJson (s : MarshalSection) : Json :=
  .object [("pretty_print", .bool s.prettyPrint), ("indent", .str s.indent)]

end MarshalSection

namespace WriterSection

def decode : Decoder WriterSection := fun d => do
  match ← Decoder.fields true ["default_headers", "wrap_mode", "wrapper", "marshal"] d with
  | [headers, mode, wrapper, marshal] =>
    some {
      defaultHeaders := ← Decoder.withDefault standard.defaultHeaders
        (Decoder.entries Decoder.string) headers
      wrapMode := ←
        Decoder.withDefault standard.wrapMode (Decoder.alternative WrapMode.ofName?) mode
      wrapper := ← Decoder.withDefault standard.wrapper WrapperSection.decode wrapper
      marshal := ← Decoder.withDefault standard.marshal MarshalSection.decode marshal }
  | _ => none

def toJson (s : WriterSection) : Json :=
  .object [("default_headers", .obj (Entries.mapValues .str s.defaultHeaders)),
    ("wrap_mode", .str s.wrapMode.name), ("wrapper", s.wrapper.toJson),
    ("marshal", s.marshal.toJson)]

end WriterSection

namespace FaultSection

/-- The wordings by event, from those by name; none if a name is not that of an event. -/
def wordingsOf? (named : Entries Wording) : Option (List (FaultEvent × Wording)) :=
  if named.all fun (name, _) => (FaultEvent.ofName? name).isSome then
    some (FaultEvent.all.filterMap fun e => (Entries.get? e.name named).map fun w => (e, w))
  else none

def decode : Decoder FaultSection := fun d => do
  match ← Decoder.fields true ["messages", "http_messages"] d with
  | [messages, statuses] =>
    let named ← Decoder.withDefault [] (Decoder.entries Wording.decode) messages
    some {
      messages := ← wordingsOf? named
      httpMessages := ← Decoder.withDefault standard.httpMessages
        (Decoder.entries Decoder.string) statuses }
  | _ => none

def toJson (s : FaultSection) : Json :=
  .object [("messages", .object (s.messages.map fun (e, w) => (e.name, w.toJson))),
    ("http_messages", .obj (Entries.mapValues .str s.httpMessages))]

end FaultSection

namespace HandlerSection

def decode : Decoder HandlerSection := fun d => do
  match ← Decoder.fields true ["auto_bind_query", "require_authentication"] d with
  | [bind, require] =>
    some {
      autoBindQuery := ← Decoder.withDefault standard.autoBindQuery Decoder.bool bind
      requireAuthentication := ← Decoder.withDefault standard.requireAuthentication
        Decoder.bool require }
  | _ => none

def toJson (s : HandlerSection) : Json :=
  .object [("auto_bind_query", .bool s.autoBindQuery),
    ("require_authentication", .bool s.requireAuthentication)]

/-- What is shown of the section. -/
def diagnostic (s : HandlerSection) : Diagnostic :=
  .record "HandlerConfig" [("auto_bind_query", .flag s.autoBindQuery),
    ("require_authentication", .flag s.requireAuthentication)] false

end HandlerSection

namespace Configuration

/-- The names of the sections in order. -/
def sectionNames : List String :=
  ["response_writer", "framework_errors", "service_errors", "handler", "logging", "metrics"]

/-- Reads a configuration from a document. -/
def decode : Decoder Configuration := fun d => do
  match ← Decoder.fields true sectionNames d with
  | [writer, faults, errors, handler, logging, metrics] =>
    some {
      writer := ← Decoder.withDefault standard.writer WriterSection.decode writer
      faults := ← Decoder.withDefault standard.faults FaultSection.decode faults
      serviceErrors := ← Decoder.withDefault standard.serviceErrors
        (Decoder.list ErrorDefinition.decode) errors
      handler := ← Decoder.withDefault standard.handler HandlerSection.decode handler
      logging := ← Decoder.withDefault standard.logging LogSettings.decode logging
      metrics := ← Decoder.withDefault standard.metrics MetricsSettings.decode metrics }
  | _ => none

/-- The JSON form of a configuration. -/
def toJson (c : Configuration) : Json :=
  .object [("response_writer", c.writer.toJson), ("framework_errors", c.faults.toJson),
    ("service_errors", .arr (c.serviceErrors.map ErrorDefinition.toJson)),
    ("handler", c.handler.toJson), ("logging", c.logging.toJson), ("metrics", c.metrics.toJson)]

/-- Replaces one section by what a document holds; none for documents and names that do not
    fit. -/
def setSection? (c : Configuration) (name : String) (d : Document) : Option Configuration :=
  match name with
  | "response_writer" => (WriterSection.decode d).map fun s => { c with writer := s }
  | "framework_errors" => (FaultSection.decode d).map fun s => { c with faults := s }
  | "service_errors" =>
    (Decoder.list ErrorDefinition.decode d).map fun s => { c with serviceErrors := s }
  | "handler" => (HandlerSection.decode d).map fun s => { c with handler := s }
  | "logging" => (LogSettings.decode d).map fun s => { c with logging := s }
  | "metrics" => (MetricsSettings.decode d).map fun s => { c with metrics := s }
  | _ => none

/-- The configuration with a layer laid over it; none if the result is no configuration. -/
def overlay? (c : Configuration) (layer : Json) : Option Configuration :=
  decode (Document.ofJson (c.toJson.overlay layer))

end Configuration

end Endpoint
