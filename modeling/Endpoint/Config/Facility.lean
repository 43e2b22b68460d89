import Endpoint.Config.JsonForm
import Endpoint.Config.Validation
import Endpoint.Config.Variable
import Endpoint.Handler.Builder

/-!
# Facilities

A facility is what the handlers of a program share, made from a configuration: predefined
errors, the wording of faults, and the response writer.
-/

namespace Endpoint

/-- What handlers share. -/
structure Facility where
  catalogue : Catalogue
  book : MessageBook
  writer : RenderingWriter
  defaults : HandlerSection

/-- The wrapping that a section asks for. -/
def WriterSection.wrapping (s : WriterSection) : Wrapping :=
  match s.wrapMode with
  | .wrap => .fields s.wrapper.bodyField s.wrapper.errorsField
  | .body => .bodyOrErrors

/-- The layout that a section asks for. -/
def MarshalSection.layout (s : MarshalSection) : Json.Layout :=
  if s.prettyPrint then .indented s.indent else .compact

/-- The book of a section's wordings over the built-in ones. -/
def FaultSection.book (s : FaultSection) (statuses : List (Status × String)) : MessageBook :=
  let worded := s.messages.foldl (fun (b : MessageBook) (e, w) => b.withWording e w) .builtin
  statuses.foldl
    (fun (b : MessageBook) (status, message) => b.withHttpMessage status message) worded

/-- The response writer of a section. -/
def WriterSection.writer (s : WriterSection) (book : MessageBook) : RenderingWriter :=
  { RenderingWriter.json book s.wrapping s.marshal.layout with defaultHeaders := s.defaultHeaders }

namespace Facility

/-- Puts together a facility from a configuration that has passed its checks. -/
def assemble (c : Configuration) : Except ConfigError Facility :=
  match Catalogue.ofDefinitions c.serviceErrors with
  | .error code => .error (.repeatedCode code)
  | .ok catalogue =>
    c.faults.statuses.map fun statuses =>
      let book := c.faults.book statuses
      ⟨catalogue, book, c.writer.writer book, c.handler⟩

/-- Makes a facility from a configuration. -/
def ofConfiguration (c : Configuration) : Logged (Except ConfigError Facility) :=
  match c.validate.bind fun _ => assemble c with
  | .error e => pure (.error e)
  | .ok f => do
    Logged.event .info Variable.logTarget "Web service facility configured"
      [("service_errors", .number f.catalogue.size),
        ("framework_messages", .number c.faults.messages.length),
        ("wrap_mode", .text c.writer.wrapMode.title)]
    pure (.ok f)

/-- The settings of a handler that uses what is shared. -/
def handler {β : Type} (f : Facility) (name : String) (logic : Logic β) : HandlerSettings β :=
  { HandlerSettings.new name logic with
    writer := some f.writer.write
    book := some f.book
    catalogue := some f.catalogue
    requireAuthentication := f.defaults.requireAuthentication }

/-- The settings of a handler whose query parameters are bound by name if the facility says
    so. -/
def bindingHandler {β : Type} (f : Facility) (binding : BodyBinding β) (name : String)
    (logic : Logic β) : HandlerSettings β :=
  (f.handler name logic).bindQueryByName binding f.defaults.autoBindQuery

/-- What is shown of a facility. -/
def diagnostic (f : Facility) : Diagnostic :=
  .record "WsFacility" [("service_errors", .number f.catalogue.size),
    ("handler_defaults", f.defaults.diagnostic)] true

end Facility

end Endpoint
