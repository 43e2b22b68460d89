import Endpoint.Handler.Logic
import Endpoint.Pattern.Program
import Endpoint.Request.Binding
import Endpoint.Request.Body
import Endpoint.Response.Writer

/-!
# Handlers

A handler is the logic of a service together with all that decides how its requests are
read, who may send them, and how responses are written.
-/

namespace Endpoint

/-- Binds parameters to a body: the body afterwards, with the faults found.  Binding may also
    panic. -/
abbrev ParamBinder (β : Type) := Params → β → Logged (Except Panic (β × List Fault))

/-- How texts captured from the path are bound to the body. -/
structure PathBinding (β : Type) where
  pattern : String
  program : Program
  targets : List String
  /-- none when there are no targets -/
  bind : Option (ParamBinder β)

/-- Reads the raw body of a request into a target; an error is a text that says what is wrong
    with it. -/
abbrev Unmarshaller (β : Type) :=
  RequestContext → List UInt8 → β → Logged (Except Panic (Except String β))

/-- A service for bodies of some type. -/
structure Handler (β : Type) where
  name : String
  logic : Logic β
  writer : ResponseWriter
  reader : Option (Unmarshaller β)
  book : MessageBook
  catalogue : Option Catalogue
  identifier : Option (RequestContext → RequestHead → Logged (Except Panic Identity))
  accessChecker : Option (RequestContext → RequestHead → Identity → Logged (Except Panic Bool))
  requireAuthentication : Bool
  path : Option (PathBinding β)
  /-- binds the parameters of the query, none when there are no targets -/
  query : Option (ParamBinder β)
  /-- the rules for bodies -/
  subjectCheck : Option (β → ErrorRecord → Logged (Except Panic ErrorRecord))

namespace Handler

variable {β : Type}

/-- Where handlers log. -/
def logTarget : String := "hypatia::ws::handler"

/-- What is shown of a handler. -/
def diagnostic (h : Handler β) : Diagnostic :=
  .record "WsHandler" [("name", .text h.name), ("capabilities", h.logic.capabilities.diagnostic),
    ("require_authentication", .flag h.requireAuthentication),
    ("path_pattern", .optionalText (h.path.map PathBinding.pattern)),
    ("query_binding", .flag h.query.isSome), ("rule_validation", .flag h.subjectCheck.isSome)] true

/-- Logs an event of a handler; its name is the first field. -/
def logEvent (h : Handler β) (level : Level) (message : String)
    (fields : List (String × EventValue)) : Logged Unit :=
  Logged.event level logTarget message (("handler", .text h.name) :: fields)

/-- The error for a caller who is not authenticated: the predefined one if it is defined. -/
def unauthenticatedError (h : Handler β) : ServiceError :=
  (h.catalogue.bind (·.find? "UNAUTHENTICATED")).getD
    ⟨.security, "UNAUTHENTICATED", "Authentication is required to use this service", none⟩

end Handler

end Endpoint
