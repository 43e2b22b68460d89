import Endpoint.Error.Basic

/-!
# Faults

A fault is a failure found before any service logic runs: the request body cannot be read,
or a query or path parameter cannot be bound to a field of it.  A fault names the parameter
as the client knows it, the field it was meant for, and what was supplied.
-/

namespace Endpoint

/-- What was being done when a fault was found. -/
inductive FaultPhase where
  | unmarshal
  | queryBind
  | pathBind
  deriving DecidableEq, Repr

namespace FaultPhase

def all : List FaultPhase := [unmarshal, queryBind, pathBind]

def name : FaultPhase → String
  | unmarshal => "unmarshal"
  | queryBind => "query_bind"
  | pathBind => "path_bind"

def ofName? (s : String) : Option FaultPhase := all.find? fun p => p.name == s

end FaultPhase

/-- A failure to read or bind a request. -/
structure Fault where
  phase : FaultPhase
  clientField : Option String
  targetField : Option String
  message : String
  value : Option String
  position : Option Nat
  code : String
  deriving DecidableEq, Repr

namespace Fault

/-- A body that cannot be read. -/
def unmarshal (message code : String) : Fault :=
  ⟨.unmarshal, none, none, message, none, none, code⟩

/-- A query parameter that cannot be bound. -/
def queryBind (message code param target : String) : Fault :=
  ⟨.queryBind, some param, some target, message, none, none, code⟩

/-- A path segment that cannot be bound. -/
def pathBind (message code target : String) : Fault :=
  ⟨.pathBind, none, some target, message, none, none, code⟩

/-- The fault on one line. -/
def describe (f : Fault) : String :=
  f.phase.name ++ " failed [" ++ f.code ++ "]: " ++ f.message

/-- The error reported to the caller: about the client's parameter, else the target field. -/
def toError (f : Fault) : ServiceError :=
  ⟨.client, f.code, f.message, f.clientField <|> f.targetField⟩

end Fault

end Endpoint
