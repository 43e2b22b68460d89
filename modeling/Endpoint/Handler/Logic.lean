import Endpoint.Panic
import Endpoint.Request.Basic
import Endpoint.Request.Id
import Endpoint.Response.Basic

/-!
# The logic of a service

A service brings its own logic: what it does with a request, and up to four further hooks,
for a target into which bodies are read, for work before validation, for validation, and for
work after processing.  Every hook may log, and may panic instead of returning.
-/

namespace Endpoint

/-- The logic of a service for bodies of some type.  Hooks that may change the request give
    it back also when they panic. -/
structure Logic (β : Type) where
  process : RequestContext → Request β → Response → Logged (Request β × Except Panic Response)
  unmarshalTarget : Option (RequestContext → Logged (Except Panic β))
  /-- tells whether processing goes on, with the errors recorded -/
  preValidate : Option
    (RequestContext → Request β → ErrorRecord →
      Logged (Request β × Except Panic (Bool × ErrorRecord)))
  validate : Option (RequestContext → Request β → ErrorRecord → Logged (Except Panic ErrorRecord))
  /-- takes the name of the handler after the context -/
  postProcess : Option
    (RequestContext → String → Request β → Response → Logged (Except Panic Response))

/-- Which of the further hooks a logic has. -/
structure Capabilities where
  unmarshalTarget : Bool
  preValidate : Bool
  validate : Bool
  postProcess : Bool
  deriving DecidableEq, Repr

namespace Capabilities

def fields (c : Capabilities) : List (String × Bool) :=
  [("unmarshal_target", c.unmarshalTarget), ("pre_validate", c.preValidate),
    ("validate", c.validate), ("post_process", c.postProcess)]

/-- What is shown of the capabilities. -/
def diagnostic (c : Capabilities) : Diagnostic :=
  .record "PhaseCapabilities" (c.fields.map fun (name, b) => (name, .flag b)) false

end Capabilities

/-- The hooks that a logic has. -/
def Logic.capabilities {β : Type} (l : Logic β) : Capabilities :=
  ⟨l.unmarshalTarget.isSome, l.preValidate.isSome, l.validate.isSome, l.postProcess.isSome⟩

end Endpoint
