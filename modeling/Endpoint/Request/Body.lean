import Endpoint.Field.JsonForm

/-!
# Request bodies

A body of nothing but white space leaves the target as it is; any other body must be one
JSON text, whose record replaces the target.
-/

namespace Endpoint

/-- Reads a body into a target; an error is a text that says what is wrong. -/
abbrev BodyReader (β : Type) := List UInt8 → β → Except String β

/-- The white space that a blank body may hold. -/
def isBlankBodyByte (b : UInt8) : Bool :=
  b == 0x20 || b == 0x09 || b == 0x0A || b == 0x0C || b == 0x0D

/-- Reads a body that is a value in JSON. -/
def jsonBody {β : Type} (decoder : Decoder β) : BodyReader β := fun raw target =>
  if raw.all isBlankBodyByte then .ok target
  else
    match (Document.read? raw).bind decoder with
    | some body => .ok body
    | none => .error "not a JSON text of the expected form"

end Endpoint
