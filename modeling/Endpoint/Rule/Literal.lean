import Endpoint.Field.Kind
import Endpoint.Number.Reading
import Endpoint.Text.Blank

/-!
# Literals

A literal of a rule is written as text and read as a value of the type that the field's
kind holds.  Values of one type are ordered; values of two types, and floats of which one
is not a number, are not.
-/

namespace Endpoint

/-- The order of two texts by code points. -/
def textOrder (s t : String) : Ordering := if s < t then .lt else if s = t then .eq else .gt

namespace Scalar

/-- Reads a literal for fields of a kind.  Numbers may have white space around them, text is
    taken as it stands, and booleans have no literals.  For a field of single precision the
    literal is rounded to single precision. -/
def ofLiteral? (k : Kind) (raw : String) : Option Scalar :=
  match k with
  | .int32 => (readSigned? 32 (trimText raw)).map int
  | .int64 | .nilableInt64 => (readSigned? 64 (trimText raw)).map int
  | .uint64 => (readUnsigned? 64 (trimText raw)).map uint
  | .float32 => (Binary64.ofText? .single (trimText raw)).map float
  | .float64 | .nilableFloat64 => (Binary64.ofText? .double (trimText raw)).map float
  | .string | .nilableString => some (text raw)
  | .bool | .nilableBool => none

/-- The order of a value and a literal, if they have one. -/
def compare? : Scalar → Scalar → Option Ordering
  | int a, int b => some (if a < b then .lt else if a = b then .eq else .gt)
  | uint a, uint b => some (if a < b then .lt else if a = b then .eq else .gt)
  | float a, float b => a.compare? b
  | text a, text b => some (textOrder a b)
  | _, _ => none

/-- Whether a value equals a literal. -/
def sameAs (a b : Scalar) : Bool := a.compare? b == some .eq

/-- Whether a value is a literal or greater. -/
def atLeast (a b : Scalar) : Bool := a.compare? b == some .gt || a.compare? b == some .eq

/-- Whether a value is a literal or less. -/
def atMost (a b : Scalar) : Bool := a.compare? b == some .lt || a.compare? b == some .eq

end Scalar

end Endpoint
