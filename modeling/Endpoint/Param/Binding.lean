import Endpoint.Param.Basic
import Endpoint.Field.Schema

/-!
# Binding parameters to fields

Binding sets a field of a record from the values of a parameter.  A field that holds one
scalar takes exactly one value, a list takes any number; each value is read as the scalar
type of the field.  A binding that fails leaves the record as it was.
-/

namespace Endpoint

/-- Why a field cannot be bound. -/
inductive BindError where
  | noSuchField (field : String)
  | wrongType (value expected : String)
  | notAList
  | missing
  deriving DecidableEq, Repr

namespace BindError

/-- The name of the kind of an error. -/
def kind : BindError → String
  | noSuchField _ => "NoSuchField"
  | wrongType _ _ => "WrongType"
  | notAList => "NotAList"
  | missing => "Missing"

def message : BindError → String
  | noSuchField field => "no bindable field named " ++ field
  | wrongType value expected => "value '" ++ value ++ "' cannot be converted to " ++ expected
  | notAList => "multiple values supplied for a single-valued field"
  | missing => "no value supplied"

end BindError

namespace ScalarType

/-- What a caller is told that a parameter of the type must be. -/
def expected : ScalarType → String
  | bool => "true or false"
  | signed _ => "an integer"
  | unsigned _ => "a positive integer"
  | single | double => "a number"
  | text => "text"

/-- Reads a value of the type from the text of a parameter. -/
def read? : ScalarType → String → Option Scalar
  | bool, s => (Params.readBool? s).map .bool
  | signed bits, s => (readSigned? bits s).map .int
  | unsigned bits, s => (readUnsigned? bits s).map .uint
  | single, s => (Binary64.ofText? .single s).map .float
  | double, s => (Binary64.ofText? .double s).map .float
  | text, s => some (.text s)

end ScalarType

/-- Reads one value, saying what was expected if that fails. -/
def bindValue (t : ScalarType) (raw : String) : Except BindError Datum :=
  match t.read? raw with
  | some s => .ok (.scalar s)
  | none => .error (.wrongType raw t.expected)

/-- Reads all values in order. -/
def bindValues (t : ScalarType) : List String → Except BindError (List Datum)
  | [] => .ok []
  | raw :: rest => do
    let d ← bindValue t raw
    let ds ← bindValues t rest
    pure (d :: ds)

/-- The value a field of some type and arity takes from the values under a key. -/
def bindScalar (t : ScalarType) (arity : Arity) (params : Params) (key : String) :
    Except BindError Datum :=
  match arity with
  | .many =>
    match params.strings key with
    | .ok raws => (bindValues t raws).map .list
    | .error _ => .error .missing
  | _ =>
    if params.isMultiple key then .error .notAList
    else
      match params.string key with
      | .ok raw => bindValue t raw
      | .error _ => .error .missing

namespace RecordType

/-- The scalar type and arity of a field that parameters may set. -/
def bindable? (f : Field) : Option (ScalarType × Arity) :=
  match f.paramName, f.type with
  | some _, .scalar t arity => some (t, arity)
  | _, _ => none

/-- The names of the fields that parameters may set, in order. -/
def paramFields (t : RecordType) : List String :=
  (t.fields.filter fun f => (bindable? f).isSome).filterMap Field.paramName

/-- The field that parameters know by a name. -/
def paramField? (t : RecordType) (name : String) : Option Field :=
  t.fields.find? fun f => f.paramName == some name && (bindable? f).isSome

/-- Sets the named field of a record from the values under a key. -/
def bind (t : RecordType) (d : Datum) (field : String) (params : Params) (key : String) :
    Except BindError Datum :=
  match t.paramField? field with
  | none => .error (.noSuchField field)
  | some f =>
    match bindable? f with
    | none => .error (.noSuchField field)
    | some (type, arity) => (bindScalar type arity params key).map fun v => d.setField f.name v

end RecordType

end Endpoint
