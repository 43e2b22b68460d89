import Endpoint.Field.Schema
import Endpoint.Json.Decoder

/-!
# Records in JSON

A record is written as an object of its fields under their JSON names, and read from such an
object or from an array of its first fields in order.  A field that is not given has the
default of its type, and unknown fields are passed over.
-/

namespace Endpoint

namespace Schema

/-- The value of a field that is not given: zero, absent or empty.  `fuel` bounds how deep
    records without an optional field or a list between them are nested. -/
def defaultOf (s : Schema) : Nat → Nesting → Datum
  | _, .optional _ => .null
  | _, .list _ => .list []
  | 0, .record _ => .record []
  | fuel + 1, .record r =>
    .record ((s.fields r).map fun f =>
      (f.name,
        match f.type with
        | .scalar t .one => .scalar t.zero
        | .scalar _ .optional => .null
        | .scalar _ .many => .list []
        | .nested n => s.defaultOf fuel n
        | .json => .json .null))

end Schema

/-- A number rounded to a precision. -/
def Binary64.toPrecision (grid : Precision) (x : Binary64) : Binary64 :=
  if x.isFinite then .ofFraction grid x.negative x.fraction.1 x.fraction.2 else x

/-- Reads a JSON number of a precision. -/
def jsonNumber (grid : Precision) : Decoder Binary64 := fun d =>
  (Decoder.float d).map (·.toPrecision grid)

namespace Scalar

/-- Reads a scalar of a type, floats with a reader for numbers of a precision. -/
def decodeWith (number : Precision → Decoder Binary64) (t : ScalarType) : Decoder Scalar := fun d =>
  match t with
  | .bool => (Decoder.bool d).map bool
  | .signed bits => (Decoder.signed bits d).map int
  | .unsigned bits => (Decoder.unsigned bits d).map uint
  | .single => (number .single d).map float
  | .double => (number .double d).map float
  | .text => (Decoder.string d).map text

/-- The JSON form of a scalar; a float that is not finite has none and becomes null. -/
def toJson : Scalar → Json
  | bool b => .bool b
  | int i => .int i
  | uint n => .int n
  | float x => if x.isFinite then .float x else .null
  | text s => .str s

end Scalar

mutual

/-- How many arrays and objects of a document stand inside one another. -/
def Document.height : Document → Nat
  | .arr items => Document.itemsHeight items + 1
  | .obj entries => Document.entriesHeight entries + 1
  | _ => 0

def Document.itemsHeight : List Document → Nat
  | [] => 0
  | d :: rest => max d.height (Document.itemsHeight rest)

def Document.entriesHeight : List (Option String × Document) → Nat
  | [] => 0
  | (_, d) :: rest => max d.height (Document.entriesHeight rest)

end

namespace Schema

/-- Reads scalars. -/
def decodeScalar (scalar : Decoder Scalar) : Arity → Decoder Datum
  | .one => fun d => (scalar d).map .scalar
  | .optional => fun d => (Decoder.nullable scalar d).map fun v => (v.map Datum.scalar).getD .null
  | .many => fun d => (Decoder.list scalar d).map fun vs => .list (vs.map .scalar)

/-- Reads the value of one field from what is given for it. -/
def decodeField (s : Schema) (scalar : ScalarType → Decoder Scalar)
    (nested : Nesting → Decoder Datum) (f : Field) : Option Document → Option (String × Datum)
  | none =>
    let value : Datum :=
      match f.type with
      | .scalar t .one => .scalar t.zero
      | .scalar _ .optional => .null
      | .scalar _ .many => .list []
      | .nested n => s.defaultOf (s.records.length + 1) n
      | .json => .json .null
    some (f.name, value)
  | some d =>
    let value : Option Datum :=
      match f.type with
      | .scalar t arity => decodeScalar (scalar t) arity d
      | .nested n => nested n d
      | .json => (Decoder.json d).map .json
    value.map fun v => (f.name, v)

/-- Reads a nested value; `fuel` exceeds the height of the document. -/
def decodeWithin (s : Schema) (scalar : ScalarType → Decoder Scalar) :
    Nat → Nesting → Decoder Datum
  | 0, _ => fun _ => none
  | fuel + 1, .record r => fun d => do
    let fs := s.fields r
    let given ← Decoder.fields false (fs.map Field.jsonName) d
    let values ← (fs.zip given).mapM fun (f, x) =>
      s.decodeField scalar (s.decodeWithin scalar fuel) f x
    some (.record values)
  | fuel + 1, .list n => fun d => (Decoder.list (s.decodeWithin scalar fuel n) d).map .list
  | fuel + 1, .optional n => fun d =>
    match d with
    | .null => some .null
    | d => s.decodeWithin scalar (fuel + 1) n d
termination_by fuel n => (fuel, sizeOf n)

end Schema

/-- The record that a nested value consists of. -/
def Nesting.innermost : Nesting → String
  | .record r => r
  | .optional n => n.innermost
  | .list n => n.innermost

/-- The record that the value of a field consists of, if it is nested. -/
def FieldType.innermost : FieldType → String
  | .nested n => n.innermost
  | _ => ""

mutual

/-- The JSON form of a value that consists of some record. -/
def Schema.toJson (s : Schema) (record : String) : Datum → Json
  | .null => .null
  | .scalar x => x.toJson
  | .list items => .arr (s.itemsToJson record items)
  | .record fields => .object (s.fieldsToJson (s.fields record) fields)
  | .json j => j

def Schema.itemsToJson (s : Schema) (record : String) : List Datum → List Json
  | [] => []
  | d :: rest => s.toJson record d :: s.itemsToJson record rest

def Schema.fieldsToJson (s : Schema) (fs : List Field) :
    List (String × Datum) → List (String × Json)
  | [] => []
  | (name, d) :: rest =>
    match fs.find? fun f => f.name == name with
    | some f => (f.jsonName, s.toJson f.type.innermost d) :: s.fieldsToJson fs rest
    | none => s.fieldsToJson fs rest

end

namespace RecordType

/-- The record whose fields all have their defaults. -/
def default (t : RecordType) : Datum :=
  t.schema.defaultOf (t.schema.records.length + 1) (.record t.name)

/-- Reads a record, floats with a reader for numbers of a precision. -/
def decodeWith (t : RecordType) (number : Precision → Decoder Binary64) : Decoder Datum := fun d =>
  t.schema.decodeWithin (Scalar.decodeWith number) (d.height + 2) (.record t.name) d

/-- Reads a record from JSON. -/
def decode (t : RecordType) : Decoder Datum := t.decodeWith jsonNumber

/-- The JSON form of a record. -/
def toJson (t : RecordType) (d : Datum) : Json := t.schema.toJson t.name d

end RecordType

end Endpoint
