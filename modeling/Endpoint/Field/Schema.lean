import Endpoint.Field.Kind
import Endpoint.Field.Path
import Endpoint.Json.Basic

/-!
# Schemas

A schema describes structured values: records with named fields, where a field holds
scalars, other records, or free-form JSON.  Records refer to one another by name, so they
may be recursive.  A field can be visible to rules and to request parameters under names
of its own, or hidden from either.

`Schema.kindAt` gives the kind of the scalar field at a path, and `Schema.valueAt` its value
in a given record; both walk the same way.
-/

namespace Endpoint

/-- The type of a scalar. -/
inductive ScalarType where
  | bool
  | signed (bits : Nat)
  | unsigned (bits : Nat)
  | single
  | double
  | text
  deriving DecidableEq, Repr

/-- How many scalars a field holds. -/
inductive Arity where
  | one
  | optional
  | many
  deriving DecidableEq, Repr

/-- The type of a nested field. -/
inductive Nesting where
  | record (name : String)
  | optional (inner : Nesting)
  | list (inner : Nesting)
  deriving DecidableEq, Repr

/-- The type of a field. -/
inductive FieldType where
  | scalar (type : ScalarType) (arity : Arity)
  | nested (nesting : Nesting)
  | json
  deriving DecidableEq, Repr

/-- A field of a record, with the names by which rules, parameters and JSON know it. -/
structure Field where
  name : String
  type : FieldType
  ruleName : Option String
  paramName : Option String
  jsonName : String
  deriving DecidableEq, Repr

namespace FieldType

/-- One scalar. -/
def one (t : ScalarType) : FieldType := scalar t .one

/-- A scalar that can be absent. -/
def optional (t : ScalarType) : FieldType := scalar t .optional

/-- Any number of scalars. -/
def many (t : ScalarType) : FieldType := scalar t .many

/-- A record. -/
def record (name : String) : FieldType := nested (.record name)

/-- A record that can be absent. -/
def optionalRecord (name : String) : FieldType := nested (.optional (.record name))

/-- Any number of records. -/
def records (name : String) : FieldType := nested (.list (.record name))

end FieldType

namespace Field

/-- A field that is hidden from rules and parameters. -/
def hidden (name : String) (type : FieldType) : Field := ⟨name, type, none, none, name⟩

/-- A field that rules know by its name. -/
def ruled (name : String) (type : FieldType) : Field := ⟨name, type, some name, none, name⟩

/-- A field that parameters know by its name. -/
def bindable (name : String) (type : FieldType) : Field := ⟨name, type, none, some name, name⟩

/-- A field that rules and parameters know by its name. -/
def shared (name : String) (type : FieldType) : Field := ⟨name, type, some name, some name, name⟩

/-- Whether a path can go on with `rest` after the name of a field; one to a scalar ends there. -/
def admits (f : Field) (rest : List Segment) : Bool :=
  match f.type with
  | .scalar _ _ => rest.isEmpty
  | _ => true

end Field

/-- Records by name. -/
structure Schema where
  records : List (String × List Field)
  deriving Repr

/-- A structured value. -/
inductive Datum where
  | null
  | scalar (s : Scalar)
  | list (items : List Datum)
  | record (fields : List (String × Datum))
  | json (j : Json)

namespace ScalarType

/-- The kind of a field that holds at most one scalar of a type; optional unsigned integers
    have none. -/
def kind? (t : ScalarType) : Arity → Option Kind
  | .one =>
    match t with
    | bool => some .bool
    | signed bits => some (if bits ≤ 32 then .int32 else .int64)
    | unsigned _ => some .uint64
    | single => some .float32
    | double => some .float64
    | text => some .string
  | .optional =>
    match t with
    | bool => some .nilableBool
    | signed _ => some .nilableInt64
    | unsigned _ => none
    | single | double => some .nilableFloat64
    | text => some .nilableString
  | .many => none

/-- The value of a scalar that is not set otherwise. -/
def zero : ScalarType → Scalar
  | bool => .bool false
  | signed _ => .int 0
  | unsigned _ => .uint 0
  | single | double => .float .zero
  | text => .text ""

end ScalarType

namespace Datum

/-- The field of a record. -/
def field? (d : Datum) (name : String) : Option Datum :=
  match d with
  | record fields => (fields.find? fun (n, _) => n == name).map Prod.snd
  | _ => none

/-- The scalar held directly. -/
def scalar? : Datum → Option Scalar
  | scalar s => some s
  | _ => none

/-- The item of a list. -/
def item? (d : Datum) (index : Nat) : Option Datum :=
  match d with
  | list items => items[index]?
  | _ => none

/-- Replaces a field of a record that has it. -/
def setField (d : Datum) (name : String) (value : Datum) : Datum :=
  match d with
  | record fields => record (fields.map fun (n, v) => if n = name then (n, value) else (n, v))
  | d => d

end Datum

namespace Schema

/-- The fields of a record. -/
def fields (s : Schema) (name : String) : List Field :=
  match s.records.find? fun (n, _) => n == name with
  | some (_, fs) => fs
  | none => []

/-- The field that a path is about which starts with a name and goes on with `rest`. -/
def ruleField? (s : Schema) (record name : String) (rest : List Segment) : Option Field :=
  (s.fields record).find? fun f => f.ruleName == some name && f.admits rest

/-- The kind of the scalar field at a path. -/
def kindAt (s : Schema) (n : Nesting) (path : List Segment) : Option Kind :=
  match n, path with
  | .record r, .name head :: rest =>
    match s.ruleField? r head rest with
    | none => none
    | some f =>
      match f.type with
      | .scalar t arity => t.kind? arity
      | .nested inner => s.kindAt inner rest
      | .json => none
  | .optional inner, path => s.kindAt inner path
  | .list inner, .index _ :: rest => s.kindAt inner rest
  | _, _ => none
termination_by (path.length, sizeOf n)

/-- The value of the scalar field at a path; none when it is absent or there is no such
    field. -/
def valueAt (s : Schema) (n : Nesting) (d : Datum) (path : List Segment) : Option Scalar :=
  match n, path with
  | .record r, .name head :: rest =>
    match s.ruleField? r head rest with
    | none => none
    | some f =>
      match f.type, d.field? f.name with
      | .scalar t arity, some v => if (t.kind? arity).isSome then v.scalar? else none
      | .nested inner, some v => s.valueAt inner v rest
      | _, _ => none
  | .optional inner, path =>
    match d with
    | .null => none
    | d => s.valueAt inner d path
  | .list inner, .index i :: rest =>
    match d.item? i with
    | some v => s.valueAt inner v rest
    | none => none
  | _, _ => none
termination_by (path.length, sizeOf n)

end Schema

/-- A record type of a schema: what rules and parameters are about. -/
structure RecordType where
  schema : Schema
  name : String

namespace RecordType

def fields (t : RecordType) : List Field := t.schema.fields t.name

/-- The kind of the scalar field at a path. -/
def kindAt (t : RecordType) (path : List Segment) : Option Kind :=
  t.schema.kindAt (.record t.name) path

/-- The value of the scalar field at a path. -/
def valueAt (t : RecordType) (d : Datum) (path : List Segment) : Option Scalar :=
  t.schema.valueAt (.record t.name) d path

end RecordType

end Endpoint
