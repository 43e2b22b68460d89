import Endpoint.Json.Syntax

/-!
# Decoding documents

A decoder gives the value a document stands for, if it stands for one.  Records are read
from an object, where each field may occur once, or from an array that lists the first
fields in order.
-/

namespace Endpoint

/-- Reads a value of a type from a document. -/
abbrev Decoder (α : Type) := Document → Option α

namespace Decoder

variable {α : Type}

def string : Decoder String
  | .str s => some s
  | _ => none

def bool : Decoder Bool
  | .bool b => some b
  | _ => none

/-- An integer that fits `bits` bits with sign. -/
def signed (bits : Nat) : Decoder Int
  | .int i => if fitsSigned bits i then some i else none
  | _ => none

/-- A natural number that fits `bits` bits. -/
def unsigned (bits : Nat) : Decoder Nat
  | .int i => if 0 ≤ i ∧ i.toNat < 1 <<< bits then some i.toNat else none
  | _ => none

/-- A float; integers are converted. -/
def float : Decoder Binary64
  | .float x => some x
  | .int i => some (.ofInt i)
  | _ => none

/-- Any value. -/
def json : Decoder Json := Document.toJson?

/-- A value or null. -/
def nullable (d : Decoder α) : Decoder (Option α)
  | .null => some none
  | x => (d x).map some

def list (d : Decoder α) : Decoder (List α)
  | .arr items => items.mapM d
  | _ => none

/-- Reads one entry of a map. -/
def entry (d : Decoder α) (e : Option String × Document) : Option (String × α) :=
  match e.1, d e.2 with
  | some k, some v => some (k, v)
  | _, _ => none

/-- An object read as a map; a later entry replaces an earlier one of its key. -/
def entries (d : Decoder α) : Decoder (Entries α)
  | .obj es => (es.mapM (entry d)).map Entries.ofList
  | _ => none

/-- The documents given for a field of an object. -/
def fieldDocuments (name : String) (es : List (Option String × Document)) : List Document :=
  es.filterMap fun (key, x) => if key = some name then some x else none

/-- Whether an entry may stand in a record with the named fields. -/
def keyAllowed (closed : Bool) (names : List String) : Option String → Bool
  | some k => !closed || names.contains k
  | none => false

/-- The documents of the named fields of a record, none for a field that is not given.
    With `closed`, fields of any other name are refused. -/
def fields (closed : Bool) (names : List String) : Decoder (List (Option Document))
  | .arr items =>
    if names.length < items.length then none
    else some (items.map some ++ List.replicate (names.length - items.length) none)
  | .obj es =>
    let known := es.all fun entry => keyAllowed closed names entry.1
    if !known then none
    else names.mapM fun name =>
      match fieldDocuments name es with
      | [] => some none
      | [x] => some (some x)
      | _ => none
  | _ => none

/-- Reads a field that must be given. -/
def required (d : Decoder α) (x : Option Document) : Option α := x.bind d

/-- Reads a field that has a default. -/
def withDefault (default : α) (d : Decoder α) : Option Document → Option α
  | none => some default
  | some x => d x

end Decoder

end Endpoint
