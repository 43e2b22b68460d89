import Endpoint.Http.Query
import Endpoint.Number.Reading

/-!
# Request parameters

Parameters are texts under keys.  A query gives every name the list of the values supplied
for it, in order; the readers of single values take the last one.  Path parameters are
filed under their positions `0`, `1`, … beside the names of the fields they are meant for.
-/

namespace Endpoint

/-- Why a parameter cannot be read. -/
inductive ParamError where
  | missing (key : String)
  | invalid (key value expected : String)
  deriving DecidableEq, Repr

namespace ParamError

/-- The name of the kind of an error. -/
def kind : ParamError → String
  | missing _ => "Missing"
  | invalid _ _ _ => "Invalid"

def message : ParamError → String
  | missing key => "no value available for key " ++ key
  | invalid key value expected =>
    "value '" ++ value ++ "' of " ++ key ++ " cannot be converted to " ++ expected

end ParamError

/-- Parameters of a request: names for display, and the values under each key. -/
structure Params where
  names : List String
  values : List (String × List String)
  deriving DecidableEq, Repr

namespace Params

def empty : Params := ⟨[], []⟩

/-- Adds a value to those of its name; a new name comes last. -/
def append (name value : String) : List (String × List String) → List (String × List String)
  | [] => [(name, [value])]
  | (k, vs) :: rest =>
    if k = name then (k, vs ++ [value]) :: rest else (k, vs) :: append name value rest

/-- The parameters of a list of pairs. -/
def ofPairs (pairs : List (String × String)) : Params :=
  let values := pairs.foldl (fun acc (name, value) => append name value acc) []
  ⟨values.map Prod.fst, values⟩

/-- The parameters of a URL-encoded query. -/
def ofQuery (query : String) : Params := ofPairs (Query.pairs query)

/-- Captured path texts filed by position, as far as there are targets for them. -/
def ofPath (targets captured : List String) : Params :=
  ⟨targets.take captured.length,
    ((captured.take targets.length).zipIdx).map fun (text, i) => (toString i, [text])⟩

/-- The values under a key. -/
def valuesOf? (p : Params) (key : String) : Option (List String) :=
  (p.values.find? fun (k, _) => k == key).map Prod.snd

def contains (p : Params) (key : String) : Bool := (p.valuesOf? key).isSome

/-- Whether a key has more than one value. -/
def isMultiple (p : Params) (key : String) : Bool :=
  ((p.valuesOf? key).map fun vs => decide (1 < vs.length)).getD false

/-- All values under a key. -/
def strings (p : Params) (key : String) : Except ParamError (List String) :=
  match p.valuesOf? key with
  | some vs => .ok vs
  | none => .error (.missing key)

/-- The last value under a key. -/
def string (p : Params) (key : String) : Except ParamError String :=
  match (p.valuesOf? key).bind List.getLast? with
  | some v => .ok v
  | none => .error (.missing key)

/-- Whether the last value under a key is there and not empty. -/
def isFilled (p : Params) (key : String) : Bool :=
  match p.string key with
  | .ok v => !v.isEmpty
  | .error _ => false

/-- Reads the last value under a key with a reader that says what it expects. -/
def read {α : Type} (p : Params) (key expected : String) (reader : String → Option α) :
    Except ParamError α := do
  let raw ← p.string key
  match reader raw with
  | some a => pure a
  | none => throw (.invalid key raw expected)

/-- The words for true and false. -/
def readBool? (s : String) : Option Bool :=
  if ["1", "t", "T", "true", "TRUE", "True"].contains s then some true
  else if ["0", "f", "F", "false", "FALSE", "False"].contains s then some false
  else none

def bool (p : Params) (key : String) : Except ParamError Bool := p.read key "bool" readBool?

/-- Whether a number of bits is less than that of a word; other sizes mean 64. -/
def isNarrow (bits : Nat) : Bool := decide (1 ≤ bits) && decide (bits < 64)

/-- The word in which only the bit for the sign of an integer of `bits` bits is set. -/
def signWord (bits : Nat) : BitVec 64 := 1 <<< (bits - 1)

/-- The least and the greatest integer of `bits` bits, computed in words. -/
def intLimits (bits : Nat) : BitVec 64 × BitVec 64 := (-signWord bits, signWord bits - 1)

/-- The integer under a key, which must fit `bits` bits. -/
def int (p : Params) (key : String) (bits : Nat) : Except ParamError Int :=
  p.read key "integer" fun raw =>
    (readSigned? 64 raw).filter fun value =>
      !(isNarrow bits && (decide (value < (intLimits bits).1.toInt) ||
        decide ((intLimits bits).2.toInt < value)))

/-- The word that is one more than the greatest natural number of `bits` bits. -/
def carryWord (bits : Nat) : BitVec 64 := 1 <<< bits

/-- The greatest natural number of `bits` bits, computed in words. -/
def uintLimit (bits : Nat) : BitVec 64 := carryWord bits - 1

/-- The natural number under a key, which must fit `bits` bits. -/
def uint (p : Params) (key : String) (bits : Nat) : Except ParamError Nat :=
  p.read key "unsigned integer" fun raw =>
    (readUnsigned? 64 raw).filter fun value =>
      !(isNarrow bits && decide ((uintLimit bits).toNat < value))

/-- The number under a key, of single precision if `bits` is 32 and double otherwise. -/
def float (p : Params) (key : String) (bits : Nat) : Except ParamError Binary64 :=
  p.read key "number" (Binary64.ofText? (if bits = 32 then .single else .double))

end Params

end Endpoint
