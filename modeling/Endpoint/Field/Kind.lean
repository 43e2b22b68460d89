import Endpoint.Number.Binary64

/-!
# Scalar values and their kinds

The kind of a field says which scalar values it can hold and whether it can be absent.
Integers of up to 32 bits are of one kind, all unsigned integers of another; an optional
integer or float is of the widest kind of its family.
-/

namespace Endpoint

/-- The value of a scalar field that is present. -/
inductive Scalar where
  | bool (b : Bool)
  | int (i : Int)
  | uint (n : Nat)
  | float (x : Binary64)
  | text (s : String)
  deriving DecidableEq, Repr

namespace Scalar

/-- Whether the value is the zero of its type: no number is left out, and text is zero when
    it is empty.  Booleans have no zero. -/
def isZero : Scalar → Bool
  | bool _ => false
  | int i => i == 0
  | uint n => n == 0
  | float x => x.isZero
  | text s => s.isEmpty

/-- The value as a float, for numbers. -/
def toFloat? : Scalar → Option Binary64
  | int i => some (.ofInt i)
  | uint n => some (.ofNat n)
  | float x => some x
  | _ => none

end Scalar

/-- The kind of a scalar field. -/
inductive Kind where
  | bool
  | nilableBool
  | int32
  | int64
  | nilableInt64
  | uint64
  | float32
  | float64
  | nilableFloat64
  | string
  | nilableString
  deriving DecidableEq, Repr

namespace Kind

def all : List Kind :=
  [bool, nilableBool, int32, int64, nilableInt64, uint64, float32, float64, nilableFloat64,
    string, nilableString]

def name : Kind → String
  | bool => "bool"
  | nilableBool => "nilable bool"
  | int32 => "int32"
  | int64 => "int64"
  | nilableInt64 => "nilable int64"
  | uint64 => "uint64"
  | float32 => "float32"
  | float64 => "float64"
  | nilableFloat64 => "nilable float64"
  | string => "string"
  | nilableString => "nilable string"

def ofName? (s : String) : Option Kind := all.find? fun k => k.name == s

/-- Fields of a nilable kind can be absent. -/
def isNilable : Kind → Bool
  | nilableBool | nilableInt64 | nilableFloat64 | nilableString => true
  | _ => false

def isInteger : Kind → Bool
  | int32 | int64 | nilableInt64 | uint64 => true
  | _ => false

def isFloat : Kind → Bool
  | float32 | float64 | nilableFloat64 => true
  | _ => false

def isNumeric (k : Kind) : Bool := k.isInteger || k.isFloat

def isString : Kind → Bool
  | string | nilableString => true
  | _ => false

def isBool : Kind → Bool
  | bool | nilableBool => true
  | _ => false

/-- Whether a present value is of the type that fields of the kind hold. -/
def holds : Kind → Scalar → Bool
  | bool, .bool _ | nilableBool, .bool _ => true
  | int32, .int _ | int64, .int _ | nilableInt64, .int _ => true
  | uint64, .uint _ => true
  | float32, .float _ | float64, .float _ | nilableFloat64, .float _ => true
  | string, .text _ | nilableString, .text _ => true
  | _, _ => false

end Kind

end Endpoint
