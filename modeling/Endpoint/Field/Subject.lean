import Endpoint.Field.Schema

/-!
# Subjects

What rules know of a type of values: which paths lead to a field and of what kind, and what
a given value of the type holds there.  Records of a schema are one such type.
-/

namespace Endpoint

/-- A type of values that rules can be about. -/
structure Subject (σ : Type) where
  kindAt : List Segment → Option Kind
  /-- none when the field is absent -/
  valueAt : σ → List Segment → Option Scalar

/-- Records of a type as subjects of rules. -/
def RecordType.subject (t : RecordType) : Subject Datum := ⟨t.kindAt, t.valueAt⟩

end Endpoint
