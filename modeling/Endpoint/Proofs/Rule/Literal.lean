import Endpoint.Proofs.Number.Reading
import Endpoint.Rule.Literal

/-!
# Literals and values of one type

A literal is a value that fields of the kind hold, and so it has the type of every present value
of such a field.  Two values of one type are ordered unless one of them is not a number, and the
order of two integers is that of the integers they are.
-/

namespace Endpoint

namespace Scalar

/-- Two values are of the same type. -/
inductive SameType : Scalar → Scalar → Prop
  | bool (a b : Bool) : SameType (bool a) (bool b)
  | int (i j : Int) : SameType (int i) (int j)
  | uint (n m : Nat) : SameType (uint n) (uint m)
  | float (x y : Binary64) : SameType (float x) (float y)
  | text (s t : String) : SameType (text s) (text t)

/-- A value that is not a number. -/
def IsNaN (v : Scalar) : Prop := ∃ x, v = float x ∧ x.isNaN = true

/-- The integer that a value is. -/
def toInt? : Scalar → Option Int
  | int i => some i
  | uint n => some n
  | _ => none

variable {k : Kind} {a b v : Scalar} {raw : String}

/-- Fields of a kind hold values of one type. -/
theorem sameType_of_holds (ha : k.holds a = true) (hb : k.holds b = true) : SameType a b := by
  cases k <;> cases a <;> simp [Kind.holds] at ha <;> cases b <;> simp [Kind.holds] at hb <;>
    constructor

/-- The present values of an integer kind are integers. -/
theorem exists_toInt?_of_holds (hkind : k.isInteger = true) (h : k.holds v = true) :
    ∃ i, v.toInt? = some i := by
  cases v with
  | int i => exact ⟨i, rfl⟩
  | uint n => exact ⟨n, rfl⟩
  | _ => cases k <;> simp [Kind.isInteger, Kind.holds] at hkind h

/-- Values of one type that has literals are ordered unless one of them is not a number. -/
theorem SameType.compare?_eq_none_iff (h : SameType a b) (hbool : ∀ c, b ≠ .bool c) :
    a.compare? b = none ↔ a.IsNaN ∨ b.IsNaN := by
  cases h with
  | bool _ c => exact absurd rfl (hbool c)
  | float x y =>
    cases hx : x.isNaN with
    | true => simp [compare?, Binary64.compare?, IsNaN, hx]
    | false => simp [compare?, Binary64.compare?, IsNaN, hx]
  | _ => simp [compare?, IsNaN]

theorem SameType.compare?_of_toInt? {i j : Int} (h : SameType a b) (hi : a.toInt? = some i)
    (hj : b.toInt? = some j) : a.compare? b = some (compare i j) := by
  cases h with
  | int _ _ =>
    obtain rfl := Option.some.inj hi
    obtain rfl := Option.some.inj hj
    rfl
  | uint n m =>
    obtain rfl := Option.some.inj hi
    obtain rfl := Option.some.inj hj
    have hcompare : compare (n : Int) m = compareOfLessAndEq (n : Int) m := rfl
    simp only [compare?, hcompare, compareOfLessAndEq, Int.ofNat_lt, Int.natCast_inj]
  | _ => simp [toInt?] at hi

/-! ## Literals -/

theorem holds_of_ofLiteral? (h : ofLiteral? k raw = some v) : k.holds v = true := by
  rw [ofLiteral?.eq_def] at h
  cases k with
  | bool | nilableBool => simp at h
  | string | nilableString =>
    obtain rfl := Option.some.inj h
    rfl
  | _ =>
    obtain ⟨x, -, rfl⟩ := Option.map_eq_some_iff.1 h
    rfl

/-- Booleans have no literals. -/
theorem ne_bool_of_ofLiteral? (h : ofLiteral? k raw = some v) (c : Bool) : v ≠ bool c := by
  rintro rfl
  rw [ofLiteral?.eq_def] at h
  cases k <;> simp at h

/-- A literal of a numeric kind is written as a number. -/
theorem numeral_of_ofLiteral? (hkind : k.isNumeric = true) (htrim : trimText raw = raw)
    (h : ofLiteral? k raw = some v) : Numeral raw.toList := by
  rw [ofLiteral?.eq_def, htrim] at h
  cases k with
  | bool | nilableBool | string | nilableString =>
    simp [Kind.isNumeric, Kind.isInteger, Kind.isFloat] at hkind
  | int32 | int64 | nilableInt64 =>
    obtain ⟨i, hi, -⟩ := Option.map_eq_some_iff.1 h
    exact numeral_of_readSigned? hi
  | uint64 =>
    obtain ⟨n, hn, -⟩ := Option.map_eq_some_iff.1 h
    exact numeral_of_readUnsigned? hn
  | float32 | float64 | nilableFloat64 =>
    obtain ⟨x, hx, -⟩ := Option.map_eq_some_iff.1 h
    exact Binary64.numeral_of_ofText? hx

end Scalar

end Endpoint
