import Endpoint.Field.Subject
import Endpoint.Proofs.Rule.Literal

/-!
# Values of the types of a schema

`Schema.IsValue` says which data are values of a type of a schema.  Kinds are looked up in the
schema and values in the data; of such data the two agree at every path: what is found has the
type of the kind, and something is found unless it may be absent or the path leads through
something absent.
-/

namespace Endpoint

/-- The scalars of a type. -/
inductive ScalarType.IsValue : ScalarType → Scalar → Prop
  | bool (b : Bool) : IsValue .bool (.bool b)
  | signed (bits : Nat) (i : Int) : IsValue (.signed bits) (.int i)
  | unsigned (bits n : Nat) : IsValue (.unsigned bits) (.uint n)
  | single (x : Binary64) : IsValue .single (.float x)
  | double (x : Binary64) : IsValue .double (.float x)
  | text (s : String) : IsValue .text (.text s)

namespace Schema

/-- The data that are values of the type of a field. -/
inductive IsValue (s : Schema) : FieldType → Datum → Prop
  | one {t : ScalarType} {v : Scalar} : t.IsValue v → IsValue s (.scalar t .one) (.scalar v)
  | absent {t : ScalarType} : IsValue s (.scalar t .optional) .null
  | present {t : ScalarType} {v : Scalar} : t.IsValue v →
      IsValue s (.scalar t .optional) (.scalar v)
  | many {t : ScalarType} {items : List Scalar} : (∀ v ∈ items, t.IsValue v) →
      IsValue s (.scalar t .many) (.list (items.map .scalar))
  | json (j : Json) : IsValue s .json (.json j)
  | nothing {n : Nesting} : IsValue s (.nested (.optional n)) .null
  | just {n : Nesting} {d : Datum} : IsValue s (.nested n) d →
      IsValue s (.nested (.optional n)) d
  | list {n : Nesting} {items : List Datum} : (∀ d ∈ items, IsValue s (.nested n) d) →
      IsValue s (.nested (.list n)) (.list items)
  /-- a record holds a value of its type for every field -/
  | record {name : String} {d : Datum} (value : Field → Datum) :
      (∀ f ∈ s.fields name, d.field? f.name = some (value f)) →
      (∀ f ∈ s.fields name, IsValue s f.type (value f)) → IsValue s (.nested (.record name)) d

/-- A path leads through something absent: a nested value that is none, or an item past the end
    of a list. -/
inductive Misses (s : Schema) : Nesting → Datum → List Segment → Prop
  | absent {n : Nesting} {path : List Segment} : Misses s (.optional n) .null path
  | pastEnd {n : Nesting} {items : List Datum} {i : Nat} {rest : List Segment} :
      items.length ≤ i → Misses s (.list n) (.list items) (.index i :: rest)
  | present {n : Nesting} {d : Datum} {path : List Segment} : Misses s n d path →
      Misses s (.optional n) d path
  | item {n : Nesting} {items : List Datum} {i : Nat} {d : Datum} {rest : List Segment} :
      items[i]? = some d → Misses s n d rest → Misses s (.list n) (.list items) (.index i :: rest)
  | field {record head : String} {f : Field} {n : Nesting} {d v : Datum} {rest : List Segment} :
      s.ruleField? record head rest = some f → f.type = .nested n → d.field? f.name = some v →
      Misses s n v rest → Misses s (.record record) d (.name head :: rest)

/-- What is looked up in values of a nested type. -/
def subject (s : Schema) (n : Nesting) : Subject Datum := ⟨s.kindAt n, s.valueAt n⟩

variable {s : Schema}

theorem ruleField?_mem {record head : String} {rest : List Segment} {f : Field}
    (h : s.ruleField? record head rest = some f) : f ∈ s.fields record :=
  List.mem_of_find?_eq_some h

theorem IsValue.field {record : String} {d : Datum} {f : Field}
    (h : s.IsValue (.nested (.record record)) d) (hf : f ∈ s.fields record) :
    ∃ v, d.field? f.name = some v ∧ s.IsValue f.type v := by
  cases h with
  | record value hfield hvalue => exact ⟨value f, hfield f hf, hvalue f hf⟩

end Schema

/-- What is found at a path is of the kind found there.  Nothing is found where there is no
    field, and also of a field that may be absent or whose path misses. -/
inductive Agrees (misses : Prop) : Option Kind → Option Scalar → Prop
  | noField : Agrees misses none none
  | present {k : Kind} {v : Scalar} : k.holds v = true → Agrees misses (some k) (some v)
  | absent {k : Kind} : k.isNilable = true ∨ misses → Agrees misses (some k) none

theorem Agrees.mono {p q : Prop} {k : Option Kind} {v : Option Scalar} (h : Agrees p k v)
    (hpq : p → q) : Agrees q k v := by
  cases h with
  | noField => exact .noField
  | present hv => exact .present hv
  | absent hnone => exact .absent (hnone.imp_right hpq)

theorem Agrees.eq_none {misses : Prop} {v : Option Scalar} (h : Agrees misses none v) :
    v = none := by
  cases h
  rfl

theorem Agrees.holds {misses : Prop} {k : Kind} {value : Scalar}
    (h : Agrees misses (some k) (some value)) : k.holds value = true := by
  cases h with
  | present hvalue => exact hvalue

theorem Agrees.nilable_or {misses : Prop} {k : Kind} (h : Agrees misses (some k) none) :
    k.isNilable = true ∨ misses := by
  cases h with
  | absent hnone => exact hnone

/-- Where a path misses nothing is found. -/
theorem Agrees.of_misses {misses : Prop} (k : Option Kind) (h : misses) :
    Agrees misses k none := by
  cases k with
  | none => exact .noField
  | some k => exact .absent (.inr h)

namespace ScalarType

/-- A field that holds a scalar is of a kind that holds it. -/
theorem IsValue.holds {t : ScalarType} {v : Scalar} {arity : Arity} {k : Kind} (h : t.IsValue v)
    (hkind : t.kind? arity = some k) : k.holds v = true := by
  cases h <;> cases arity <;> simp only [kind?, reduceCtorEq, Option.some.injEq] at hkind <;>
    subst hkind
  case signed.one bits i => split <;> rfl
  all_goals rfl

theorem isNilable_of_kind?_optional {t : ScalarType} {k : Kind}
    (h : t.kind? .optional = some k) : k.isNilable = true := by
  cases t <;> simp only [kind?, reduceCtorEq, Option.some.injEq] at h <;> subst h <;> rfl

end ScalarType

namespace Schema

variable {s : Schema} {misses : Prop}

theorem valueAt_optional_null {n : Nesting} {path : List Segment} :
    s.valueAt (.optional n) .null path = none := by
  rw [valueAt]

theorem valueAt_optional {n : Nesting} {d : Datum} {path : List Segment} (h : d ≠ .null) :
    s.valueAt (.optional n) d path = s.valueAt n d path := by
  rw [valueAt]
  exact h

/-- A field of scalars agrees with the kind of its type, if it has one. -/
theorem IsValue.agrees_scalar {t : ScalarType} {arity : Arity} {d : Datum}
    (h : s.IsValue (.scalar t arity) d) :
    Agrees misses (t.kind? arity) (if (t.kind? arity).isSome then d.scalar? else none) := by
  cases hkind : t.kind? arity with
  | none => exact .noField
  | some k =>
    simp only [Option.isSome_some, if_true]
    cases h with
    | one hv => exact .present (hv.holds hkind)
    | present hv => exact .present (hv.holds hkind)
    | absent => exact .absent (.inl (ScalarType.isNilable_of_kind?_optional hkind))
    | many _ => simp [ScalarType.kind?] at hkind

/-- At every path the value of a subject agrees with the kind of its type. -/
theorem IsValue.agrees {n : Nesting} {d : Datum} (h : s.IsValue (.nested n) d)
    (path : List Segment) : Agrees (s.Misses n d path) (s.kindAt n path) (s.valueAt n d path) := by
  fun_induction s.kindAt n path generalizing d with
  | case1 r head rest hfield =>
    rw [valueAt, hfield]
    exact .noField
  | case2 r head rest f hfield t arity htype =>
    obtain ⟨v, hv, hvalue⟩ := h.field (ruleField?_mem hfield)
    rw [htype] at hvalue
    simp only [valueAt, hfield, htype, hv]
    exact hvalue.agrees_scalar
  | case3 r head rest f hfield inner htype ih =>
    obtain ⟨v, hv, hvalue⟩ := h.field (ruleField?_mem hfield)
    rw [htype] at hvalue
    simp only [valueAt, hfield, htype, hv]
    exact (ih hvalue).mono (.field hfield htype hv)
  | case4 r head rest f hfield htype =>
    simp only [valueAt, hfield, htype]
    exact .noField
  | case5 inner path ih =>
    cases h with
    | nothing =>
      rw [valueAt_optional_null]
      exact .of_misses _ .absent
    | just h =>
      by_cases hnull : d = .null
      · rw [hnull, valueAt_optional_null]
        exact .of_misses _ .absent
      · rw [valueAt_optional hnull]
        exact (ih h).mono .present
  | case6 inner i rest ih =>
    cases h with
    | @list _ items h =>
      rw [valueAt, Datum.item?]
      cases hitem : items[i]? with
      | none => exact .of_misses _ (.pastEnd (List.getElem?_eq_none_iff.1 hitem))
      | some d => exact (ih (h d (List.mem_of_getElem? hitem))).mono (.item hitem)
  | case7 n path hoptional hrecord hlist =>
    rw [valueAt]
    · exact .noField
    · exact hoptional
    · exact hrecord
    · exact hlist

end Schema

end Endpoint
