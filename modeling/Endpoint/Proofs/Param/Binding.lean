import Endpoint.Proofs.Except
import Endpoint.Proofs.Field.Record

/-!
# What binding does to a field

`Field.Converts` says which value a field takes from the values of a parameter.  Binding gives
the field that the parameter is for this value and leaves all other fields alone.
-/

namespace Endpoint

/-- The value that a field takes from the values of a parameter: one that holds a single scalar
    from the only value, a list from all of them. -/
inductive Field.Converts (f : Field) : List String → Datum → Prop
  | single {t : ScalarType} {arity : Arity} {raw : String} {v : Scalar} :
      f.type = .scalar t arity → arity ≠ .many → t.read? raw = some v →
      Converts f [raw] (.scalar v)
  | many {t : ScalarType} {raws : List String} {vs : List Scalar} :
      f.type = .scalar t .many → List.Forall₂ (fun raw v => t.read? raw = some v) raws vs →
      Converts f raws (.list (vs.map .scalar))

section

variable {t : ScalarType} {arity : Arity} {params : Params} {key raw : String}
  {raws : List String} {d : Datum}

theorem bindValue_eq_ok_iff :
    bindValue t raw = .ok d ↔ ∃ v, t.read? raw = some v ∧ d = .scalar v := by
  rw [bindValue]
  cases hread : t.read? raw with
  | none => simp
  | some v => simp [eq_comm]

theorem bindValues_eq_ok_iff {ds : List Datum} :
    bindValues t raws = .ok ds ↔
      ∃ vs, List.Forall₂ (fun raw v => t.read? raw = some v) raws vs ∧ ds = vs.map .scalar := by
  induction raws generalizing ds with
  | nil => simp [bindValues, eq_comm]
  | cons raw rest ih =>
    simp only [bindValues, Except.bind_eq_ok_iff, Except.pure_eq_ok_iff, bindValue_eq_ok_iff, ih,
      List.forall₂_cons_left_iff]
    constructor
    · rintro ⟨_, ⟨v, hv, rfl⟩, _, ⟨vs, hvs, rfl⟩, rfl⟩
      exact ⟨v :: vs, ⟨v, vs, hv, hvs, rfl⟩, rfl⟩
    · rintro ⟨_, ⟨v, vs, hv, hvs, rfl⟩, rfl⟩
      exact ⟨_, ⟨v, hv, rfl⟩, _, ⟨vs, hvs, rfl⟩, rfl⟩

theorem bindScalar_of_ne_many (harity : arity ≠ .many) (hraws : params.valuesOf? key = some raws) :
    bindScalar t arity params key =
      if 1 < raws.length then .error .notAList
      else
        match raws.getLast? with
        | some raw => bindValue t raw
        | none => .error .missing := by
  cases arity with
  | many => exact absurd rfl harity
  | _ =>
    simp only [bindScalar, Params.isMultiple, Params.string, hraws, Option.map_some,
      Option.getD_some, decide_eq_true_eq, Option.bind_some]
    cases raws.getLast? <;> rfl

/-- A single value is bound if it is the only one. -/
theorem bindScalar_single_eq_ok_iff (harity : arity ≠ .many)
    (hraws : params.valuesOf? key = some raws) :
    bindScalar t arity params key = .ok d ↔
      ∃ raw v, raws = [raw] ∧ t.read? raw = some v ∧ d = .scalar v := by
  rw [bindScalar_of_ne_many harity hraws]
  match raws with
  | [] => simp
  | [raw] => simp [bindValue_eq_ok_iff]
  | _ :: _ :: _ => simp

theorem bindScalar_many_eq_ok_iff (hraws : params.valuesOf? key = some raws) :
    bindScalar t .many params key = .ok d ↔
      ∃ vs, List.Forall₂ (fun raw v => t.read? raw = some v) raws vs ∧
        d = .list (vs.map .scalar) := by
  simp only [bindScalar, Params.strings, hraws, Except.map_eq_ok_iff, bindValues_eq_ok_iff]
  constructor
  · rintro ⟨_, ⟨vs, hvs, rfl⟩, rfl⟩
    exact ⟨vs, hvs, rfl⟩
  · rintro ⟨vs, hvs, rfl⟩
    exact ⟨_, ⟨vs, hvs, rfl⟩, rfl⟩

/-- Binding finds the value that a field takes from what is given. -/
theorem bindScalar_eq_ok_iff {f : Field} (htype : f.type = .scalar t arity)
    (hraws : params.valuesOf? key = some raws) :
    bindScalar t arity params key = .ok d ↔ f.Converts raws d := by
  by_cases harity : arity = .many
  · subst harity
    rw [bindScalar_many_eq_ok_iff hraws]
    constructor
    · rintro ⟨vs, hvs, rfl⟩
      exact .many htype hvs
    · intro h
      cases h with
      | single htype' hne _ =>
        rw [htype, FieldType.scalar.injEq] at htype'
        exact absurd htype'.2.symm hne
      | many htype' hvs =>
        rw [htype, FieldType.scalar.injEq] at htype'
        exact ⟨_, htype'.1 ▸ hvs, rfl⟩
  · rw [bindScalar_single_eq_ok_iff harity hraws]
    constructor
    · rintro ⟨raw, v, rfl, hv, rfl⟩
      exact .single htype harity hv
    · intro h
      cases h with
      | single htype' _ hv =>
        rw [htype, FieldType.scalar.injEq] at htype'
        exact ⟨_, _, rfl, htype'.1 ▸ hv, rfl⟩
      | many htype' _ =>
        rw [htype, FieldType.scalar.injEq] at htype'
        exact absurd htype'.2 harity

/-- Values convert to one value of a field at most. -/
theorem Field.Converts.unique {f : Field} {v w : Datum} (h : f.Converts raws v)
    (h' : f.Converts raws w) : v = w := by
  obtain ⟨t, arity, htype⟩ : ∃ t arity, f.type = .scalar t arity := by
    cases h with
    | single htype _ _ => exact ⟨_, _, htype⟩
    | many htype _ => exact ⟨_, _, htype⟩
  -- both are bound from parameters that have these values
  have hraws : (⟨[], [("", raws)]⟩ : Params).valuesOf? "" = some raws := by
    simp [Params.valuesOf?]
  have hv := (bindScalar_eq_ok_iff htype hraws).2 h
  rw [(bindScalar_eq_ok_iff htype hraws).2 h'] at hv
  exact (Except.ok.inj hv).symm

/-- Nothing can be bound where no values are given. -/
theorem bindScalar_of_none (hraws : params.valuesOf? key = none) :
    bindScalar t arity params key = .error .missing := by
  cases arity <;>
    simp [bindScalar, Params.isMultiple, Params.string, Params.strings, hraws]

theorem bindValue_ne_missing : bindValue t raw ≠ .error .missing := by
  rw [bindValue]
  split <;> simp

theorem bindValues_ne_missing : bindValues t raws ≠ .error .missing := by
  induction raws with
  | nil => simp [bindValues]
  | cons raw rest ih =>
    rw [bindValues]
    cases hv : bindValue t raw with
    | error e =>
      rintro ⟨⟩
      exact bindValue_ne_missing hv
    | ok d =>
      cases hvs : bindValues t rest with
      | error e =>
        rintro ⟨⟩
        exact ih hvs
      | ok ds => exact fun h => nomatch h

/-- Where values are given none is missing. -/
theorem bindScalar_ne_missing (hraws : params.valuesOf? key = some raws) (hne : raws ≠ []) :
    bindScalar t arity params key ≠ .error .missing := by
  by_cases harity : arity = .many
  · subst harity
    simp only [bindScalar, Params.strings, hraws]
    cases hvs : bindValues t raws with
    | error e =>
      rintro ⟨⟩
      exact bindValues_ne_missing hvs
    | ok ds => exact fun h => nomatch h
  · rw [bindScalar_of_ne_many harity hraws, List.getLast?_eq_some_getLast hne]
    split
    · simp
    · exact bindValue_ne_missing

end

namespace RecordType

variable {t : RecordType} {params : Params} {name key : String} {d d' : Datum} {f : Field}

theorem paramField?_eq_some (h : t.paramField? name = some f) :
    f ∈ t.fields ∧ f.paramName = some name ∧ ∃ type arity, f.type = .scalar type arity ∧
      bindable? f = some (type, arity) := by
  rw [paramField?] at h
  have hfound := List.find?_some h
  obtain ⟨hname, hsome⟩ := Bool.and_eq_true_iff.1 hfound
  have hparam : f.paramName = some name := by simpa using hname
  refine ⟨List.mem_of_find?_eq_some h, hparam, ?_⟩
  rw [bindable?.eq_def, hparam] at hsome ⊢
  cases htype : f.type with
  | scalar type arity => exact ⟨type, arity, rfl, rfl⟩
  | _ => simp [htype] at hsome

/-- Parameters of different names are for different fields. -/
theorem paramField?_inj {other : String} {g : Field} (hdistinct : t.DistinctFields)
    (hf : t.paramField? name = some f) (hg : t.paramField? other = some g)
    (hname : f.name = g.name) : name = other := by
  obtain ⟨hfmem, hfparam, -⟩ := paramField?_eq_some hf
  obtain ⟨hgmem, hgparam, -⟩ := paramField?_eq_some hg
  rw [hdistinct.eq hfmem hgmem hname, hgparam] at hfparam
  exact (Option.some.inj hfparam).symm

/-- The fields that parameters may set are the ones known by the name of a parameter. -/
theorem mem_paramFields_iff : name ∈ t.paramFields ↔ ∃ f, t.paramField? name = some f := by
  rw [← Option.isSome_iff_exists, paramField?, List.find?_isSome, paramFields]
  simp only [List.mem_filterMap, List.mem_filter, Bool.and_eq_true, beq_iff_eq]
  constructor
  · rintro ⟨f, ⟨hmem, hbindable⟩, hname⟩
    exact ⟨f, hmem, hname, hbindable⟩
  · rintro ⟨f, hmem, hname, hbindable⟩
    exact ⟨f, ⟨hmem, hbindable⟩, hname⟩

/-- Binding sets the field that the parameter is for to the value it takes. -/
theorem bind_eq_ok_iff :
    t.bind d name params key = .ok d' ↔
      ∃ f raws v, t.paramField? name = some f ∧ params.valuesOf? key = some raws ∧
        f.Converts raws v ∧ d' = d.setField f.name v := by
  rw [bind]
  cases hf : t.paramField? name with
  | none => simp
  | some f =>
    obtain ⟨-, -, type, arity, htype, hbindable⟩ := paramField?_eq_some hf
    simp only [hbindable, Except.map_eq_ok_iff]
    cases hraws : params.valuesOf? key with
    | none => simp [bindScalar_of_none hraws]
    | some raws =>
      simp only [bindScalar_eq_ok_iff htype hraws]
      constructor
      · rintro ⟨v, hv, rfl⟩
        exact ⟨f, raws, v, rfl, rfl, hv, rfl⟩
      · rintro ⟨_, _, v, ⟨⟩, ⟨⟩, hv, rfl⟩
        exact ⟨v, hv, rfl⟩

theorem bind_ne_missing {raws : List String} (hraws : params.valuesOf? key = some raws)
    (hne : raws ≠ []) : t.bind d name params key ≠ .error .missing := by
  rw [bind]
  cases hf : t.paramField? name with
  | none => simp
  | some f =>
    obtain ⟨-, -, type, arity, -, hbindable⟩ := paramField?_eq_some hf
    simp only [hbindable]
    cases hv : bindScalar type arity params key with
    | error e =>
      rintro ⟨⟩
      exact bindScalar_ne_missing hraws hne hv
    | ok v => exact fun h => nomatch h

end RecordType

end Endpoint
