import Endpoint.Proofs.Param.Binding

/-!
# Bindings that are attempted

A record that is bound in place is what an attempt leaves of it, whether it succeeds or not.  Which
field an attempt sets, and to what, is found from the parameters alone (`assignment`): a failed one
changes nothing, a successful one its own field only, and attempts for different fields can be made
in either order.
-/

namespace Endpoint

theorem Datum.setField_setField (d v w : Datum) (name : String) :
    (d.setField name v).setField name w = d.setField name w := by
  cases d with
  | record fields =>
    simp only [setField, List.map_map, record.injEq]
    refine List.map_congr_left fun entry _ => ?_
    by_cases h : entry.1 = name <;> simp [h]
  | _ => rfl

theorem Datum.setField_comm {name other : String} (h : name ≠ other) (d v w : Datum) :
    (d.setField name v).setField other w = (d.setField other w).setField name v := by
  cases d with
  | record fields =>
    simp only [setField, List.map_map, record.injEq]
    refine List.map_congr_left fun entry _ => ?_
    by_cases hname : entry.1 = name
    · simp [hname, h]
    · by_cases hother : entry.1 = other
      · simp [hother, h.symm]
      · simp [hname, hother]
  | _ => rfl

/-! ## Why values cannot be bound -/

section

variable {t : ScalarType} {arity : Arity} {params : Params} {key raw : String} {raws : List String}
  {e : BindError}

theorem bindValue_eq_error_iff :
    bindValue t raw = .error e ↔ t.read? raw = none ∧ e = .wrongType raw t.expected := by
  rw [bindValue]
  cases hread : t.read? raw with
  | none => simp [eq_comm]
  | some v => simp

/-- Values are refused for the first of them that cannot be read. -/
theorem exists_of_bindValues_eq_error (h : bindValues t raws = .error e) :
    ∃ raw ∈ raws, bindValue t raw = .error e := by
  induction raws with
  | nil => cases h
  | cons raw rest ih =>
    rw [bindValues] at h
    cases hfirst : bindValue t raw with
    | error e' =>
      rw [hfirst] at h
      obtain rfl := Except.error.inj h
      exact ⟨raw, List.mem_cons_self, hfirst⟩
    | ok value =>
      cases hrest : bindValues t rest with
      | error e' =>
        rw [hfirst, hrest] at h
        obtain rfl := Except.error.inj h
        obtain ⟨raw', hraw', he⟩ := ih hrest
        exact ⟨raw', List.mem_cons_of_mem _ hraw', he⟩
      | ok values =>
        rw [hfirst, hrest] at h
        cases h

/-- What a field takes depends on the values under the key alone. -/
theorem bindScalar_congr {params' : Params} {key' : String}
    (h : params'.valuesOf? key' = params.valuesOf? key) :
    bindScalar t arity params' key' = bindScalar t arity params key := by
  cases hraws : params.valuesOf? key with
  | none => rw [bindScalar_of_none hraws, bindScalar_of_none (h.trans hraws)]
  | some raws =>
    by_cases harity : arity = .many
    · simp only [harity, bindScalar, Params.strings, h, hraws]
    · rw [bindScalar_of_ne_many harity hraws, bindScalar_of_ne_many harity (h.trans hraws)]

/-- Why texts do not convert to a value of a field: one of them cannot be read, or there are several
    for a field that takes one. -/
inductive Field.Refuses (f : Field) (raws : List String) : BindError → Prop
  | wrongType {t : ScalarType} {arity : Arity} {raw : String} :
      f.type = .scalar t arity → raw ∈ raws → t.read? raw = none →
      Refuses f raws (.wrongType raw t.expected)
  | notAList {t : ScalarType} {arity : Arity} :
      f.type = .scalar t arity → arity ≠ .many → 1 < raws.length → Refuses f raws .notAList

/-- Values that are given are refused because they do not convert, and for no other reason. -/
theorem refuses_of_bindScalar {f : Field} (htype : f.type = .scalar t arity)
    (hraws : params.valuesOf? key = some raws) (hne : raws ≠ [])
    (h : bindScalar t arity params key = .error e) : f.Refuses raws e := by
  have hvalue : ∀ raw ∈ raws, bindValue t raw = .error e → f.Refuses raws e := by
    intro raw hraw herror
    obtain ⟨hread, rfl⟩ := bindValue_eq_error_iff.1 herror
    exact .wrongType htype hraw hread
  by_cases harity : arity = .many
  · subst harity
    simp only [bindScalar, Params.strings, hraws] at h
    cases hvalues : bindValues t raws with
    | error e' =>
      rw [hvalues] at h
      obtain rfl := Except.error.inj h
      obtain ⟨raw, hraw, herror⟩ := exists_of_bindValues_eq_error hvalues
      exact hvalue raw hraw herror
    | ok values =>
      rw [hvalues] at h
      cases h
  · rw [bindScalar_of_ne_many harity hraws, List.getLast?_eq_some_getLast hne] at h
    split at h
    · rename_i hmany
      obtain rfl := Except.error.inj h
      exact .notAList htype harity hmany
    · exact hvalue _ (List.getLast_mem hne) h

/-- Values are never refused for want of a field. -/
theorem bindScalar_ne_noSuchField (name : String) :
    bindScalar t arity params key ≠ .error (.noSuchField name) := by
  intro h
  cases hraws : params.valuesOf? key with
  | none =>
    rw [bindScalar_of_none hraws] at h
    cases h
  | some raws =>
    by_cases hne : raws = []
    · subst hne
      cases arity <;> simp [bindScalar, Params.isMultiple, Params.string, Params.strings,
        bindValues, Except.map, hraws] at h
    · cases refuses_of_bindScalar (f := .hidden name (.scalar t arity)) rfl hraws hne h

end

namespace RecordType

/-- Binding in place: when the values under a key have been converted, the field of the name is
    replaced.  A failure leaves the record as it is by then. -/
def bindInPlace (t : RecordType) (name : String) (params : Params) (key : String) :
    ExceptT BindError (StateM Datum) Unit := do
  match t.paramField? name with
  | none => throw (.noSuchField name)
  | some f =>
    match bindable? f with
    | none => throw (.noSuchField name)
    | some (type, arity) =>
      let value ← MonadExcept.ofExcept (bindScalar type arity params key)
      modify fun d => d.setField f.name value

/-- What an attempt to bind a field answers, and the record after it. -/
def attempt (t : RecordType) (d : Datum) (name : String) (params : Params) (key : String) :
    Except BindError Unit × Datum :=
  ((t.bindInPlace name params key).run.run d).run

/-- The field that a binding sets, and its value, as far as the parameters have one. -/
def assignment (t : RecordType) (name : String) (params : Params) (key : String) :
    Except BindError (Field × Datum) :=
  match t.paramField? name with
  | none => .error (.noSuchField name)
  | some f =>
    match bindable? f with
    | none => .error (.noSuchField name)
    | some (type, arity) => (bindScalar type arity params key).map fun value => (f, value)

variable {t : RecordType} {params params' : Params} {name name' key key' : String}
  {d d' d₁ d₂ v : Datum} {f : Field} {e : BindError}

theorem bind_eq (d : Datum) :
    t.bind d name params key =
      (t.assignment name params key).map fun set => d.setField set.1.name set.2 := by
  rw [bind, assignment]
  cases t.paramField? name with
  | none => rfl
  | some f =>
    simp only
    cases bindable? f with
    | none => rfl
    | some type =>
      simp only
      cases bindScalar type.1 type.2 params key <;> rfl

/-- Binding in place gives the record that is bound, and else leaves the one there is. -/
theorem attempt_eq (d : Datum) :
    t.attempt d name params key =
      ((t.bind d name params key).map fun _ => (), (t.bind d name params key).toOption.getD d) := by
  rw [attempt, bindInPlace, bind]
  cases t.paramField? name with
  | none => rfl
  | some f =>
    simp only
    cases bindable? f with
    | none => rfl
    | some type =>
      simp only
      cases bindScalar type.1 type.2 params key <;> rfl

/-- Binding gives the record that a successful attempt leaves. -/
theorem bind_eq_ok_iff_attempt :
    t.bind d name params key = .ok d' ↔ t.attempt d name params key = (.ok (), d') := by
  rw [attempt_eq]
  cases t.bind d name params key <;> simp [Except.map, Except.toOption]

theorem bind_eq_error_iff_attempt :
    t.bind d name params key = .error e ↔ t.attempt d name params key = (.error e, d) := by
  rw [attempt_eq]
  cases t.bind d name params key <;> simp [Except.map, Except.toOption]

/-- An attempt succeeds if the values under the key convert to one of the field, which it then
    sets. -/
theorem attempt_eq_ok_iff_converts :
    t.attempt d name params key = (.ok (), d') ↔
      ∃ f raws v, t.paramField? name = some f ∧ params.valuesOf? key = some raws ∧
        f.Converts raws v ∧ d' = d.setField f.name v :=
  bind_eq_ok_iff_attempt.symm.trans bind_eq_ok_iff

theorem attempt_of_ok (h : t.assignment name params key = .ok (f, v)) (d : Datum) :
    t.attempt d name params key = (.ok (), d.setField f.name v) := by
  rw [attempt_eq, bind_eq, h]
  rfl

theorem attempt_of_error (h : t.assignment name params key = .error e) (d : Datum) :
    t.attempt d name params key = (.error e, d) := by
  rw [attempt_eq, bind_eq, h]
  rfl

/-- An attempt succeeds if it has something to set, and sets it. -/
theorem attempt_eq_ok_iff :
    t.attempt d name params key = (.ok (), d') ↔
      ∃ f v, t.assignment name params key = .ok (f, v) ∧ d' = d.setField f.name v := by
  cases h : t.assignment name params key with
  | error e =>
    rw [attempt_of_error h]
    simp
  | ok set =>
    obtain ⟨f, v⟩ := set
    rw [attempt_of_ok h]
    simp [eq_comm]

/-- An attempt that fails changes nothing. -/
theorem attempt_eq_error_iff :
    t.attempt d name params key = (.error e, d') ↔
      t.assignment name params key = .error e ∧ d' = d := by
  cases h : t.assignment name params key with
  | error e' =>
    rw [attempt_of_error h]
    simp [eq_comm]
  | ok set =>
    obtain ⟨f, v⟩ := set
    rw [attempt_of_ok h]
    simp

/-- Whether an attempt succeeds does not depend on the record. -/
theorem attempt_fst (d d₁ : Datum) :
    (t.attempt d name params key).1 = (t.attempt d₁ name params key).1 := by
  rw [attempt_eq, attempt_eq, bind_eq, bind_eq]
  cases t.assignment name params key <;> rfl

theorem assignment_congr (h : params'.valuesOf? key' = params.valuesOf? key) :
    t.assignment name params' key' = t.assignment name params key := by
  rw [assignment, assignment]
  simp only [bindScalar_congr h]

theorem paramField?_of_assignment (h : t.assignment name params key = .ok (f, v)) :
    t.paramField? name = some f := by
  rw [assignment] at h
  split at h
  · cases h
  · rename_i f' hf
    split at h
    · cases h
    · obtain ⟨v', -, hset⟩ := Except.map_eq_ok_iff.1 h
      rw [hf, (Prod.mk.inj hset).1]

theorem assignment_of_notMem (h : name ∉ t.paramFields) :
    t.assignment name params key = .error (.noSuchField name) := by
  have hnone : t.paramField? name = none := by
    rw [Option.eq_none_iff_forall_ne_some]
    exact fun f hf => h (mem_paramFields_iff.2 ⟨f, hf⟩)
  rw [assignment, hnone]

theorem assignment_ne_noSuchField (h : name ∈ t.paramFields) (other : String) :
    t.assignment name params key ≠ .error (.noSuchField other) := by
  obtain ⟨f, hf⟩ := mem_paramFields_iff.1 h
  obtain ⟨-, -, type, arity, -, hbindable⟩ := paramField?_eq_some hf
  rw [assignment, hf]
  simp only [hbindable]
  intro herror
  cases hvalue : bindScalar type arity params key with
  | error e =>
    rw [hvalue] at herror
    obtain rfl := Except.error.inj herror
    exact bindScalar_ne_noSuchField other hvalue
  | ok v =>
    rw [hvalue] at herror
    cases herror

/-- A field for which values are given is not bound if they do not convert, and for no other
    reason. -/
theorem refuses_of_assignment {raws : List String} (hname : name ∈ t.paramFields)
    (hraws : params.valuesOf? key = some raws) (hne : raws ≠ [])
    (h : t.assignment name params key = .error e) :
    ∃ f, t.paramField? name = some f ∧ f.Refuses raws e := by
  obtain ⟨f, hf⟩ := mem_paramFields_iff.1 hname
  obtain ⟨-, -, type, arity, htype, hbindable⟩ := paramField?_eq_some hf
  rw [assignment, hf] at h
  simp only [hbindable] at h
  refine ⟨f, hf, refuses_of_bindScalar htype hraws hne ?_⟩
  cases hvalue : bindScalar type arity params key with
  | error e' =>
    rw [hvalue] at h
    exact congrArg _ (Except.error.inj h)
  | ok v =>
    rw [hvalue] at h
    cases h

/-- A binding that succeeded sets its field and no other, to a value that depends on the values
    under the key alone, and changes nothing when it is made again. -/
theorem attempt_frame (hd : t.HasFields d) (h : t.attempt d name params key = (.ok (), d')) :
    ∃ f v, t.paramField? name = some f ∧ d'.field? f.name = some v ∧
      (∀ other, other ≠ f.name → d'.field? other = d.field? other) ∧
      (∀ d₁ params' key', t.HasFields d₁ → params'.valuesOf? key' = params.valuesOf? key →
        ∃ d₂, t.attempt d₁ name params' key' = (.ok (), d₂) ∧ d₂.field? f.name = some v) ∧
      t.attempt d' name params key = (.ok (), d') := by
  obtain ⟨f, v, hset, rfl⟩ := attempt_eq_ok_iff.1 h
  have hf := paramField?_of_assignment hset
  have hmem := (paramField?_eq_some hf).1
  refine ⟨f, v, hf, hd.field?_setField hmem, fun other hother => ?_,
    fun d₁ params' key' hd₁ hvalues => ?_, ?_⟩
  · exact Datum.field?_setField_of_ne hother
  · rw [← assignment_congr hvalues] at hset
    exact ⟨_, attempt_of_ok hset d₁, hd₁.field?_setField hmem⟩
  · rw [attempt_of_ok hset, Datum.setField_setField]

/-- Attempts for different fields can be made in either order. -/
theorem attempt_comm (hdistinct : t.DistinctFields) (hname : name ≠ name') (d : Datum) :
    (t.attempt (t.attempt d name params key).2 name' params' key').2 =
      (t.attempt (t.attempt d name' params' key').2 name params key).2 := by
  cases h : t.assignment name params key with
  | error e => rw [attempt_of_error h, attempt_of_error h]
  | ok set =>
    cases h' : t.assignment name' params' key' with
    | error e => rw [attempt_of_error h', attempt_of_error h']
    | ok set' =>
      have hne : set.1.name ≠ set'.1.name := fun heq =>
        hname (paramField?_inj hdistinct (paramField?_of_assignment h)
          (paramField?_of_assignment h') heq)
      rw [attempt_of_ok h, attempt_of_ok h', attempt_of_ok h', attempt_of_ok h]
      exact Datum.setField_comm hne _ _ _

end RecordType

end Endpoint
