import Endpoint.Proofs.Param.Attempt
import Endpoint.Proofs.Request.Binding

/-!
# What attempts leave

Binding the parameters of a path or of a query is a run of attempts (`RecordType.Attempts`), each
for one field from the values under one key.  It does not stop at those that fail: every one of
them is reported, in order, and every field is left with the value of the last attempt to bind it
that succeeded.
-/

namespace Endpoint

/-- Parameters as requests have them. -/
inductive Params.Made : Params → Prop
  | pairs (pairs : List (String × String)) : Made (ofPairs pairs)
  | path (targets captured : List String) : Made (ofPath targets captured)

/-- A key that parameters are filed under has a value. -/
theorem Params.Made.ne_nil {params : Params} {key : String} {raws : List String}
    (h : params.Made) (hraws : params.valuesOf? key = some raws) : raws ≠ [] := by
  cases h with
  | pairs pairs =>
    rw [valuesOf?_ofPairs] at hraws
    split at hraws
    · cases hraws
    · obtain rfl := Option.some.inj hraws
      assumption
  | path targets captured =>
    obtain ⟨entry, hentry, rfl⟩ := Option.map_eq_some_iff.1 hraws
    obtain ⟨⟨text, i⟩, -, rfl⟩ := List.mem_map.1 (List.mem_of_find?_eq_some hentry)
    exact List.cons_ne_nil _ _

namespace RecordType

/-- Fields of a record are attempted one after another from the values under keys; each failure is
    reported and changes nothing. -/
inductive Attempts (t : RecordType) (params : Params)
    (report : String × String → BindError → Fault → Prop) :
    List (String × String) → Datum → Datum → List Fault → Prop
  | nil {d : Datum} : Attempts t params report [] d d []
  | succeed {target : String × String} {rest : List (String × String)} {d d' bound : Datum}
      {faults : List Fault} :
      t.attempt d target.1 params target.2 = (.ok (), d') →
      Attempts t params report rest d' bound faults →
      Attempts t params report (target :: rest) d bound faults
  | fail {target : String × String} {rest : List (String × String)} {d bound : Datum}
      {e : BindError} {fault : Fault} {faults : List Fault} :
      t.attempt d target.1 params target.2 = (.error e, d) → report target e fault →
      Attempts t params report rest d bound faults →
      Attempts t params report (target :: rest) d bound (fault :: faults)

/-- Whether an attempt to bind a field of a record succeeds. -/
def succeeds (t : RecordType) (params : Params) (d : Datum) (target : String × String) : Bool :=
  (t.attempt d target.1 params target.2).1.isOk

/-- An attempt is for a field, and succeeds. -/
def Sets (t : RecordType) (params : Params) (d : Datum) (f : Field)
    (target : String × String) : Prop :=
  t.paramField? target.1 = some f ∧ t.succeeds params d target = true

/-- Every field holds the value of the last attempt to bind it that succeeded, and is as it was
    where none did. -/
structure HoldsLast (t : RecordType) (params : Params) (attempts : List (String × String))
    (d bound : Datum) : Prop where
  fields : t.HasFields bound
  kept : ∀ name, (∀ target ∈ attempts, ∀ f, t.Sets params d f target → f.name ≠ name) →
    bound.field? name = d.field? name
  last : ∀ f i target, IsLast (t.Sets params d f) attempts i target →
    ∃ raws v, params.valuesOf? target.2 = some raws ∧ f.Converts raws v ∧
      (t.attempt d target.1 params target.2).2.field? f.name = some v ∧
      bound.field? f.name = some v

/-- Faults are reported for the attempts that fail, one for each and in their order. -/
def Reported (t : RecordType) (params : Params) (attempts : List (String × String)) (d : Datum)
    (report : String × String → BindError → Fault → Prop) (faults : List Fault) : Prop :=
  List.Forall₂
    (fun target fault =>
      ∃ e, (t.attempt d target.1 params target.2).1 = .error e ∧ report target e fault)
    (attempts.filter fun target => !t.succeeds params d target) faults

variable {t : RecordType} {params : Params} {report : String × String → BindError → Fault → Prop}
  {attempts : List (String × String)} {target : String × String} {d d' bound : Datum}
  {faults : List Fault} {e : BindError}

theorem succeeds_iff :
    t.succeeds params d target = true ↔ (t.attempt d target.1 params target.2).1 = .ok () := by
  rw [succeeds]
  cases (t.attempt d target.1 params target.2).1 <;> simp [Except.isOk, Except.toBool]

/-- Whether an attempt succeeds can be said of any record. -/
theorem succeeds_of_ok (h : t.attempt d target.1 params target.2 = (.ok (), d')) (d₀ : Datum) :
    t.succeeds params d₀ target = true :=
  succeeds_iff.2 ((attempt_fst d₀ d).trans (congrArg Prod.fst h))

theorem succeeds_of_error (h : t.attempt d target.1 params target.2 = (.error e, d'))
    (d₀ : Datum) : t.succeeds params d₀ target = false := by
  rw [succeeds, attempt_fst d₀ d, h]
  rfl

namespace Attempts

/-- The attempts that succeed bind their fields, one after another. -/
theorem binds (h : t.Attempts params report attempts d bound faults) (d₀ : Datum) :
    t.bodyBinding.Binds params (attempts.filter (t.succeeds params d₀)) d bound := by
  induction h with
  | nil => exact .nil
  | succeed hfirst _ ih =>
    rw [List.filter_cons_of_pos (succeeds_of_ok hfirst d₀)]
    exact .cons (bind_eq_ok_iff_attempt.2 hfirst) ih
  | fail hfirst _ _ ih =>
    rw [List.filter_cons_of_neg (Bool.eq_false_iff.1 (succeeds_of_error hfirst d₀))]
    exact ih

theorem reported (h : t.Attempts params report attempts d bound faults) (d₀ : Datum) :
    t.Reported params attempts d₀ report faults := by
  induction h with
  | nil => exact .nil
  | succeed hfirst _ ih =>
    rw [Reported, List.filter_cons_of_neg (by simp [succeeds_of_ok hfirst d₀])]
    exact ih
  | fail hfirst hreport _ ih =>
    have herror := (attempt_fst d₀ _).trans (congrArg Prod.fst hfirst)
    rw [Reported, List.filter_cons_of_pos (by simp [succeeds_of_error hfirst d₀])]
    exact .cons ⟨_, herror, hreport⟩ ih

theorem holdsLast (h : t.Attempts params report attempts d bound faults)
    (hdistinct : t.DistinctFields) (hd : t.HasFields d) :
    t.HoldsLast params attempts d bound where
  fields := hd.of_binds (h.binds d)
  kept := by
    intro name hother
    refine field?_of_binds (h.binds d) fun target htarget g hg => ?_
    obtain ⟨hmem, hsucceeds⟩ := List.mem_filter.1 htarget
    exact hother target hmem g ⟨hg, hsucceeds⟩
  last := by
    intro f i target hlast
    obtain ⟨hf, hsucceeds⟩ := hlast.holds
    obtain ⟨before, after, rfl, hlater⟩ := hlast.exists_append
    have hbinds := h.binds d
    rw [List.filter_append, List.filter_cons_of_pos hsucceeds] at hbinds
    have hnone : ∀ other ∈ after.filter (t.succeeds params d), other.1 ≠ target.1 := by
      intro other hother hname
      obtain ⟨hmem, hother⟩ := List.mem_filter.1 hother
      exact hlater other hmem ⟨hname ▸ hf, hother⟩
    obtain ⟨raws, v, hraws, hconverts, hbound⟩ :=
      field?_of_binds_last hdistinct hd hbinds hf hnone
    refine ⟨raws, v, hraws, hconverts, ?_, hbound⟩
    -- by itself, too, the attempt sets the field to the value that these texts convert to
    obtain ⟨d', hattempt⟩ : ∃ d', t.attempt d target.1 params target.2 = (.ok (), d') :=
      ⟨_, Prod.ext (succeeds_iff.1 hsucceeds) rfl⟩
    obtain ⟨g, raws', w, hg, hraws', hw, rfl⟩ := attempt_eq_ok_iff_converts.1 hattempt
    obtain rfl := Option.some.inj (hf.symm.trans hg)
    obtain rfl := Option.some.inj (hraws.symm.trans hraws')
    rw [hattempt, hw.unique hconverts]
    exact hd.field?_setField (paramField?_eq_some hf).1

end Attempts

/-! ## The parameters of a request -/

open BodyBinding

variable {book : MessageBook} {targets : List (String × String)}

/-- The query targets whose parameter is given. -/
def queryAttempts (params : Params) (targets : List (String × String)) : List (String × String) :=
  targets.filter fun target => params.contains target.2

/-- The fields that the texts of a path are for, each with its position. -/
def pathAttempts (params : Params) : List (String × String) :=
  params.names.zipIdx.map fun (field, i) => (field, toString i)

/-- How a query parameter that cannot be bound is reported. -/
def QueryReport (book : MessageBook) (params : Params) (target : String × String) (e : BindError)
    (fault : Fault) : Prop :=
  ∃ event args, queryFaultEvent? target.2 e = some (event, args) ∧
    (queryFault book params target.1 target.2 event args).value = fault

/-- How a text of a path that cannot be bound is reported. -/
def PathReport (book : MessageBook) (params : Params) (target : String × String) (e : BindError)
    (fault : Fault) : Prop :=
  ∃ i, target.2 = toString i ∧ (pathFault book params i target.1 e).value = fault

/-- Binding a query attempts the targets whose parameter is given. -/
theorem attempts_bindQuery (hmade : params.Made) (d : Datum) (targets : List (String × String)) :
    t.Attempts params (QueryReport book params) (queryAttempts params targets) d
      (t.bodyBinding.bindQuery book params d targets).value.1
      (t.bodyBinding.bindQuery book params d targets).value.2 := by
  induction targets generalizing d with
  | nil => exact .nil
  | cons target rest ih =>
    obtain ⟨field, param⟩ := target
    rw [queryAttempts, bindQuery, List.filter_cons]
    by_cases hgiven : params.contains param = true
    · simp only [hgiven, if_true]
      cases hbind : t.bodyBinding.bind d field params param with
      | ok d' => exact .succeed (bind_eq_ok_iff_attempt.1 hbind) (ih d')
      | error e =>
        -- no value is missing under a key that is there
        have hne : e ≠ .missing := by
          rintro rfl
          obtain ⟨raws, hraws⟩ := Option.isSome_iff_exists.1 hgiven
          exact bind_ne_missing hraws (hmade.ne_nil hraws) hbind
        cases hevent : queryFaultEvent? param e with
        | none => cases e <;> simp [queryFaultEvent?] at hevent hne
        | some event =>
          obtain ⟨event, args⟩ := event
          simp only [hevent, Logged.value_bind, Logged.value_pure]
          exact .fail (bind_eq_error_iff_attempt.1 hbind) ⟨event, args, hevent, rfl⟩ (ih d)
    · simp only [hgiven]
      exact ih d

theorem attempts_bindPathFrom (d : Datum) (position : Nat) (fields : List String) :
    t.Attempts params (PathReport book params)
      ((fields.zipIdx position).map fun (field, i) => (field, toString i)) d
      (t.bodyBinding.bindPathFrom book params d position fields).value.1
      (t.bodyBinding.bindPathFrom book params d position fields).value.2 := by
  induction fields generalizing d position with
  | nil => exact .nil
  | cons field rest ih =>
    rw [List.zipIdx_cons, List.map_cons, bindPathFrom]
    cases hbind : t.bodyBinding.bind d field params (toString position) with
    | ok d' => exact .succeed (bind_eq_ok_iff_attempt.1 hbind) (ih d' (position + 1))
    | error e =>
      exact .fail (bind_eq_error_iff_attempt.1 hbind) ⟨position, rfl, rfl⟩ (ih d (position + 1))

/-- Binding a field either fails and changes nothing, or sets this field alone, to the value that
    the texts under the key convert to, whatever the record holds; only a name that is for no field
    is refused for want of one, and two fields can be bound in either order.  So the parameters of
    a query or a path leave every field with the value of the last binding of it that succeeded,
    and each binding that fails is reported once, in order. -/
theorem bindings_atomic_framed_commuting (hdistinct : t.DistinctFields) (hd : t.HasFields d)
    (params : Params) (book : MessageBook) :
    (∀ name key d', t.bind d name params key = .ok d' ↔
      t.attempt d name params key = (.ok (), d')) ∧
    (∀ name key e, t.bind d name params key = .error e ↔
      t.attempt d name params key = (.error e, d)) ∧
    (∀ name key d', t.attempt d name params key = (.ok (), d') ↔
      ∃ f raws v, t.paramField? name = some f ∧ params.valuesOf? key = some raws ∧
        f.Converts raws v ∧ d' = d.setField f.name v) ∧
    (∀ name key e d', t.attempt d name params key = (.error e, d') → d' = d) ∧
    (∀ name key d', t.attempt d name params key = (.ok (), d') →
      ∃ f v, t.paramField? name = some f ∧ d'.field? f.name = some v ∧
        (∀ other, other ≠ f.name → d'.field? other = d.field? other) ∧
        (∀ d₁ params' key', t.HasFields d₁ → params'.valuesOf? key' = params.valuesOf? key →
          ∃ d₂, t.attempt d₁ name params' key' = (.ok (), d₂) ∧ d₂.field? f.name = some v) ∧
        t.attempt d' name params key = (.ok (), d')) ∧
    (∀ name key, name ∉ t.paramFields →
      t.attempt d name params key = (.error (.noSuchField name), d)) ∧
    (∀ name key other, name ∈ t.paramFields →
      (t.attempt d name params key).1 ≠ .error (.noSuchField other)) ∧
    (∀ name key name' params' key', name ≠ name' →
      (t.attempt (t.attempt d name' params' key').2 name params key).1 =
        (t.attempt d name params key).1 ∧
      (t.attempt (t.attempt d name params key).2 name' params' key').1 =
        (t.attempt d name' params' key').1 ∧
      (t.attempt (t.attempt d name params key).2 name' params' key').2 =
        (t.attempt (t.attempt d name' params' key').2 name params key).2) ∧
    (∀ targets bound faults, params.Made →
      (t.bodyBinding.bindQuery book params d targets).value = (bound, faults) →
      t.HoldsLast params (queryAttempts params targets) d bound ∧
        t.Reported params (queryAttempts params targets) d (QueryReport book params) faults) ∧
    (∀ bound faults, (t.bodyBinding.bindPath book params d).value = (bound, faults) →
      t.HoldsLast params (pathAttempts params) d bound ∧
        t.Reported params (pathAttempts params) d (PathReport book params) faults) := by
  refine ⟨fun _ _ _ => bind_eq_ok_iff_attempt, fun _ _ _ => bind_eq_error_iff_attempt,
    fun _ _ _ => attempt_eq_ok_iff_converts, fun _ _ _ _ h => (attempt_eq_error_iff.1 h).2,
    fun _ _ _ => attempt_frame hd,
    fun _ _ hname => attempt_of_error (assignment_of_notMem hname) d, ?_, ?_, ?_, ?_⟩
  · intro name key other hname herror
    exact assignment_ne_noSuchField hname other
      (attempt_eq_error_iff.1 (Prod.ext herror rfl)).1
  · intro name key name' params' key' hne
    exact ⟨attempt_fst _ _, attempt_fst _ _, attempt_comm hdistinct hne d⟩
  · intro targets bound faults hmade hrun
    have hattempts : t.Attempts params (QueryReport book params) (queryAttempts params targets) d
        (t.bodyBinding.bindQuery book params d targets).value.1
        (t.bodyBinding.bindQuery book params d targets).value.2 :=
      attempts_bindQuery hmade d targets
    rw [hrun] at hattempts
    exact ⟨hattempts.holdsLast hdistinct hd, hattempts.reported d⟩
  · intro bound faults hrun
    have hattempts : t.Attempts params (PathReport book params) (pathAttempts params) d
        (t.bodyBinding.bindPath book params d).value.1
        (t.bodyBinding.bindPath book params d).value.2 :=
      attempts_bindPathFrom d 0 params.names
    rw [hrun] at hattempts
    exact ⟨hattempts.holdsLast hdistinct hd, hattempts.reported d⟩

/-- The second of two values for a field stays there, though a later attempt for the field fails. -/
theorem bindings_atomic_framed_commuting_repeated :
    ∃ (t : RecordType) (d bound : Datum) (params : Params) (faults : List Fault),
      t.DistinctFields ∧ t.HasFields d ∧ params.Made ∧
      (t.bodyBinding.bindQuery .builtin params d
        [("name", "first"), ("name", "second"), ("name", "both"), ("page", "first")]).value =
          (bound, faults) ∧
      bound.field? "name" = some (.scalar (.text "2")) ∧ faults.length = 2 := by
  let t : RecordType :=
    ⟨⟨[("search", [.bindable "name" (.one .text), .bindable "tags" (.many .text)])]⟩, "search"⟩
  let d : Datum := .record [("name", .scalar (.text "")), ("tags", .list [])]
  let params : Params := .ofPairs [("first", "1"), ("second", "2"), ("both", "1"), ("both", "2")]
  have hdistinct : t.DistinctFields := by
    simp [t, DistinctFields, fields, Schema.fields, Field.bindable]
  have hd : t.HasFields d := by
    simp [t, d, HasFields, fields, Schema.fields, Field.bindable, Datum.field?]
  have hmade : params.Made := .pairs _
  obtain ⟨-, -, -, -, -, -, -, -, hquery, -⟩ :=
    bindings_atomic_framed_commuting hdistinct hd params .builtin
  obtain ⟨⟨bound, faults⟩, hrun⟩ : ∃ run, (t.bodyBinding.bindQuery .builtin params d
      [("name", "first"), ("name", "second"), ("name", "both"), ("page", "first")]).value = run :=
    ⟨_, rfl⟩
  obtain ⟨hholds, hreported⟩ := hquery _ _ _ hmade hrun
  refine ⟨t, d, bound, params, faults, hdistinct, hd, hmade, hrun, ?_, hreported.length_eq.symm⟩
  -- two values are refused for a field that holds one, so the second attempt is the last
  have hlast : IsLast (t.Sets params d (.bindable "name" (.one .text)))
      (queryAttempts params
        [("name", "first"), ("name", "second"), ("name", "both"), ("page", "first")])
      1 ("name", "second") := by
    refine ⟨rfl, ⟨rfl, rfl⟩, fun j target hj htarget hsucceeds => ?_⟩
    obtain rfl | rfl | hpast : j = 2 ∨ j = 3 ∨ 4 ≤ j := by omega
    · obtain rfl := Option.some.inj htarget
      cases hsucceeds.2
    · obtain rfl := Option.some.inj htarget
      cases hsucceeds.1
    · rw [List.getElem?_eq_none hpast] at htarget
      cases htarget
  obtain ⟨raws, v, -, -, hset, hbound⟩ := hholds.last _ _ _ hlast
  exact hbound.trans (hset.symm.trans rfl)

end RecordType

end Endpoint
