import Endpoint.Proofs.Rule.Evaluation
import Mathlib

/-!
# What is collected of a subject

The rules of a subject are independent of each other but for one thing: after a field whose rule
stops all later ones nothing more is looked at.  Of the others each code becomes one error, in
the order of the fields and within a field in the order of its operations.
-/

namespace Endpoint

namespace Logged

theorem value_foldlM {α β : Type} (f : β → α → Logged β) (b : β) (as : List α) :
    (as.foldlM f b).value = as.foldl (fun b a => (f b a).value) b := by
  induction as generalizing b with
  | nil => rfl
  | cons a rest ih =>
    rw [List.foldlM_cons, value_bind, List.foldl_cons]
    exact ih (f b a).value

end Logged

namespace ErrorRecord

variable {catalogue : Option Catalogue} {code : String}

/-- The error that a code stands for. -/
def meaning (catalogue : Option Catalogue) (code : String) : ServiceError :=
  (catalogue.bind (·.find? code)).getD undefinedError

theorem resolve_value : (resolve catalogue code).value = meaning catalogue code := by
  unfold resolve meaning
  cases catalogue.bind (·.find? code) with
  | none => rfl
  | some e => rfl

end ErrorRecord

namespace FieldResult

/-- The errors that the result of a field is reported by. -/
def errors (catalogue : Option Catalogue) (r : FieldResult) : List ServiceError :=
  r.codes.map fun code => { ErrorRecord.meaning catalogue code with field := some r.field }

/-- The index of the last field that is looked at: the first whose rule stops all later ones, or
    the last of all. -/
def lastIndex (results : List FieldResult) : Nat :=
  (results.findIdx? FieldResult.stopsAll).getD (results.length - 1)

/-- The results of the failing fields among those that are looked at. -/
def failing (results : List FieldResult) : List FieldResult :=
  (results.take (lastIndex results + 1)).filter (·.codes ≠ [])

theorem take_lastIndex_cons (r : FieldResult) (rest : List FieldResult) :
    (r :: rest).take (lastIndex (r :: rest) + 1) =
      r :: if r.stopsAll then [] else rest.take (lastIndex rest + 1) := by
  rw [List.take_succ_cons]
  congr 1
  unfold lastIndex
  rw [List.findIdx?_cons]
  by_cases hstops : r.stopsAll = true
  · simp [hstops]
  · rw [if_neg hstops, if_neg hstops]
    cases hfirst : rest.findIdx? FieldResult.stopsAll with
    | some i => simp
    | none =>
      -- Both take all of the rest.
      have hall : rest.length - 1 + 1 ≥ rest.length := by omega
      simp [List.take_of_length_le hall]

theorem failing_cons (r : FieldResult) (rest : List FieldResult) :
    failing (r :: rest) =
      if r.codes = [] then (if r.stopsAll then [] else failing rest)
      else r :: if r.stopsAll then [] else failing rest := by
  unfold failing
  rw [take_lastIndex_cons]
  by_cases hcodes : r.codes = []
  · rw [List.filter_cons_of_neg (by simpa using hcodes), if_pos hcodes]
    split <;> rfl
  · rw [List.filter_cons_of_pos (by simpa using hcodes), if_neg hcodes]
    split <;> rfl

end FieldResult

namespace Rule

variable {context : CheckContext} {kind : Kind} {value : Scalar} {value? : Option Scalar}
  {ops : List Operation} {codes : List String} {stopsAll : Bool}

theorem failureCodes_sublist :
    (failureCodes context value ops).Sublist (ops.filterMap Operation.code?) := by
  induction ops with
  | nil => exact .slnil
  | cons op rest ih =>
    unfold failureCodes at ih ⊢
    rw [List.filterMap_cons, List.filterMap_cons]
    by_cases hfails : op.Fails context value
    · rw [if_pos hfails]
      cases op.code? with
      | none => exact ih
      | some code => exact ih.cons_cons code
    · rw [if_neg hfails]
      cases op.code? with
      | none => exact ih
      | some code => exact ih.cons code

/-- Codes are reported in the order of the operations, and none of them twice. -/
theorem Reports.codes_sublist (h : Reports context kind ops value? codes stopsAll) :
    codes.Sublist (ops.filterMap Operation.code?) := by
  cases h with
  | @missing code hcode _ =>
    obtain ⟨rest, rfl⟩ := List.head?_eq_some_iff.1 hcode
    exact (List.nil_sublist _).cons_cons code
  | absent _ _ => exact List.nil_sublist _
  | completed _ _ => exact failureCodes_sublist
  | @halted _ before marker _ _ hhalts _ _ =>
    have hbefore : before.Sublist ops := ((List.prefix_append _ _).trans hhalts.split).sublist
    exact failureCodes_sublist.trans (hbefore.filterMap Operation.code?)

end Rule

namespace FieldValidator

variable {σ : Type} {settings : RuleSettings} {type : Subject σ} {rule : FieldRule}
  {v : FieldValidator}

/-- A rule that stands alone gives a result: its validator is built and run.  The field is named
    as in the rule, and the codes are in the order of the operations. -/
def GivesAlone (settings : RuleSettings) (type : Subject σ) (subject : σ) (rule : FieldRule)
    (result : FieldResult) : Prop :=
  ∃ v, (build settings type rule).value = .ok v ∧
    result = (v.validate type subject).value ∧
    result.field = rule.field ∧
    result.codes.Sublist (v.rule.operations.filterMap Operation.code?)

theorem givesAlone_validate (hbuild : (build settings type rule).value = .ok v) (subject : σ) :
    GivesAlone settings type subject rule (v.validate type subject).value := by
  obtain ⟨hpath, -, hparse⟩ := build_value_eq_ok_iff.1 hbuild
  have hreads := Rule.parse_eq_ok_iff_reads.1 hparse
  obtain ⟨codes, stopsAll, hreports⟩ := Rule.exists_reports ⟨type.valueAt subject, v.path⟩ v.kind
    v.rule.operations (type.valueAt subject v.path.segments)
  have hresult : (v.validate type subject).value = ⟨v.path.text, codes, stopsAll⟩ :=
    validate_of_reports (fun _ => hreads.requiredCode_eq_some_iff) hreports
  refine ⟨v, hbuild, rfl, ?_, ?_⟩
  · rw [hresult]
    exact text_of_parse hpath
  · rw [hresult]
    exact hreports.codes_sublist

theorem GivesAlone.eq_validate {subject : σ} {result : FieldResult}
    (h : GivesAlone settings type subject rule result)
    (hbuild : (build settings type rule).value = .ok v) :
    result = (v.validate type subject).value := by
  obtain ⟨v', hbuild', hresult, -⟩ := h
  rw [hbuild, Except.ok.injEq] at hbuild'
  rw [hresult, hbuild']

end FieldValidator

namespace Validator

variable {σ : Type} {settings : RuleSettings} {type : Subject σ} {rules : List FieldRule}
  {fields : List FieldValidator} {v : Validator σ} {subject : σ} {errors : ErrorRecord}

/-! ## Building -/

theorem buildFields_value_eq_ok_iff :
    (buildFields settings type rules).value = .ok fields ↔
      List.Forall₂ (fun rule field => (FieldValidator.build settings type rule).value = .ok field)
        rules fields := by
  induction rules generalizing fields with
  | nil =>
    rw [List.forall₂_nil_left_iff, buildFields, Logged.value_pure, Except.ok.injEq, eq_comm]
  | cons rule rest ih =>
    rw [List.forall₂_cons_left_iff, buildFields, Logged.value_bind]
    cases hfirst : (FieldValidator.build settings type rule).value with
    | error e => simp
    | ok first =>
      cases hrest : (buildFields settings type rest).value with
      | error e =>
        simp only [Logged.value_bind, hrest, Logged.value_pure, reduceCtorEq, false_iff]
        rintro ⟨_, later, -, hlater, -⟩
        rw [← ih, hrest] at hlater
        cases hlater
      | ok later =>
        simp only [Logged.value_bind, hrest, Logged.value_pure, Except.ok.injEq]
        constructor
        · rintro rfl
          exact ⟨first, later, rfl, ih.1 hrest, rfl⟩
        · rintro ⟨_, later', rfl, hlater, rfl⟩
          rw [← ih, hrest, Except.ok.injEq] at hlater
          rw [hlater]

/-- Validators are built for all rules, each on its own. -/
theorem build_value_eq_ok_iff :
    (build settings type rules).value = .ok v ↔
      v.type = type ∧
      List.Forall₂ (fun rule field => (FieldValidator.build settings type rule).value = .ok field)
        rules v.fields := by
  obtain ⟨type', fields⟩ := v
  rw [← buildFields_value_eq_ok_iff, build, Logged.value_bind]
  cases (buildFields settings type rules).value with
  | error e => simp
  | ok fields' => simp [eq_comm]

/-! ## Collecting -/

theorem failuresOf_value :
    (failuresOf type subject fields).value =
      FieldResult.failing (fields.map fun field => (field.validate type subject).value) := by
  induction fields with
  | nil => rfl
  | cons field rest ih =>
    rw [List.map_cons, FieldResult.failing_cons, ← ih, failuresOf]
    simp only [Logged.value_bind, FieldResult.passed, List.isEmpty_iff]
    split <;> rfl

/-- What is collected of a subject is decided by the results of the rules one by one. -/
theorem exists_results (hbuild : (build settings type rules).value = .ok v) (subject : σ) :
    ∃ results : List FieldResult,
      List.Forall₂ (FieldValidator.GivesAlone settings type subject) rules results ∧
        (v.validate subject).value = FieldResult.failing results := by
  obtain ⟨htype, hfields⟩ := build_value_eq_ok_iff.1 hbuild
  refine ⟨v.fields.map fun field => (field.validate type subject).value, ?_, ?_⟩
  · rw [List.forall₂_map_right_iff]
    refine hfields.imp fun rule field hfield => ?_
    exact FieldValidator.givesAlone_validate hfield subject
  · rw [validate, htype]
    exact failuresOf_value

theorem recordCodes_value (field : String) (codes : List String) (errors : ErrorRecord) :
    (recordCodes field codes errors).value =
      errors.addAll (codes.map fun code =>
        { ErrorRecord.meaning errors.catalogue code with field := some field }) := by
  unfold recordCodes
  rw [Logged.value_foldlM]
  induction codes generalizing errors with
  | nil => simp [ErrorRecord.addAll]
  | cons code rest ih =>
    rw [List.foldl_cons, ih]
    simp [ErrorRecord.addPredefinedFor, ErrorRecord.resolve_value, ErrorRecord.add,
      ErrorRecord.addAll]

theorem validateInto_value :
    (v.validateInto subject errors).value =
      (!(v.validate subject).value.isEmpty,
        errors.addAll ((v.validate subject).value.flatMap
          (FieldResult.errors errors.catalogue))) := by
  have hrecord : ∀ (results : List FieldResult) (errors : ErrorRecord),
      (results.foldlM (fun errors r => recordCodes r.field r.codes errors) errors).value =
        errors.addAll (results.flatMap (FieldResult.errors errors.catalogue)) := by
    intro results errors
    rw [Logged.value_foldlM]
    induction results generalizing errors with
    | nil => simp [ErrorRecord.addAll]
    | cons r rest ih =>
      rw [List.foldl_cons, ih, recordCodes_value]
      simp [ErrorRecord.addAll, FieldResult.errors]
  unfold validateInto
  simp only [Logged.value_bind, hrecord]
  split
  · rename_i hempty
    rw [hempty]
    rfl
  · rename_i hfailed
    rw [Bool.not_eq_true] at hfailed
    rw [hfailed]
    rfl

/-- Rules that are accepted are run one by one, each as if it stood alone.  The results with a
    code are collected up to the first rule that stops all later ones; each of their codes is
    added as one error about the field, named as in its rule, and nothing else of what was
    recorded before changes. -/
theorem validateInto_collects (hbuild : (build settings type rules).value = .ok v) (subject : σ)
    (errors : ErrorRecord) :
    ∃ results : List FieldResult,
      List.Forall₂ (FieldValidator.GivesAlone settings type subject) rules results ∧
      let last := (results.findIdx? (·.stopsAll)).getD (results.length - 1)
      let failing := (results.take (last + 1)).filter (·.codes ≠ [])
      let added := failing.flatMap fun result => result.codes.map fun code =>
        { ErrorRecord.meaning errors.catalogue code with field := some result.field }
      (v.validate subject).value = failing ∧
        (v.validateInto subject errors).value.2 =
          { errors with errors := errors.errors ++ added } ∧
        ((v.validateInto subject errors).value.1 = true ↔ added ≠ []) := by
  obtain ⟨results, halone, hvalue⟩ := exists_results hbuild subject
  refine ⟨results, halone, ?_⟩
  intro last failing added
  have hfailing : (v.validate subject).value = failing := hvalue
  rw [validateInto_value, hfailing]
  refine ⟨rfl, rfl, ?_⟩
  -- Every result that is collected has a code, so there is one iff an error is added.
  show (!failing.isEmpty) = true ↔ added ≠ []
  rw [Bool.not_eq_true', List.isEmpty_eq_false_iff, Ne, Ne, not_iff_not]
  constructor
  · intro hnone
    have hadded : added = [] := by
      show failing.flatMap _ = []
      rw [hnone]
      rfl
    exact hadded
  · intro hnone
    rw [List.flatMap_eq_nil_iff] at hnone
    rw [List.eq_nil_iff_forall_not_mem]
    intro result hresult
    have hcodes : result.codes ≠ [] := by simpa using (List.mem_filter.1 hresult).2
    exact hcodes (List.map_eq_nil_iff.1 (hnone result hresult))

/-- Subjects that are one number, whatever it is called. -/
def number : Subject Int := ⟨fun _ => some .int64, fun value _ => some (.int value)⟩

/-- Two rules are about one field and fail on it twice with one code.  The next stops the last
    rule, and the code that it reports is not defined. -/
theorem validateInto_collects_stopAll :
    ∃ v, (build ⟨"INVALID", []⟩ number [⟨"n", ["RANGE:5-9:BAD", "RANGE:6-9:BAD"]⟩,
        ⟨"m", ["IN:3,4:ODD"]⟩, ⟨"n", ["RANGE:5-9", "STOPALL"]⟩,
        ⟨"n", ["RANGE:7-9:LATE"]⟩]).value = .ok v ∧
      (v.validateInto 3 ⟨[⟨.http, "OLD", "old", none⟩], some Status.ok,
          some ⟨[⟨.client, "BAD", "bad"⟩], by simp⟩⟩).value.2.errors =
        [⟨.http, "OLD", "old", none⟩, ⟨.client, "BAD", "bad", some "n"⟩,
          ⟨.client, "BAD", "bad", some "n"⟩,
          ⟨.unexpected, "UNKNOWN_ERROR_CODE", "No error is defined for the requested code",
            some "n"⟩] := by
  have hpath : FieldPath.parse "n" = .ok ⟨"n", [.name "n"]⟩ := by cbv
  have hother : FieldPath.parse "m" = .ok ⟨"m", [.name "m"]⟩ := by cbv
  have hbuild : (build ⟨"INVALID", []⟩ number [⟨"n", ["RANGE:5-9:BAD", "RANGE:6-9:BAD"]⟩,
      ⟨"m", ["IN:3,4:ODD"]⟩, ⟨"n", ["RANGE:5-9", "STOPALL"]⟩, ⟨"n", ["RANGE:7-9:LATE"]⟩]).value =
        .ok ⟨number,
          [⟨⟨"n", [.name "n"]⟩, .int64, ⟨[.range (some (.int 5)) (some (.int 9)) "BAD",
              .range (some (.int 6)) (some (.int 9)) "BAD"], none⟩⟩,
            ⟨⟨"m", [.name "m"]⟩, .int64, ⟨[.oneOf [.int 3, .int 4] "ODD"], none⟩⟩,
            ⟨⟨"n", [.name "n"]⟩, .int64,
              ⟨[.range (some (.int 5)) (some (.int 9)) "INVALID", .stopAll], none⟩⟩,
            ⟨⟨"n", [.name "n"]⟩, .int64,
              ⟨[.range (some (.int 7)) (some (.int 9)) "LATE"], none⟩⟩]⟩ := by
    refine build_value_eq_ok_iff.2 ⟨rfl, .cons ?_ (.cons ?_ (.cons ?_ (.cons ?_ .nil)))⟩
    · exact FieldValidator.build_value_eq_ok_iff.2 ⟨hpath, rfl, rfl⟩
    · exact FieldValidator.build_value_eq_ok_iff.2 ⟨hother, rfl, rfl⟩
    · exact FieldValidator.build_value_eq_ok_iff.2 ⟨hpath, rfl, rfl⟩
    · exact FieldValidator.build_value_eq_ok_iff.2 ⟨hpath, rfl, rfl⟩
  refine ⟨_, hbuild, ?_⟩
  obtain ⟨results, hresults, -, hinto, -⟩ := validateInto_collects hbuild 3
    ⟨[⟨.http, "OLD", "old", none⟩], some Status.ok, some ⟨[⟨.client, "BAD", "bad"⟩], by simp⟩⟩
  obtain ⟨-, hfields⟩ := build_value_eq_ok_iff.1 hbuild
  have hall : results = [⟨"n", ["BAD", "BAD"], false⟩, ⟨"m", [], false⟩,
      ⟨"n", ["INVALID"], true⟩, ⟨"n", ["LATE"], false⟩] := by
    rcases hfields with - | ⟨h1, - | ⟨h2, - | ⟨h3, - | ⟨h4, -⟩⟩⟩⟩
    rcases hresults with - | ⟨r1, - | ⟨r2, - | ⟨r3, - | ⟨r4, ⟨⟩⟩⟩⟩⟩
    rw [r1.eq_validate h1, r2.eq_validate h2, r3.eq_validate h3, r4.eq_validate h4]
    rfl
  rw [hinto, hall]
  rfl

end Validator

end Endpoint
