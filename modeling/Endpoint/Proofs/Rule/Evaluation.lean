import Endpoint.Proofs.Rule.Acceptance
import Endpoint.Rule.Validator
import Mathlib.Data.List.Induction
import Mathlib.Data.Nat.Find

/-!
# What a rule says of a value

The operations of a rule run in order, but what they report can be read off the rule without
running it: the codes of the checks that fail before the first `BREAK` or `STOPALL` with a
failing check before it.
-/

namespace Endpoint

namespace Operation

/-- When an operation accepts a present value.  A checker has to say so; one that reaches no
    verdict does not.  Operations that check nothing accept every value. -/
def Accepts (context : CheckContext) (value : Scalar) : Operation → Prop
  | oneOf members _ => ∃ member ∈ members, value.compare? member = some .eq
  | range least greatest _ =>
    (∀ b ∈ least, value.compare? b = some .gt ∨ value.compare? b = some .eq) ∧
      ∀ b ∈ greatest, value.compare? b = some .lt ∨ value.compare? b = some .eq
  | length least greatest _ =>
    ∃ s, value = .text s ∧ (∀ n ∈ least, n ≤ s.length) ∧ ∀ n ∈ greatest, s.length ≤ n
  | pattern _ program _ => ∃ s, value = .text s ∧ program.isMatch s = true
  | flag expected _ => value = .bool expected
  | external _ checker _ => checker.check context value = .ok true
  | required _ | stopField | stopAll => True

/-- An operation fails on a value that it does not accept. -/
def Fails (context : CheckContext) (value : Scalar) (op : Operation) : Prop :=
  ¬ op.Accepts context value

/-- `BREAK` and `STOPALL` only mark where to stop. -/
def IsMarker (op : Operation) : Prop := op = .stopField ∨ op = .stopAll

variable {context : CheckContext} {value : Scalar} {op : Operation}

theorem sameAs_iff {a b : Scalar} : a.sameAs b = true ↔ a.compare? b = some .eq := by
  rw [Scalar.sameAs, beq_iff_eq]

theorem atLeast_iff {a b : Scalar} :
    a.atLeast b = true ↔ a.compare? b = some .gt ∨ a.compare? b = some .eq := by
  rw [Scalar.atLeast, Bool.or_eq_true, beq_iff_eq, beq_iff_eq]

theorem atMost_iff {a b : Scalar} :
    a.atMost b = true ↔ a.compare? b = some .lt ∨ a.compare? b = some .eq := by
  rw [Scalar.atMost, Bool.or_eq_true, beq_iff_eq, beq_iff_eq]

/-- A bound that is left out holds. -/
theorem getD_map_iff {α : Type} {p : α → Bool} {bound : Option α} :
    (bound.map p).getD true = true ↔ ∀ b ∈ bound, p b = true := by
  cases bound with
  | none => simp
  | some b => simp

/-- The check of an operation passes for the values it accepts. -/
theorem check_value_iff : (op.check context value).value = true ↔ op.Accepts context value := by
  cases op with
  | oneOf members code =>
    simp only [check, Logged.value_pure, List.any_eq_true, sameAs_iff]
    exact Iff.rfl
  | range least greatest code =>
    simp only [check, Logged.value_pure, Bool.and_eq_true, getD_map_iff, atLeast_iff, atMost_iff]
    exact Iff.rfl
  | length least greatest code =>
    cases value with
    | text s =>
      simp only [check, Logged.value_pure, Bool.and_eq_true, getD_map_iff, decide_eq_true_eq]
      constructor
      · intro h
        exact ⟨s, rfl, h⟩
      · rintro ⟨_, ⟨⟩, h⟩
        exact h
    | _ => simp [check, Accepts]
  | pattern source program code =>
    cases value with
    | text s =>
      constructor
      · intro h
        exact ⟨s, rfl, h⟩
      · rintro ⟨_, ⟨⟩, h⟩
        exact h
    | _ => simp [check, Accepts]
  | flag expected code => simp [check, Accepts]
  | external name checker code =>
    rw [Accepts, check]
    cases checker.check context value with
    | ok verdict => simp
    | error reason => simp
  | required code => simp [check, Accepts]
  | stopField => simp [check, Accepts]
  | stopAll => simp [check, Accepts]

instance : Decidable (op.Accepts context value) := decidable_of_iff _ check_value_iff

instance : Decidable (op.Fails context value) := inferInstanceAs (Decidable (¬ _))

theorem IsMarker.not_fails (h : op.IsMarker) : ¬ op.Fails context value := by
  rcases h with rfl | rfl
  · exact fun hfails => hfails trivial
  · exact fun hfails => hfails trivial

/-- Only operations that report a code can fail. -/
theorem Fails.code_isSome (h : op.Fails context value) : ∃ code, op.code? = some code := by
  cases op with
  | stopField => exact absurd trivial h
  | stopAll => exact absurd trivial h
  | _ => exact ⟨_, rfl⟩

end Operation

namespace Rule

/-- The codes of the failing checks of some operations, in their order. -/
def failureCodes (context : CheckContext) (value : Scalar) (ops : List Operation) : List String :=
  ops.filterMap fun op => if op.Fails context value then op.code? else none

/-- Some operations reach a marker after `before` with a failing check before it. -/
structure HaltsAfter (context : CheckContext) (value : Scalar) (ops before : List Operation)
    (marker : Operation) : Prop where
  split : before ++ [marker] <+: ops
  isMarker : marker.IsMarker
  failed : ∃ op ∈ before, op.Fails context value

/-- What counts as a missing value of a field: none, and for a kind that is not nilable also
    the zero of its type. -/
inductive Missing (kind : Kind) : Option Scalar → Prop
  | absent : Missing kind none
  | int : kind.isNilable = false → Missing kind (some (.int 0))
  | uint : kind.isNilable = false → Missing kind (some (.uint 0))
  | float {negative : Bool} : kind.isNilable = false → Missing kind (some (.float ⟨negative, 0⟩))
  | text : kind.isNilable = false → Missing kind (some (.text ""))

/-- The operations on a field are run on a value: it is present and does not count as missing
    where a `REQ` asks for it. -/
structure Runs (kind : Kind) (ops : List Operation) (value? : Option Scalar) (value : Scalar) :
    Prop where
  present : value? = some value
  kept : ∀ code, ops.head? = some (.required code) → ¬ Missing kind value?

/-- What the operations on a field report of a value: codes, and whether later fields are left
    out. -/
inductive Reports (context : CheckContext) (kind : Kind) (ops : List Operation)
    (value? : Option Scalar) : List String → Bool → Prop
  /-- a `REQ` reports a missing value and nothing else -/
  | missing {code : String} : ops.head? = some (.required code) → Missing kind value? →
      Reports context kind ops value? [code] false
  /-- without a `REQ` an absent value is accepted -/
  | absent : (∀ code, ops.head? ≠ some (.required code)) → value? = none →
      Reports context kind ops value? [] false
  /-- every failing check is reported if there is no place to halt -/
  | completed {value : Scalar} : Runs kind ops value? value →
      (∀ b m, ¬ HaltsAfter context value ops b m) →
      Reports context kind ops value? (failureCodes context value ops) false
  /-- only the failing checks before the first place to halt are reported -/
  | halted {value : Scalar} {before : List Operation} {marker : Operation} {stopsAll : Bool} :
      Runs kind ops value? value → HaltsAfter context value ops before marker →
      (∀ b m, HaltsAfter context value ops b m → before <+: b) →
      (stopsAll = true ↔ marker = .stopAll) →
      Reports context kind ops value? (failureCodes context value before) stopsAll

variable {context : CheckContext} {value : Scalar} {ops before rest : List Operation}
  {op marker : Operation}

@[simp] theorem failureCodes_append :
    failureCodes context value (ops ++ rest) =
      failureCodes context value ops ++ failureCodes context value rest :=
  List.filterMap_append

theorem failureCodes_eq_nil_iff :
    failureCodes context value ops = [] ↔ ∀ op ∈ ops, ¬ op.Fails context value := by
  rw [failureCodes, List.filterMap_eq_nil_iff]
  constructor
  · intro h op hop hfails
    obtain ⟨code, hcode⟩ := hfails.code_isSome
    have hnone := h op hop
    rw [if_pos hfails, hcode] at hnone
    simp at hnone
  · intro h op hop
    rw [if_neg (h op hop)]

theorem countsAsMissing_iff {kind : Kind} :
    FieldValidator.countsAsMissing kind value = true ↔ Missing kind (some value) := by
  rw [FieldValidator.countsAsMissing, Bool.and_eq_true, Bool.not_eq_true']
  constructor
  · rintro ⟨hkind, hzero⟩
    cases value with
    | bool b => simp [Scalar.isZero] at hzero
    | int i =>
      obtain rfl : i = 0 := by simpa [Scalar.isZero] using hzero
      exact .int hkind
    | uint n =>
      obtain rfl : n = 0 := by simpa [Scalar.isZero] using hzero
      exact .uint hkind
    | float x =>
      obtain ⟨negative, magnitude⟩ := x
      obtain rfl : magnitude = 0 := by simpa [Scalar.isZero, Binary64.isZero] using hzero
      exact .float hkind
    | text s =>
      obtain rfl : s = "" := by simpa [Scalar.isZero] using hzero
      exact .text hkind
  · intro h
    cases h with
    | int hkind => exact ⟨hkind, rfl⟩
    | uint hkind => exact ⟨hkind, rfl⟩
    | float hkind => exact ⟨hkind, rfl⟩
    | text hkind => exact ⟨hkind, rfl⟩

/-! ## Running the operations -/

open FieldValidator (run)

/-- A check adds its code if it fails. -/
theorem run_cons_check {codes : List String} (hop : ¬ op.IsMarker) :
    (run context value codes (op :: rest)).value =
      (run context value (codes ++ failureCodes context value [op]) rest).value := by
  have hcodes : (if (op.check context value).value then codes else codes ++ op.code?.toList) =
      codes ++ failureCodes context value [op] := by
    by_cases haccepts : op.Accepts context value
    · have hpasses := Operation.check_value_iff.2 haccepts
      have hnone : failureCodes context value [op] = [] :=
        failureCodes_eq_nil_iff.2 (by simpa [Operation.Fails] using haccepts)
      rw [if_pos hpasses, hnone, List.append_nil]
    · have hfails : op.Fails context value := haccepts
      obtain ⟨code, hcode⟩ := hfails.code_isSome
      rw [if_neg (Operation.check_value_iff.not.2 haccepts)]
      simp [failureCodes, hfails, hcode]
  cases op with
  | stopField => exact absurd (.inl rfl) hop
  | stopAll => exact absurd (.inr rfl) hop
  | _ => simp only [run, Logged.value_bind, hcodes]

/-- A marker does nothing as long as no check has failed. -/
theorem run_cons_marker_of_nil (hop : op.IsMarker) :
    (run context value [] (op :: rest)).value = (run context value [] rest).value := by
  rcases hop with rfl | rfl
  · rfl
  · rfl

/-- A marker ends the run once a check has failed. -/
theorem run_cons_marker_of_ne_nil {codes : List String} (hop : op.IsMarker) (hcodes : codes ≠ []) :
    (run context value codes (op :: rest)).value.1 = codes ∧
      ((run context value codes (op :: rest)).value.2 = true ↔ op = .stopAll) := by
  have hempty : codes.isEmpty = false := by simpa using hcodes
  rcases hop with rfl | rfl
  · simp [run, hempty]
  · simp [run, hempty]

theorem HaltsAfter.append (h : HaltsAfter context value ops before marker) :
    HaltsAfter context value (ops ++ rest) before marker where
  split := h.split.trans (List.prefix_append _ _)
  isMarker := h.isMarker
  failed := h.failed

/-- Up to where the run may halt it collects the codes of the failing checks. -/
theorem run_append (h : ∀ b m, ¬ HaltsAfter context value ops b m) :
    (run context value [] (ops ++ rest)).value =
      (run context value (failureCodes context value ops) rest).value := by
  induction ops using List.reverseRecOn generalizing rest with
  | nil => rfl
  | append_singleton ops op ih =>
    have hops : ∀ b m, ¬ HaltsAfter context value ops b m := fun b m hb => h b m hb.append
    rw [List.append_assoc, List.singleton_append, ih hops, failureCodes_append]
    by_cases hop : op.IsMarker
    · -- nothing has failed before the marker, or the run would halt there
      have hnone : ∀ o ∈ ops, ¬ o.Fails context value := by
        intro o ho hfails
        exact h ops op ⟨List.prefix_rfl, hop, o, ho, hfails⟩
      have hmarker : ∀ o ∈ [op], ¬ o.Fails context value := by
        intro o ho
        rw [List.mem_singleton.1 ho]
        exact hop.not_fails
      rw [failureCodes_eq_nil_iff.2 hnone, failureCodes_eq_nil_iff.2 hmarker,
        run_cons_marker_of_nil hop, List.append_nil]
    · exact run_cons_check hop

/-- Without a place to halt the run reports every failing check. -/
theorem run_of_not_halts (h : ∀ b m, ¬ HaltsAfter context value ops b m) :
    (run context value [] ops).value = (failureCodes context value ops, false) := by
  have hrun : (run context value [] (ops ++ [])).value = _ := run_append h
  rw [List.append_nil] at hrun
  rw [hrun]
  rfl

/-- The run halts at the first marker with a failing check before it. -/
theorem run_of_first_halt (h : HaltsAfter context value ops before marker)
    (hfirst : ∀ b m, HaltsAfter context value ops b m → before <+: b) :
    (run context value [] ops).value.1 = failureCodes context value before ∧
      ((run context value [] ops).value.2 = true ↔ marker = .stopAll) := by
  obtain ⟨rest, rfl⟩ := h.split
  have hbefore : ∀ b m, ¬ HaltsAfter context value before b m := by
    intro b m hb
    have hle := (hfirst b m (hb.append.append)).length_le
    have hlt := hb.split.length_le
    rw [List.length_append, List.length_singleton] at hlt
    omega
  have hcodes : failureCodes context value before ≠ [] := by
    intro hnil
    obtain ⟨op, hop, hfails⟩ := h.failed
    exact failureCodes_eq_nil_iff.1 hnil op hop hfails
  rw [List.append_assoc, run_append hbefore]
  exact run_cons_marker_of_ne_nil h.isMarker hcodes

/-- Where a run can halt at all, there is a first place where it does. -/
theorem HaltsAfter.exists_first (h : HaltsAfter context value ops before marker) :
    ∃ b m, HaltsAfter context value ops b m ∧
      ∀ b' m', HaltsAfter context value ops b' m' → b <+: b' := by
  classical
  have hexists : ∃ n b m, HaltsAfter context value ops b m ∧ b.length = n :=
    ⟨_, before, marker, h, rfl⟩
  obtain ⟨b, m, hb, hlength⟩ := Nat.find_spec hexists
  refine ⟨b, m, hb, ?_⟩
  intro b' m' hb'
  have hle : b.length ≤ b'.length := hlength ▸ Nat.find_min' hexists ⟨b', m', hb', rfl⟩
  exact List.prefix_of_prefix_length_le ((List.prefix_append _ _).trans hb.split)
    ((List.prefix_append _ _).trans hb'.split) hle

/-- A place to halt without markers before it is the first one. -/
theorem HaltsAfter.first_of_not_markers (h : HaltsAfter context value ops before marker)
    (hplain : ∀ op ∈ before, ¬ op.IsMarker) (b : List Operation) (m : Operation)
    (hb : HaltsAfter context value ops b m) : before <+: b := by
  have hbefore : before <+: ops := (List.prefix_append _ _).trans h.split
  rcases List.prefix_or_prefix_of_prefix hb.split hbefore with hle | hle
  · have hm : m ∈ before := hle.subset (by simp)
    exact absurd hb.isMarker (hplain m hm)
  · rcases List.prefix_concat_iff.1 hle with heq | hle
    · have hm : m ∈ before := by simp [heq]
      exact absurd hb.isMarker (hplain m hm)
    · exact hle

/-- No check after a place to halt adds a code. -/
theorem run_prefix (h : HaltsAfter context value ops before marker) :
    (run context value [] ops).value.1 <+: failureCodes context value before := by
  obtain ⟨b, m, hb, hfirst⟩ := h.exists_first
  rw [(run_of_first_halt hb hfirst).1]
  obtain ⟨rest, rfl⟩ := hfirst before marker h
  rw [failureCodes_append]
  exact List.prefix_append _ _

/-- The code for a missing value is that of a `REQ` that comes first. -/
theorem Reads.requiredCode_eq_some_iff {settings : RuleSettings} {kind : Kind}
    {tokens : List String} {rule : Rule} {code : String} (h : Reads settings kind tokens rule) :
    rule.requiredCode = some code ↔ rule.operations.head? = some (.required code) := by
  cases h with
  | required _ _ _ => simp
  | plain hne hreads hnone =>
    constructor
    · intro hcode
      simp at hcode
    · intro hhead
      cases hreads with
      | nil => exact absurd rfl hne
      | @cons token op _ _ hop _ =>
        obtain rfl : op = .required code := by simpa using hhead
        exact absurd (hop.isRequired_iff.2 rfl) (hnone token List.mem_cons_self)

end Rule

namespace FieldValidator

variable {σ : Type} {settings : RuleSettings} {type : Subject σ} {rule : FieldRule}
  {v : FieldValidator}

theorem text_of_parse {text : String} {path : FieldPath} (h : FieldPath.parse text = .ok path) :
    path.text = text := by
  rw [FieldPath.parse] at h
  split at h
  · simp at h
  · obtain ⟨segments, -, rfl⟩ := Except.map_eq_ok_iff.1 h
    rfl

/-- A validator is built from a path to a field and a rule for the kind of this field. -/
theorem build_value_eq_ok_iff :
    (build settings type rule).value = .ok v ↔
      FieldPath.parse rule.field = .ok v.path ∧ type.kindAt v.path.segments = some v.kind ∧
        Rule.parse settings v.kind rule.tokens = .ok v.rule := by
  rw [build]
  constructor
  · intro h
    split at h
    · simp at h
    · rename_i path hpath
      split at h
      · simp at h
      · rename_i kind hkind
        split at h
        · simp at h
        · rename_i parsed hparsed
          obtain rfl := Except.ok.inj h
          exact ⟨hpath, hkind, hparsed⟩
  · rintro ⟨hpath, hkind, hparsed⟩
    simp only [hpath, hkind, hparsed, Logged.value_bind, Logged.value_pure]

variable {subject : σ} {codes : List String} {stopsAll : Bool}

theorem validate_of_missing {code : String} (hcode : v.rule.requiredCode = some code)
    (hmissing : Rule.Missing v.kind (type.valueAt subject v.path.segments)) :
    (v.validate type subject).value = ⟨v.path.text, [code], false⟩ := by
  rw [validate]
  cases hvalue : type.valueAt subject v.path.segments with
  | none => simp [hcode]
  | some value =>
    rw [hvalue] at hmissing
    simp [hcode, Rule.countsAsMissing_iff.2 hmissing]

theorem validate_of_runs {value : Scalar}
    (hreads : ∀ code, v.rule.requiredCode = some code ↔
      v.rule.operations.head? = some (.required code))
    (hruns : Rule.Runs v.kind v.rule.operations (type.valueAt subject v.path.segments) value) :
    (v.validate type subject).value = ⟨v.path.text,
      (run ⟨type.valueAt subject, v.path⟩ value [] v.rule.operations).value.1,
      (run ⟨type.valueAt subject, v.path⟩ value [] v.rule.operations).value.2⟩ := by
  obtain ⟨hvalue, hkept⟩ := hruns
  have hnot : ¬ (v.rule.requiredCode.isSome && countsAsMissing v.kind value) = true := by
    intro h
    obtain ⟨hsome, hmissing⟩ := Bool.and_eq_true_iff.1 h
    obtain ⟨code, hcode⟩ := Option.isSome_iff_exists.1 hsome
    exact hkept code ((hreads code).1 hcode) (hvalue ▸ Rule.countsAsMissing_iff.1 hmissing)
  rw [validate]
  simp only [hvalue, if_neg hnot, Logged.value_bind, Logged.value_pure]

/-- Of every value exactly one of the four reports is made. -/
theorem validate_of_reports
    (hreads : ∀ code, v.rule.requiredCode = some code ↔
      v.rule.operations.head? = some (.required code))
    (h : Rule.Reports ⟨type.valueAt subject, v.path⟩ v.kind v.rule.operations
      (type.valueAt subject v.path.segments) codes stopsAll) :
    (v.validate type subject).value = ⟨v.path.text, codes, stopsAll⟩ := by
  cases h with
  | missing hcode hmissing => exact validate_of_missing ((hreads _).2 hcode) hmissing
  | absent hnone hvalue =>
    have hcode : v.rule.requiredCode = none := by
      cases hcode : v.rule.requiredCode with
      | none => rfl
      | some code => exact absurd ((hreads code).1 hcode) (hnone code)
    rw [validate]
    simp [hvalue, hcode]
  | completed hruns hnot =>
    rw [validate_of_runs hreads hruns, Rule.run_of_not_halts hnot]
  | halted hruns hhalts hfirst hstops =>
    obtain ⟨hcodes, hmarker⟩ := Rule.run_of_first_halt hhalts hfirst
    rw [validate_of_runs hreads hruns, hcodes, Bool.eq_iff_iff.2 (hmarker.trans hstops.symm)]

end FieldValidator

namespace Rule

/-- Something is reported of every value. -/
theorem exists_reports (context : CheckContext) (kind : Kind) (ops : List Operation)
    (value? : Option Scalar) :
    ∃ codes stopsAll, Reports context kind ops value? codes stopsAll := by
  by_cases hmissing : ∃ code, ops.head? = some (.required code) ∧ Missing kind value?
  · obtain ⟨code, hcode, hmissing⟩ := hmissing
    exact ⟨_, _, .missing hcode hmissing⟩
  · cases hvalue : value? with
    | none =>
      refine ⟨_, _, .absent (fun code hcode => hmissing ⟨code, hcode, ?_⟩) rfl⟩
      rw [hvalue]
      exact .absent
    | some value =>
      have hruns : Runs kind ops (some value) value :=
        ⟨rfl, fun code hcode h => hmissing ⟨code, hcode, hvalue ▸ h⟩⟩
      by_cases hhalts : ∃ b m, HaltsAfter context value ops b m
      · obtain ⟨b, m, hb⟩ := hhalts
        obtain ⟨before, marker, hbefore, hfirst⟩ := hb.exists_first
        rcases hbefore.isMarker with rfl | rfl
        · exact ⟨_, false, .halted hruns hbefore hfirst (by simp)⟩
        · exact ⟨_, true, .halted hruns hbefore hfirst (by simp)⟩
      · exact ⟨_, _, .completed hruns fun b m hb => hhalts ⟨b, m, hb⟩⟩

end Rule

namespace FieldValidator

/-- A validator that was built reports of a subject exactly what its rule says: see
    `Rule.Reports`.  In particular no operation after a `BREAK` or a `STOPALL` adds a code once
    a check before it has failed. -/
theorem validate_eq_iff_reports {σ : Type} {settings : RuleSettings} {type : Subject σ}
    {rule : FieldRule} {v : FieldValidator}
    (hbuild : (build settings type rule).value = .ok v) (subject : σ) :
    type.kindAt v.path.segments = some v.kind ∧
    Rule.Reads settings v.kind rule.tokens v.rule ∧
    (∀ field codes stopsAll, (v.validate type subject).value = ⟨field, codes, stopsAll⟩ ↔
      field = rule.field ∧
        Rule.Reports ⟨type.valueAt subject, v.path⟩ v.kind v.rule.operations
          (type.valueAt subject v.path.segments) codes stopsAll) ∧
    ∀ value before marker,
      Rule.Runs v.kind v.rule.operations (type.valueAt subject v.path.segments) value →
      Rule.HaltsAfter ⟨type.valueAt subject, v.path⟩ value v.rule.operations before marker →
      (v.validate type subject).value.codes <+:
        Rule.failureCodes ⟨type.valueAt subject, v.path⟩ value before := by
  obtain ⟨hpath, hkind, hparse⟩ := build_value_eq_ok_iff.1 hbuild
  have hreads := Rule.parse_eq_ok_iff_reads.1 hparse
  have hrequired : ∀ code, v.rule.requiredCode = some code ↔
      v.rule.operations.head? = some (.required code) := fun _ => hreads.requiredCode_eq_some_iff
  refine ⟨hkind, hreads, ?_, ?_⟩
  · intro field codes stopsAll
    constructor
    · intro h
      obtain ⟨codes', stopsAll', hreports⟩ := Rule.exists_reports
        ⟨type.valueAt subject, v.path⟩ v.kind v.rule.operations
        (type.valueAt subject v.path.segments)
      rw [validate_of_reports hrequired hreports, FieldResult.mk.injEq] at h
      obtain ⟨rfl, rfl, rfl⟩ := h
      exact ⟨text_of_parse hpath, hreports⟩
    · rintro ⟨rfl, hreports⟩
      rw [validate_of_reports hrequired hreports, text_of_parse hpath]
  · intro value before marker hruns hhalts
    rw [validate_of_runs hrequired hruns]
    exact Rule.run_prefix hhalts

/-- A value that is not one of the literals before a `BREAK` fails for this reason only, even
    if it also lies out of the bounds after it. -/
theorem validate_break :
    ∃ v, (build ⟨"INVALID", []⟩ (⟨fun _ => some .int64, fun value _ => value⟩ :
        Subject (Option Scalar)) ⟨"n", ["REQ", "IN:1,2:NOTIN", "BREAK", "RANGE:5-9"]⟩).value =
          .ok v ∧
      (v.validate (⟨fun _ => some .int64, fun value _ => value⟩ : Subject (Option Scalar))
        (some (.int 3))).value = ⟨"n", ["NOTIN"], false⟩ := by
  have hbuild : (build ⟨"INVALID", []⟩ (⟨fun _ => some .int64, fun value _ => value⟩ :
      Subject (Option Scalar)) ⟨"n", ["REQ", "IN:1,2:NOTIN", "BREAK", "RANGE:5-9"]⟩).value =
        .ok ⟨⟨"n", [.name "n"]⟩, .int64, ⟨[.required "INVALID", .oneOf [.int 1, .int 2] "NOTIN",
          .stopField, .range (some (.int 5)) (some (.int 9)) "INVALID"], some "INVALID"⟩⟩ := by
    refine build_value_eq_ok_iff.2 ⟨?_, rfl, rfl⟩
    simp [FieldPath.parse, FieldPath.splitAt, FieldPath.readParts, FieldPath.readPart,
      FieldPath.readIndices]
    rfl
  refine ⟨_, hbuild, ?_⟩
  rw [(validate_eq_iff_reports hbuild (some (.int 3))).2.2.1]
  have hhalts : Rule.HaltsAfter ⟨fun _ => some (.int 3), ⟨"n", [.name "n"]⟩⟩ (.int 3)
      [.required "INVALID", .oneOf [.int 1, .int 2] "NOTIN", .stopField,
        .range (some (.int 5)) (some (.int 9)) "INVALID"]
      [.required "INVALID", .oneOf [.int 1, .int 2] "NOTIN"] .stopField :=
    ⟨⟨_, rfl⟩, .inl rfl, .oneOf [.int 1, .int 2] "NOTIN", by simp, by decide⟩
  have hfirst := hhalts.first_of_not_markers (by simp [Operation.IsMarker])
  exact ⟨rfl, .halted ⟨rfl, fun code _ h => by cases h⟩ hhalts hfirst (by simp)⟩

end FieldValidator

end Endpoint
