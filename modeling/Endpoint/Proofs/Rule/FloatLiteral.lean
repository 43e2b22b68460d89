import Endpoint.Proofs.Field.Typing
import Endpoint.Proofs.Number.Precisions
import Endpoint.Proofs.Rule.BoundsToken
import Mathlib

/-!
# Numbers in rules for floating point fields

A field of single or double precision holds the number that a text gives at its precision, and a
rule names a number by such a text, which is read at the precision of the kind of the field.  The
two numbers are the same unless the field holds an optional number of single precision: the kind
of these is that of all optional numbers, and its literals are read at double precision.
-/

namespace Endpoint

/-! ## The type declared at a path -/

/-- The precision of a type of floating point numbers. -/
def ScalarType.precision? : ScalarType → Option Precision
  | single => some .single
  | double => some .double
  | _ => none

namespace Schema

/-- A path leads to a field that is declared with a type. -/
inductive Declares (s : Schema) : Nesting → List Segment → ScalarType → Arity → Prop
  | scalar {record head : String} {rest : List Segment} {f : Field} {t : ScalarType}
      {arity : Arity} : s.ruleField? record head rest = some f → f.type = .scalar t arity →
      Declares s (.record record) (.name head :: rest) t arity
  | field {record head : String} {rest : List Segment} {f : Field} {n : Nesting} {t : ScalarType}
      {arity : Arity} : s.ruleField? record head rest = some f → f.type = .nested n →
      Declares s n rest t arity → Declares s (.record record) (.name head :: rest) t arity
  | present {n : Nesting} {path : List Segment} {t : ScalarType} {arity : Arity} :
      Declares s n path t arity → Declares s (.optional n) path t arity
  | item {n : Nesting} {i : Nat} {rest : List Segment} {t : ScalarType} {arity : Arity} :
      Declares s n rest t arity → Declares s (.list n) (.index i :: rest) t arity

variable {s : Schema} {n : Nesting} {path : List Segment} {t : ScalarType} {arity : Arity}

/-- The kind at a path is that of the declared type. -/
theorem Declares.kindAt_eq (h : s.Declares n path t arity) : s.kindAt n path = t.kind? arity := by
  induction h with
  | scalar hfield htype =>
    rw [kindAt, hfield]
    simp only [htype]
  | field hfield htype _ ih =>
    rw [kindAt, hfield]
    simp only [htype, ih]
  | present _ ih => rw [kindAt, ih]
  | item _ ih => rw [kindAt, ih]

end Schema

/-! ## Literals of a declared type -/

/-- The precision at which literals are read for fields of a kind. -/
def Kind.precision? : Kind → Option Precision
  | float32 => some .single
  | float64 | nilableFloat64 => some .double
  | _ => none

/-- The precision of its type is that of the literals for a field, unless it is an optional one of
    single precision. -/
theorem ScalarType.precision?_kind {t : ScalarType} {arity : Arity} {kind : Kind}
    {grid : Precision} (hgrid : t.precision? = some grid) (hkind : t.kind? arity = some kind) :
    kind.precision? = some (if t = .single ∧ arity = .optional then .double else grid) := by
  cases t <;> cases arity <;>
    simp only [precision?, kind?, reduceCtorEq, Option.some.injEq] at hgrid hkind <;>
    subst hgrid hkind <;> rfl

namespace Scalar

variable {t : ScalarType} {arity : Arity} {kind : Kind} {grid : Precision} {text : String}
  {x : Binary64}

theorem ofLiteral?_of_precision? (hgrid : kind.precision? = some grid) :
    ofLiteral? kind text = (Binary64.ofText? grid (trimText text)).map float := by
  cases kind <;> simp only [Kind.precision?, reduceCtorEq, Option.some.injEq] at hgrid <;>
    subst hgrid <;> rfl

/-- The text of a number is read as a literal for the field that holds the number.  Both are the
    same number unless the field is an optional one of single precision. -/
theorem exists_ofLiteral? (hgrid : t.precision? = some grid) (hkind : t.kind? arity = some kind)
    (htext : Binary64.ofText? grid text = some x) (hnan : x.isNaN = false) :
    ∃ y, ofLiteral? kind text = some (float y) ∧
      (x.compare? y = some .eq ↔
        ¬ (t = .single ∧ arity = .optional) ∨ Binary64.ofText? .double text = some x) := by
  have hself := Binary64.compare?_self hnan
  have hprecision := ScalarType.precision?_kind hgrid hkind
  by_cases hwider : t = .single ∧ arity = .optional
  · rw [if_pos hwider] at hprecision
    obtain ⟨y, hy, hequal⟩ := Binary64.exists_ofText? .double htext
    refine ⟨y, ?_, ?_⟩
    · rw [ofLiteral?_of_precision? hprecision, Binary64.trimText_of_ofText? htext, hy]
      rfl
    · rw [hy, Option.some.injEq, or_iff_right (not_not.2 hwider)]
      exact ⟨fun h => (hequal h).symm, fun h => h ▸ hself⟩
  · rw [if_neg hwider] at hprecision
    refine ⟨x, ?_, iff_of_true hself (.inl hwider)⟩
    rw [ofLiteral?_of_precision? hprecision, Binary64.trimText_of_ofText? htext, htext]
    rfl

end Scalar

/-! ## Tokens that name a number -/

namespace Rule

/-- A token asks for the number that a text gives: as the only literal of an `IN`, or as both
    bounds of a `RANGE`. -/
inductive NamesNumber (text : String) : String → Prop
  | oneOf {written : Option String} : (∀ code ∈ written, IsCode code) →
      NamesNumber text (":".intercalate ("IN" :: text :: written.toList))
  | range {written : Option String} : (∀ code ∈ written, IsCode code) →
      NamesNumber text (boundsToken .range text text written)

variable {s : TokenSettings} {token text : String} {op : Operation} {x y : Binary64}
  {grid : Precision} {context : CheckContext} {value : Scalar} {ops : List Operation}
  {codes : List String} {i : Nat}

/-- The operation of a token is read from the parameters after the word of its opcode. -/
theorem TokenReads.operationReads {opcode : Opcode} {params : List String}
    (h : TokenReads s token op) (hsplit : SplitsInto ':' token (opcode.word :: params)) :
    OperationReads s opcode params op := by
  obtain ⟨hsplit', -, hop⟩ := h
  have hparts := (pieces_eq_iff.2 hsplit').symm.trans (pieces_eq_iff.2 hsplit)
  obtain ⟨hword, rfl⟩ := List.cons.inj hparts
  obtain rfl := word_injective hword
  exact hop

theorem BoundReads.eq_some_of_ne {α : Type} {reader : String → Option α} {bound : Option α} {v : α}
    (h : BoundReads reader text bound) (hne : text ≠ "") (hv : reader text = some v) :
    bound = some v := by
  cases h with
  | absent => exact absurd rfl hne
  | given _ hread => rw [← hread, hv]

/-- An `IN` of one text asks for the literal of this text. -/
theorem OperationReads.oneOf_single {written : Option String} {v : Scalar}
    (h : OperationReads s .oneOf (text :: written.toList) op) (hcomma : ',' ∉ text.toList)
    (hv : Scalar.ofLiteral? s.kind text = some v) : ∃ code, op = .oneOf [v] code := by
  generalize hparams : text :: written.toList = params at h
  cases h with
  | @oneOf text' raws members written' code hraws hmembers hcode =>
    obtain ⟨rfl, -⟩ := List.cons.inj hparams
    have hsingle : SplitsInto ',' text [text] := ⟨by simp, by simpa using hcomma, by simp⟩
    obtain rfl : [text] = raws :=
      (pieces_eq_iff.2 hsingle).symm.trans (pieces_eq_iff.2 hraws)
    obtain ⟨v', members', hv', hmembers', rfl⟩ := List.forall₂_cons_left_iff.1 hmembers
    obtain rfl := List.forall₂_nil_left_iff.1 hmembers'
    obtain rfl := Option.some.inj (hv.symm.trans hv')
    exact ⟨code, rfl⟩

/-- A `RANGE` between a text and itself asks for the literal of this text. -/
theorem OperationReads.range_single {written : Option String} {v : Scalar}
    (h : OperationReads s .range ((text ++ "-" ++ text) :: written.toList) op)
    (hnumeral : Numeral text.toList) (hv : Scalar.ofLiteral? s.kind text = some v) :
    ∃ code, op = .range (some v) (some v) code := by
  have hne : text ≠ "" := by
    rintro rfl
    obtain ⟨_, hc, -⟩ := hnumeral.ends
    cases hc
  have hsplit : Bounds.split (text ++ "-" ++ text) = some (text, text) :=
    Bounds.split_append (fun _ => hnumeral) (fun _ => hnumeral) (.inl hne)
  generalize hparams : (text ++ "-" ++ text) :: written.toList = params at h
  cases h with
  | @range text' least greatest written' code hbounds hcode =>
    obtain ⟨rfl, -⟩ := List.cons.inj hparams
    obtain ⟨hdivides, hleast, hgreatest, -⟩ := hbounds
    obtain ⟨rfl, rfl⟩ := Prod.mk.inj
      (Option.some.inj (hsplit.symm.trans (Bounds.split_eq_some_iff.2 hdivides)))
    rw [hleast.eq_some_of_ne hne hv, hgreatest.eq_some_of_ne hne hv]
    exact ⟨code, rfl⟩

/-- An operation that was read from a token which names a number accepts this number alone. -/
theorem TokenReads.accepts_iff_of_namesNumber (context : CheckContext) (value : Scalar)
    (hop : TokenReads s token op) (hnames : NamesNumber text token)
    (htext : Binary64.ofText? grid text = some x)
    (hy : Scalar.ofLiteral? s.kind text = some (.float y)) :
    ¬ op.IsMarker ∧ (op.Accepts context value ↔ value.compare? (.float y) = some .eq) := by
  have hnumeral := Binary64.numeral_of_ofText? htext
  cases hnames with
  | @oneOf written hcode =>
    have hsplit : SplitsInto ':' (":".intercalate ("IN" :: text :: written.toList))
        (Opcode.oneOf.word :: text :: written.toList) := by
      refine ⟨by simp, ?_, rfl⟩
      rw [List.forall_mem_cons, List.forall_mem_cons]
      exact ⟨by decide, hnumeral.colon_notMem,
        fun part hpart => (hcode part (by simpa using hpart)).2⟩
    obtain ⟨code, rfl⟩ :=
      (hop.operationReads hsplit).oneOf_single (Binary64.comma_notMem_of_ofText? htext) hy
    simp [Operation.IsMarker, Operation.Accepts]
  | @range written hcode =>
    have hsplit :=
      splitsInto_boundsToken .range hnumeral.colon_notMem hnumeral.colon_notMem hcode
    obtain ⟨code, rfl⟩ := (hop.operationReads hsplit).range_single hnumeral hy
    refine ⟨by simp [Operation.IsMarker], ?_⟩
    constructor
    · rintro ⟨hleast, hgreatest⟩
      rcases hleast _ rfl with hgt | heq
      · rcases hgreatest _ rfl with hlt | heq
        · rw [hgt] at hlt
          cases hlt
        · exact heq
      · exact heq
    · intro heq
      exact ⟨fun b hb => .inr (Option.mem_some.1 hb ▸ heq),
        fun b hb => .inr (Option.mem_some.1 hb ▸ heq)⟩

/-! ## Operations that accept a value -/

open FieldValidator (run)

/-- A check that accepts the value makes no difference to the run. -/
theorem run_eraseIdx (codes : List String) (hop : ops[i]? = some op) (hcheck : ¬ op.IsMarker)
    (haccepts : op.Accepts context value) :
    (run context value codes (ops.eraseIdx i)).value = (run context value codes ops).value := by
  induction ops generalizing codes i with
  | nil => simp at hop
  | cons first rest ih =>
    cases i with
    | zero =>
      obtain rfl : first = op := by simpa using hop
      have hnone : failureCodes context value [first] = [] :=
        failureCodes_eq_nil_iff.2 (by simpa [Operation.Fails] using haccepts)
      rw [List.eraseIdx_zero, List.tail_cons, run_cons_check hcheck, hnone, List.append_nil]
    | succ i =>
      rw [List.eraseIdx_cons_succ]
      rw [List.getElem?_cons_succ] at hop
      by_cases hmarker : first.IsMarker
      · cases codes with
        | nil =>
          rw [run_cons_marker_of_nil hmarker, run_cons_marker_of_nil hmarker]
          exact ih _ hop
        | cons code codes => rcases hmarker with rfl | rfl <;> rfl
      · rw [run_cons_check hmarker, run_cons_check hmarker]
        exact ih _ hop

end Rule

namespace FieldValidator

/-- A validator without one of the operations of its rule. -/
def without (v : FieldValidator) (i : Nat) : FieldValidator :=
  { v with rule := { v.rule with operations := v.rule.operations.eraseIdx i } }

theorem validate_without {σ : Type} {v : FieldValidator} {type : Subject σ} {subject : σ}
    {value : Scalar} {i : Nat} {op : Operation}
    (hvalue : type.valueAt subject v.path.segments = some value)
    (hop : v.rule.operations[i]? = some op) (hcheck : ¬ op.IsMarker)
    (haccepts : op.Accepts ⟨type.valueAt subject, v.path⟩ value) :
    ((v.without i).validate type subject).value = (v.validate type subject).value := by
  obtain ⟨path, kind, operations, requiredCode⟩ := v
  have hrun := Rule.run_eraseIdx [] hop hcheck haccepts
  show (validate ⟨path, kind, ⟨operations.eraseIdx i, requiredCode⟩⟩ type subject).value = _
  simp only [validate, hvalue]
  by_cases hmissing : (requiredCode.isSome && countsAsMissing kind value) = true
  · rw [if_pos hmissing, if_pos hmissing]
  · rw [if_neg hmissing, if_neg hmissing]
    simp only [Logged.value_bind, hrun]

end FieldValidator

/-! ## Rules for fields that hold a number -/

/-- A rule that names the number of a field by its text accepts the field, and reports of it what
    it would report without this operation.  It fails only for an optional field of single
    precision, and there for every text that gives another number at double precision. -/
theorem FieldValidator.check_namesNumber_iff {s : Schema} {n : Nesting} {settings : RuleSettings}
    {rule : FieldRule} {v : FieldValidator} {t : ScalarType} {arity : Arity} {grid : Precision}
    {text token : String} {x : Binary64} {i : Nat} {d : Datum}
    (hbuild : (build settings (s.subject n) rule).value = .ok v)
    (hdeclares : s.Declares n v.path.segments t arity) (hgrid : t.precision? = some grid)
    (htext : Binary64.ofText? grid text = some x) (hnan : x.isNaN = false)
    (htoken : rule.tokens[i]? = some token) (hnames : Rule.NamesNumber text token)
    (hvalue : s.valueAt n d v.path.segments = some (.float x)) :
    ∃ op y, v.rule.operations[i]? = some op ∧
      Scalar.ofLiteral? v.kind text = some (.float y) ∧
      ((op.check ⟨(s.subject n).valueAt d, v.path⟩ (.float x)).value = true ↔
        x.compare? y = some .eq) ∧
      (x.compare? y = some .eq ↔
        ¬ (t = .single ∧ arity = .optional) ∨ Binary64.ofText? .double text = some x) ∧
      (x.compare? y = some .eq →
        (v.validate (s.subject n) d).value = ((v.without i).validate (s.subject n) d).value) := by
  obtain ⟨-, hkind, hparse⟩ := build_value_eq_ok_iff.1 hbuild
  have hkind' : t.kind? arity = some v.kind := hdeclares.kindAt_eq.symm.trans hkind
  obtain ⟨y, hy, hequal⟩ := Scalar.exists_ofLiteral? hgrid hkind' htext hnan
  obtain ⟨op, hop, hread⟩ :=
    Rule.getElem?_of_forall₂ (Rule.parse_eq_ok_iff_reads.1 hparse).forall₂ htoken
  obtain ⟨hcheck, haccepts⟩ := hread.accepts_iff_of_namesNumber
    ⟨(s.subject n).valueAt d, v.path⟩ (.float x) hnames htext hy
  refine ⟨op, y, hop, hy, Operation.check_value_iff.trans haccepts, hequal, ?_⟩
  intro heq
  exact (validate_without hvalue hop hcheck (haccepts.2 heq)).symm

/-- Prices in single precision, of which one can be absent. -/
def prices : Schema :=
  ⟨[("Price", [.ruled "net" (.one .single), .ruled "gross" (.optional .single)])]⟩

/-- The number of single precision that is the nearest to a tenth. -/
def tenth : Binary64 := ⟨false, 0x3FB99999A0000000⟩

/-- A price of a tenth. -/
def tenthPrice : Datum :=
  .record [("net", .scalar (.float tenth)), ("gross", .scalar (.float tenth))]

theorem tenth_ofText? : Binary64.ofText? .single "0.1" = some tenth := by decide +kernel

/-- A rule that asks for a tenth. -/
theorem Rule.reads_tenth {kind : Kind} {y : Binary64}
    (hy : Scalar.ofLiteral? kind "0.1" = some (.float y))
    (hkind : Opcode.oneOf.supports kind = true) :
    Reads ⟨"INVALID", []⟩ kind ["IN:0.1"] ⟨[.oneOf [.float y] "NOT_IN"], none⟩ := by
  let s : TokenSettings := RuleSettings.forTokens ⟨"INVALID", []⟩ kind none
  have hraws : SplitsInto ',' "0.1" ["0.1"] := pieces_eq_iff.1 rfl
  have hcode : CodeReads (s.requiredCode.getD notInCode) none "NOT_IN" := .absent
  have hread : OperationReads s .oneOf ("0.1" :: (none : Option String).toList)
      (.oneOf [.float y] "NOT_IN") := .oneOf hraws (.cons hy .nil) hcode
  have hop : TokenReads s "IN:0.1" (.oneOf [.float y] "NOT_IN") :=
    .operation (pieces_eq_iff.1 rfl) hkind hread
  refine .plain (by simp) (.cons hop .nil) fun t ht => ?_
  rw [List.mem_singleton.1 ht, hop.isRequired_iff]
  exact Opcode.noConfusion

theorem FieldValidator.check_namesNumber_iff_net :
    ∃ v, (build ⟨"INVALID", []⟩ (prices.subject (.record "Price")) ⟨"net", ["IN:0.1"]⟩).value =
        .ok v ∧
      (v.validate (prices.subject (.record "Price")) tenthPrice).value = ⟨"net", [], false⟩ := by
  have hpath : FieldPath.parse "net" = .ok ⟨"net", [.name "net"]⟩ := by cbv
  have hkind : prices.kindAt (.record "Price") [.name "net"] = some .float32 := by cbv
  have hvalue : prices.valueAt (.record "Price") tenthPrice [.name "net"] =
    some (.float tenth) := by cbv
  have hliteral : Scalar.ofLiteral? .float32 "0.1" = some (.float tenth) := by decide +kernel
  have hparse := Rule.parse_eq_ok_iff_reads.2 (Rule.reads_tenth hliteral rfl)
  have hbuild : (build ⟨"INVALID", []⟩ (prices.subject (.record "Price"))
      ⟨"net", ["IN:0.1"]⟩).value = .ok ⟨⟨"net", [.name "net"]⟩, .float32, _⟩ :=
    build_value_eq_ok_iff.2 ⟨hpath, hkind, hparse⟩
  have hcode : ∀ code ∈ (none : Option String), Rule.IsCode code := by simp
  have hnames : Rule.NamesNumber "0.1" "IN:0.1" := .oneOf hcode
  obtain ⟨op, y, -, -, -, hequal, hreport⟩ := check_namesNumber_iff hbuild (.scalar rfl rfl) rfl
    tenth_ofText? rfl (i := 0) rfl hnames hvalue
  refine ⟨_, hbuild, (hreport (hequal.2 (.inl (by simp)))).trans ?_⟩
  simp only [validate, without, Schema.subject, hvalue]
  rfl

/-- A price that can be absent is not found among literals that are written like it. -/
theorem FieldValidator.check_rejects_gross :
    ∃ v, (build ⟨"INVALID", []⟩ (prices.subject (.record "Price")) ⟨"gross", ["IN:0.1"]⟩).value =
        .ok v ∧
      prices.Declares (.record "Price") v.path.segments .single .optional ∧
      Binary64.ofText? .single "0.1" = some tenth ∧ tenth.isNaN = false ∧
      prices.valueAt (.record "Price") tenthPrice v.path.segments = some (.float tenth) ∧
      (v.validate (prices.subject (.record "Price")) tenthPrice).value =
        ⟨"gross", ["NOT_IN"], false⟩ := by
  have hpath : FieldPath.parse "gross" = .ok ⟨"gross", [.name "gross"]⟩ := by cbv
  have hkind : prices.kindAt (.record "Price") [.name "gross"] = some .nilableFloat64 := by cbv
  have hvalue : prices.valueAt (.record "Price") tenthPrice [.name "gross"] =
    some (.float tenth) := by cbv
  have hliteral : Scalar.ofLiteral? .nilableFloat64 "0.1" =
    some (.float ⟨false, 0x3FB999999999999A⟩) := by decide +kernel
  have hparse := Rule.parse_eq_ok_iff_reads.2 (Rule.reads_tenth hliteral rfl)
  have hbuild : (build ⟨"INVALID", []⟩ (prices.subject (.record "Price"))
      ⟨"gross", ["IN:0.1"]⟩).value = .ok ⟨⟨"gross", [.name "gross"]⟩, .nilableFloat64, _⟩ :=
    build_value_eq_ok_iff.2 ⟨hpath, hkind, hparse⟩
  refine ⟨_, hbuild, .scalar rfl rfl, tenth_ofText?, rfl, hvalue, ?_⟩
  simp only [validate, Schema.subject, hvalue]
  rfl

end Endpoint
