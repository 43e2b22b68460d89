import Endpoint.Proofs.Field.Typing
import Endpoint.Proofs.Rule.Evaluation
import Mathlib

/-!
# Rules fit the values they are run on

A rule is built for the kind of a field and run on the values of the field.  Because these are
of the kind, no operation meets a value that it is not made for: what would become of such a
value does not matter.
-/

namespace Endpoint

namespace Operation

/-- The literals that an operation compares values with. -/
def literals : Operation → List Scalar
  | oneOf members _ => members
  | range least greatest _ => least.toList ++ greatest.toList
  | _ => []

/-- An operation on fields of a kind is made for a value. -/
structure Suits (kind : Kind) (op : Operation) (value : Scalar) : Prop where
  held : kind.holds value = true
  sameType : ∀ b ∈ op.literals, value.SameType b
  ordered : ∀ b ∈ op.literals, value.compare? b = none → value.IsNaN ∨ b.IsNaN
  text : op.opcode = .length ∨ op.opcode = .pattern → ∃ s, value = .text s
  flag : op.opcode = .flag → ∃ b, value = .bool b
  checker : ∀ name checker code, op = .external name checker code → checker.supports kind = true

end Operation

namespace Rule

variable {s : TokenSettings} {token : String} {op : Operation} {value : Scalar}

/-- The literals of an operation are read from text for the kind of the field. -/
theorem OperationReads.literals {opcode : Opcode} {params : List String}
    (h : OperationReads s opcode params op) {b : Scalar} (hb : b ∈ op.literals) :
    ∃ raw, Scalar.ofLiteral? s.kind raw = some b := by
  cases h with
  | oneOf _ hmembers _ =>
    obtain ⟨i, hi⟩ := List.getElem?_of_mem hb
    obtain ⟨raw, -, hraw⟩ := getElem?_of_forall₂ hmembers.flip hi
    exact ⟨raw, hraw⟩
  | range hbounds _ =>
    obtain ⟨-, hleast, hgreatest, -⟩ := hbounds
    rcases List.mem_append.1 hb with hb | hb
    · exact ⟨_, hleast.reader_eq (Option.mem_toList.1 hb)⟩
    · exact ⟨_, hgreatest.reader_eq (Option.mem_toList.1 hb)⟩
  | _ => simp [Operation.literals] at hb

theorem exists_text_of_holds {k : Kind} (hkind : k.isString = true) (h : k.holds value = true) :
    ∃ t, value = .text t := by
  cases value with
  | text t => exact ⟨t, rfl⟩
  | _ => cases k <;> simp [Kind.isString, Kind.holds] at hkind h

theorem exists_bool_of_holds {k : Kind} (hkind : k.isBool = true) (h : k.holds value = true) :
    ∃ b, value = .bool b := by
  cases value with
  | bool b => exact ⟨b, rfl⟩
  | _ => cases k <;> simp [Kind.isBool, Kind.holds] at hkind h

/-- An operation that a token stands for is made for every value of the kind. -/
theorem TokenReads.suits (h : TokenReads s token op) (hvalue : s.kind.holds value = true) :
    op.Suits s.kind value := by
  obtain ⟨-, hsupports, hop⟩ := h
  have hopcode := hop.opcode_eq
  have hsame : ∀ b ∈ op.literals, value.SameType b := by
    intro b hb
    obtain ⟨raw, hraw⟩ := hop.literals hb
    exact Scalar.sameType_of_holds hvalue (Scalar.holds_of_ofLiteral? hraw)
  constructor
  · exact hvalue
  · exact hsame
  · intro b hb hnone
    obtain ⟨raw, hraw⟩ := hop.literals hb
    exact ((hsame b hb).compare?_eq_none_iff (Scalar.ne_bool_of_ofLiteral? hraw)).1 hnone
  · rw [hopcode]
    rintro (rfl | rfl)
    · exact exists_text_of_holds hsupports hvalue
    · exact exists_text_of_holds hsupports hvalue
  · rw [hopcode]
    rintro rfl
    exact exists_bool_of_holds hsupports hvalue
  · rintro name checker code rfl
    cases hop with
    | external _ hchecker _ => exact hchecker

/-- Every operation of a rule is made for every value of the kind it was read for. -/
theorem Reads.suits {settings : RuleSettings} {kind : Kind} {tokens : List String} {rule : Rule}
    (h : Reads settings kind tokens rule) (hop : op ∈ rule.operations)
    (hvalue : kind.holds value = true) : op.Suits kind value := by
  obtain ⟨i, hi⟩ := List.getElem?_of_mem hop
  obtain ⟨token, -, htoken⟩ := getElem?_of_forall₂ h.forall₂.flip hi
  exact htoken.suits hvalue

end Rule

namespace FieldValidator

/-- A way to check present values. -/
abbrev Check := Operation → CheckContext → Scalar → Logged Bool

/-- Runs operations as `run` does, with another way to check values. -/
def runWith (check : Check) (context : CheckContext) (value : Scalar) (codes : List String) :
    List Operation → Logged (List String × Bool)
  | [] => pure (codes, false)
  | .stopField :: rest =>
    if codes.isEmpty then runWith check context value codes rest else pure (codes, false)
  | .stopAll :: rest =>
    if codes.isEmpty then runWith check context value codes rest else pure (codes, true)
  | op :: rest => do
    let passed ← check op context value
    runWith check context value (if passed then codes else codes ++ op.code?.toList) rest

/-- Validates the field of a subject as `validate` does, with another way to check values. -/
def validateWith {σ : Type} (check : Check) (v : FieldValidator) (type : Subject σ) (subject : σ) :
    Logged FieldResult :=
  match type.valueAt subject v.path.segments with
  | none => pure ⟨v.path.text, v.rule.requiredCode.toList, false⟩
  | some value =>
    if v.rule.requiredCode.isSome && countsAsMissing v.kind value then
      pure ⟨v.path.text, v.rule.requiredCode.toList, false⟩
    else do
      let (codes, stopsAll) ←
        runWith check ⟨type.valueAt subject, v.path⟩ value [] v.rule.operations
      pure ⟨v.path.text, codes, stopsAll⟩

/-- Only how the operations of the rule are checked matters. -/
theorem runWith_eq_run {check : Check} {context : CheckContext} {value : Scalar}
    {ops : List Operation} (h : ∀ op ∈ ops, check op context value = op.check context value)
    (codes : List String) :
    runWith check context value codes ops = run context value codes ops := by
  induction ops generalizing codes with
  | nil => rfl
  | cons op rest ih =>
    obtain ⟨hop, hrest⟩ := List.forall_mem_cons.1 h
    cases op with
    | stopField => simp only [runWith, run, ih hrest]
    | stopAll => simp only [runWith, run, ih hrest]
    | _ => simp only [runWith, run, ih hrest, hop]

theorem validateWith_eq_validate {σ : Type} {check : Check} {v : FieldValidator}
    {type : Subject σ} {subject : σ}
    (h : ∀ value, type.valueAt subject v.path.segments = some value → ∀ op ∈ v.rule.operations,
      ∀ context, check op context value = op.check context value) :
    v.validateWith check type subject = v.validate type subject := by
  rw [validateWith, validate]
  cases hvalue : type.valueAt subject v.path.segments with
  | none => rfl
  | some value => simp only [runWith_eq_run fun op hop => h value hvalue op hop _]

/-- Rules are sound for the values of the types they were built for.  At every path a value is
    found of the kind found there, or none where the field may be absent or the path misses.  So
    every operation of a rule is made for the values of its field, and the outcome does not
    depend on what checks do with any other values; if there is no value nothing is checked. -/
theorem build_sound (s : Schema) (n : Nesting) {d : Datum} (hd : s.IsValue (.nested n) d) :
    (∀ path, s.kindAt n path = none → s.valueAt n d path = none) ∧
    (∀ path k, s.kindAt n path = some k →
      (∀ value, s.valueAt n d path = some value → k.holds value = true) ∧
      (s.valueAt n d path = none → k.isNilable = true ∨ s.Misses n d path)) ∧
    ∀ settings rule v, (build settings (s.subject n) rule).value = .ok v →
      (∀ value, s.valueAt n d v.path.segments = some value →
        ∀ op ∈ v.rule.operations, op.Suits v.kind value) ∧
      (s.valueAt n d v.path.segments = none → ∀ check : Check,
        v.validateWith check (s.subject n) d = v.validate (s.subject n) d) ∧
      ∀ check : Check,
        (∀ op context value, op.Suits v.kind value →
          check op context value = op.check context value) →
        v.validateWith check (s.subject n) d = v.validate (s.subject n) d := by
  have hkind : ∀ path k, s.kindAt n path = some k →
      (∀ value, s.valueAt n d path = some value → k.holds value = true) ∧
      (s.valueAt n d path = none → k.isNilable = true ∨ s.Misses n d path) := by
    intro path k hk
    have hagrees := hk ▸ hd.agrees path
    constructor
    · intro value hvalue
      exact (hvalue ▸ hagrees).holds
    · intro hnone
      exact (hnone ▸ hagrees).nilable_or
  refine ⟨?_, hkind, ?_⟩
  · intro path hnone
    exact (hnone ▸ hd.agrees path).eq_none
  · intro settings rule v hbuild
    obtain ⟨-, hk, hparse⟩ := build_value_eq_ok_iff.1 hbuild
    have hreads := Rule.parse_eq_ok_iff_reads.1 hparse
    have hsuits : ∀ value, s.valueAt n d v.path.segments = some value →
        ∀ op ∈ v.rule.operations, op.Suits v.kind value := fun value hvalue op hop =>
      hreads.suits hop ((hkind _ _ hk).1 value hvalue)
    refine ⟨hsuits, ?_, ?_⟩
    · intro hnone check
      refine validateWith_eq_validate fun value hvalue => ?_
      rw [show (s.subject n).valueAt d v.path.segments = none from hnone] at hvalue
      simp at hvalue
    · intro check hcheck
      refine validateWith_eq_validate fun value hvalue op hop context => ?_
      exact hcheck op context value (hsuits value hvalue op hop)

/-- Nodes that hold a number and perhaps the next node. -/
def chain : Schema :=
  ⟨[("Node", [.ruled "value" (.one (.signed 64)), .ruled "next" (.optionalRecord "Node")])]⟩

theorem chain_isValue {next : Datum} (i : Int)
    (h : chain.IsValue (.nested (.optional (.record "Node"))) next) :
    chain.IsValue (.nested (.record "Node"))
      (.record [("value", .scalar (.int i)), ("next", next)]) := by
  have hfields : chain.fields "Node" =
      [.ruled "value" (.one (.signed 64)), .ruled "next" (.optionalRecord "Node")] := rfl
  refine .record (fun f => if f.name = "value" then .scalar (.int i) else next) ?_ ?_
  · simp [hfields, Field.ruled, Datum.field?]
  · rw [hfields, List.forall_mem_cons, List.forall_mem_singleton]
    exact ⟨.one (.signed 64 i), h⟩

/-- A rule about the number of the second node fits the one that it holds. -/
theorem build_sound_chain :
    ∃ v, (build ⟨"INVALID", []⟩ (chain.subject (.record "Node"))
        ⟨"next.value", ["RANGE:1-5"]⟩).value = .ok v ∧
      ∀ op ∈ v.rule.operations, op.Suits v.kind (.int 7) := by
  have hpath : FieldPath.parse "next.value" =
      .ok ⟨"next.value", [.name "next", .name "value"]⟩ := by cbv
  have hkind : (chain.subject (.record "Node")).kindAt [.name "next", .name "value"] =
      some .int64 := by cbv
  have hbuild : (build ⟨"INVALID", []⟩ (chain.subject (.record "Node"))
      ⟨"next.value", ["RANGE:1-5"]⟩).value =
        .ok ⟨⟨"next.value", [.name "next", .name "value"]⟩, .int64,
          ⟨[.range (some (.int 1)) (some (.int 5)) "INVALID"], none⟩⟩ :=
    build_value_eq_ok_iff.2 ⟨hpath, hkind, rfl⟩
  refine ⟨_, hbuild, ?_⟩
  have hsound := build_sound chain (.record "Node")
    (chain_isValue 3 (.just (chain_isValue 7 .nothing)))
  exact (hsound.2.2 _ _ _ hbuild).1 _ (by cbv)

end FieldValidator

end Endpoint
