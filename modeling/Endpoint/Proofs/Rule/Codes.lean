import Endpoint.Proofs.Rule.Collection

/-!
# The codes of a rule

An operation reports the code that is written in its token.  Where none is, it falls back to the
code of the `REQ` that starts the rule, else to a code that depends on the settings and the opcode
alone.
-/

namespace Endpoint

/-- The code among the parameters of a token: the last of them, after what the opcode needs. -/
def Opcode.writtenCode? : Opcode → List String → Option String
  | .required, params => params[0]?
  | .stopField, _ | .stopAll, _ => none
  | .pattern, params => if params.length < 2 then none else params.getLast?
  | .oneOf, params | .range, params | .length, params | .flag, params | .external, params =>
    params[1]?

theorem Operation.IsMarker.code?_eq_none {op : Operation} (h : op.IsMarker) : op.code? = none := by
  rcases h with rfl | rfl <;> rfl

namespace Rule

/-- The code that is written in a token. -/
def writtenCode? (token : String) : Option String :=
  match pieces ':' token with
  | [] => none
  | word :: params => (Opcode.ofWord? word).bind fun opcode => opcode.writtenCode? params

/-- What an operation falls back to that has no code of its own; markers have no code. -/
def TokenSettings.fallback? (s : TokenSettings) : Opcode → Option String
  | .stopField | .stopAll => none
  | .oneOf => some (s.requiredCode.getD notInCode)
  | .required | .range | .length | .pattern | .flag | .external => some s.fallback

variable {s : TokenSettings} {token : String} {op : Operation} {params tokens : List String}
  {opcode : Opcode} {settings : RuleSettings} {kind : Kind} {rule rule' : Rule}

/-! ## Single tokens -/

theorem writtenCode?_of_splitsInto (h : SplitsInto ':' token (opcode.word :: params)) :
    writtenCode? token = opcode.writtenCode? params := by
  rw [writtenCode?, pieces_eq_iff.2 h]
  simp only [Opcode.ofWord?_word, Option.bind_some]

theorem CodeReads.code_eq {fallback code : String} {written : Option String}
    (h : CodeReads fallback written code) : code = written.getD fallback := by
  cases h <;> rfl

theorem OperationReads.code?_eq (h : OperationReads s opcode params op) :
    op.code? = (s.fallback? opcode).map (opcode.writtenCode? params).getD := by
  cases h with
  | stopField => rfl
  | stopAll => rfl
  | pattern _ => rfl
  | @patternWithCode parts _ code hne _ _ =>
    simp [Operation.code?, TokenSettings.fallback?, Opcode.writtenCode?, hne]
  | required hcode =>
    simp [Operation.code?, TokenSettings.fallback?, Opcode.writtenCode?, hcode.code_eq]
  | oneOf _ _ hcode | range _ hcode | length _ hcode | flagTrue hcode | flagFalse hcode
  | external _ _ hcode =>
    simp [Operation.code?, TokenSettings.fallback?, Opcode.writtenCode?, hcode.code_eq]

/-- The code of an operation is the one written in its token, else what its opcode falls back
    to. -/
theorem TokenReads.code?_eq (h : TokenReads s token op) :
    op.code? = (s.fallback? op.opcode).map (writtenCode? token).getD := by
  obtain ⟨hsplits, -, hop⟩ := h
  rw [writtenCode?_of_splitsInto hsplits, hop.opcode_eq, hop.code?_eq]

/-- An operation that is no marker falls back to the code of the `REQ` if there is one. -/
theorem fallback?_forTokens {requiredCode : Option String} (hop : ¬ op.IsMarker) :
    (settings.forTokens kind requiredCode).fallback? op.opcode =
      some (requiredCode.getD
        (if op.opcode = .oneOf then notInCode else settings.defaultCode)) := by
  cases op with
  | stopField => exact absurd (.inl rfl) hop
  | stopAll => exact absurd (.inr rfl) hop
  | _ => rfl

/-! ## The first token -/

theorem Reads.exists_token {i : Nat} (h : Reads settings kind tokens rule)
    (hop : rule.operations[i]? = some op) :
    ∃ token, tokens[i]? = some token ∧
      TokenReads (settings.forTokens kind rule.requiredCode) token op :=
  getElem?_of_forall₂ h.forall₂.flip hop

/-- A `REQ` stands first or nowhere. -/
theorem Reads.eq_zero_of_required {i : Nat} {code : String} (h : Reads settings kind tokens rule)
    (hop : rule.operations[i]? = some (.required code)) : i = 0 := by
  obtain ⟨token, htoken, hreads⟩ := h.exists_token hop
  have hrequired : IsRequired token := hreads.isRequired_iff.2 rfl
  have hmem := List.mem_of_getElem? htoken
  cases h with
  | @required first rest _ _ _ _ hnone =>
    cases i with
    | zero => rfl
    | succ i => exact absurd hrequired (hnone token (List.mem_of_getElem? htoken))
  | plain _ _ hnone => exact absurd hrequired (hnone token hmem)

/-- The code of a `REQ` is the one written in the first token, else the default code. -/
theorem Reads.requiredCode_eq {code : String} (h : Reads settings kind (token :: tokens) rule)
    (hcode : rule.requiredCode = some code) :
    code = (writtenCode? token).getD settings.defaultCode := by
  cases h with
  | required hop _ _ =>
    obtain rfl := Option.some.inj hcode
    exact Option.some.inj hop.code?_eq
  | plain _ _ _ => cases hcode

theorem Reads.exists_cons (h : Reads settings kind tokens rule) :
    ∃ token rest, tokens = token :: rest := by
  cases h with
  | required _ _ _ => exact ⟨_, _, rfl⟩
  | plain hne _ _ => exact List.exists_cons_of_ne_nil hne

/-- The first token decides about the code of the `REQ`. -/
theorem Reads.requiredCode_unique {tokens' : List String} (h : Reads settings kind tokens rule)
    (h' : Reads settings kind tokens' rule') (hfirst : tokens'[0]? = tokens[0]?) :
    rule.requiredCode = rule'.requiredCode := by
  obtain ⟨token, rest, rfl⟩ := h.exists_cons
  obtain ⟨token', rest', rfl⟩ := h'.exists_cons
  obtain rfl : token' = token := Option.some.inj hfirst
  obtain ⟨requiredCode, op, ops, hcode, -, -, rfl⟩ :=
    parse_cons_eq_ok_iff.1 (parse_eq_ok_iff_reads.2 h)
  obtain ⟨requiredCode', op', ops', hcode', -, -, rfl⟩ :=
    parse_cons_eq_ok_iff.1 (parse_eq_ok_iff_reads.2 h')
  exact Except.ok.inj (hcode.symm.trans hcode')

/-- A token gives the same operation at any place of any rule with the same first token. -/
theorem Reads.getElem?_eq {tokens' : List String} {i j : Nat} (h : Reads settings kind tokens rule)
    (h' : Reads settings kind tokens' rule') (hfirst : tokens'[0]? = tokens[0]?)
    (htoken : tokens[i]? = some token) (htoken' : tokens'[j]? = some token) :
    rule.operations[i]? = rule'.operations[j]? := by
  obtain ⟨op, hop, hreads⟩ := getElem?_of_forall₂ h.forall₂ htoken
  obtain ⟨op', hop', hreads'⟩ := getElem?_of_forall₂ h'.forall₂ htoken'
  rw [← h.requiredCode_unique h' hfirst] at hreads'
  rw [hop, hop', hreads.unique hreads']

/-- Every code of an operation is written in some token, or is one of the two defaults. -/
theorem Reads.code_cases {i : Nat} {code : String} (h : Reads settings kind tokens rule)
    (hop : rule.operations[i]? = some op) (hcode : op.code? = some code) :
    (∃ token ∈ tokens, writtenCode? token = some code) ∨ code = settings.defaultCode ∨
      code = notInCode := by
  obtain ⟨token, htoken, hreads⟩ := h.exists_token hop
  have hnot : ¬ op.IsMarker := by
    intro hmarker
    rw [hmarker.code?_eq_none] at hcode
    cases hcode
  rw [hreads.code?_eq, fallback?_forTokens hnot, Option.map_some, Option.some.injEq] at hcode
  have hmem := List.mem_of_getElem? htoken
  cases hwritten : writtenCode? token with
  | some code' =>
    rw [hwritten, Option.getD_some] at hcode
    exact .inl ⟨token, hmem, hcode ▸ hwritten⟩
  | none =>
    rw [hwritten, Option.getD_none] at hcode
    cases hrequired : rule.requiredCode with
    | none =>
      rw [hrequired, Option.getD_none] at hcode
      split at hcode
      · exact .inr (.inr hcode.symm)
      · exact .inr (.inl hcode.symm)
    | some code' =>
      -- The code of the `REQ` is that of the first token.
      obtain ⟨first, rest, rfl⟩ := h.exists_cons
      have hfirst := h.requiredCode_eq hrequired
      rw [hrequired, Option.getD_some] at hcode
      subst hcode
      cases hwritten' : writtenCode? first with
      | some code =>
        rw [hwritten', Option.getD_some] at hfirst
        exact .inl ⟨first, List.mem_cons_self, hfirst ▸ hwritten'⟩
      | none =>
        rw [hwritten', Option.getD_none] at hfirst
        exact .inr (.inl hfirst)

end Rule

namespace FieldValidator

variable {σ : Type} {settings : RuleSettings} {type : Subject σ} {rule : FieldRule}
  {v : FieldValidator}

/-- In a rule that was built a `REQ` stands first or nowhere, and its code, written or the default
    code, is the one for a missing value.  Every other operation but the markers has the code that
    is written in its token, else that of the `REQ`, else `NOT_IN` if it is an `IN` and the default
    code if it is not.  So no other codes are ever reported; and which operation a token gives
    depends on no token but itself and the first. -/
theorem build_codes (hbuild : (build settings type rule).value = .ok v) :
    v.rule.operations.length = rule.tokens.length ∧
    (∀ (i : Nat) code, v.rule.operations[i]? = some (.required code) → i = 0) ∧
    (∀ code, v.rule.requiredCode = some code ↔
      v.rule.operations[0]? = some (.required code)) ∧
    (∀ code token, v.rule.requiredCode = some code → rule.tokens[0]? = some token →
      code = (Rule.writtenCode? token).getD settings.defaultCode) ∧
    (∀ (i : Nat) token (op : Operation), rule.tokens[i]? = some token →
      v.rule.operations[i]? = some op →
      (op.IsMarker → op.code? = none) ∧
      (¬ op.IsMarker → op.code? = some ((Rule.writtenCode? token).getD
        (v.rule.requiredCode.getD
          (if op.opcode = .oneOf then Rule.notInCode else settings.defaultCode))))) ∧
    (∀ subject, ∀ code ∈ (v.validate type subject).value.codes,
      (∃ token ∈ rule.tokens, Rule.writtenCode? token = some code) ∨
        code = settings.defaultCode ∨ code = Rule.notInCode) ∧
    ∀ {τ : Type} (type' : Subject τ) (rule' : FieldRule) (v' : FieldValidator),
      (build settings type' rule').value = .ok v' → v'.kind = v.kind →
      rule'.tokens[0]? = rule.tokens[0]? →
      ∀ (i j : Nat) token, rule.tokens[i]? = some token → rule'.tokens[j]? = some token →
        v.rule.operations[i]? = v'.rule.operations[j]? := by
  have hreads : Rule.Reads settings v.kind rule.tokens v.rule :=
    Rule.parse_eq_ok_iff_reads.1 (build_value_eq_ok_iff.1 hbuild).2.2
  refine ⟨hreads.forall₂.length_eq.symm, fun i code => hreads.eq_zero_of_required, ?_, ?_, ?_, ?_,
    ?_⟩
  · intro code
    rw [hreads.requiredCode_eq_some_iff, List.head?_eq_getElem?]
  · intro code token hcode htoken
    obtain ⟨rest, htokens⟩ := List.head?_eq_some_iff.1 (List.head?_eq_getElem?.trans htoken)
    rw [htokens] at hreads
    exact hreads.requiredCode_eq hcode
  · intro i token op htoken hop
    refine ⟨Operation.IsMarker.code?_eq_none, fun hnot => ?_⟩
    obtain ⟨op', hop', htokenReads⟩ := Rule.getElem?_of_forall₂ hreads.forall₂ htoken
    obtain rfl := Option.some.inj (hop.symm.trans hop')
    rw [htokenReads.code?_eq, Rule.fallback?_forTokens hnot]
    rfl
  · intro subject code hcode
    obtain ⟨v', hbuild', -, -, hsublist⟩ := givesAlone_validate hbuild subject
    obtain rfl := Except.ok.inj (hbuild.symm.trans hbuild')
    obtain ⟨op, hop, hcode⟩ := List.mem_filterMap.1 (hsublist.subset hcode)
    obtain ⟨i, hi⟩ := List.getElem?_of_mem hop
    exact hreads.code_cases hi hcode
  · intro τ type' rule' v' hbuild' hkind hfirst i j token htoken htoken'
    have hreads' : Rule.Reads settings v'.kind rule'.tokens v'.rule :=
      Rule.parse_eq_ok_iff_reads.1 (build_value_eq_ok_iff.1 hbuild').2.2
    rw [hkind] at hreads'
    exact hreads.getElem?_eq hreads' hfirst htoken htoken'

/-- After a `REQ` with a code an `IN` has this code, a `BREAK` has none, and a `RANGE` keeps its
    own. -/
theorem build_codes_missing :
    let tokens := ["REQ:MISSING", "IN:1,2", "BREAK", "RANGE:1-5:FAR"]
    ∃ v, (build ⟨"INVALID", []⟩ Validator.number ⟨"n", tokens⟩).value = .ok v ∧
      v.rule.requiredCode = some "MISSING" ∧ v.rule.operations.length = 4 ∧
      (∃ op, v.rule.operations[1]? = some op ∧ op.code? = some "MISSING") ∧
      (∃ op, v.rule.operations[2]? = some op ∧ op.code? = none) ∧
      ∃ op, v.rule.operations[3]? = some op ∧ op.code? = some "FAR" := by
  intro tokens
  have hpath : FieldPath.parse "n" = .ok ⟨"n", [.name "n"]⟩ := by cbv
  have hbuild : (build ⟨"INVALID", []⟩ Validator.number ⟨"n", tokens⟩).value =
      .ok ⟨⟨"n", [.name "n"]⟩, .int64, ⟨[.required "MISSING", .oneOf [.int 1, .int 2] "MISSING",
        .stopField, .range (some (.int 1)) (some (.int 5)) "FAR"], some "MISSING"⟩⟩ :=
    build_value_eq_ok_iff.2 ⟨hpath, rfl, rfl⟩
  obtain ⟨hlength, -, -, -, hcodes, -, -⟩ := build_codes hbuild
  refine ⟨_, hbuild, rfl, hlength, ⟨_, rfl, ?_⟩, ⟨_, rfl, ?_⟩, ⟨_, rfl, ?_⟩⟩
  · exact (hcodes 1 "IN:1,2" _ rfl rfl).2 (by simp [Operation.IsMarker])
  · exact (hcodes 2 "BREAK" _ rfl rfl).1 (.inl rfl)
  · exact (hcodes 3 "RANGE:1-5:FAR" _ rfl rfl).2 (by simp [Operation.IsMarker])

end FieldValidator

end Endpoint
