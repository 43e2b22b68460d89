import Endpoint.Proofs.List
import Endpoint.Proofs.Rule.Grammar

/-!
# Rules that are accepted

Reading a list of tokens succeeds exactly for the rules of the grammar.  The code of a `REQ`
that comes first is looked up before the tokens are read one by one; both readings of the
first token agree.
-/

namespace Endpoint.Rule

/-! ## Operations -/

variable {s : TokenSettings} {token : String} {params : List String} {op : Operation}

theorem readOperation_required_iff :
    readOperation s token .required params = .ok op ↔ OperationReads s .required params op := by
  simp only [readOperation, Except.bind_eq_ok_iff,
    Except.pure_eq_ok_iff, checkCount_eq_ok_iff, length_at_most_one_iff, readCode_eq_ok_iff]
  constructor
  · rintro ⟨-, ⟨written, rfl⟩, code, hcode, rfl⟩
    rw [getElem?_toList_zero] at hcode
    exact .required hcode
  · intro h
    cases h with
    | @required written code hcode =>
      exact ⟨(), ⟨written, rfl⟩, code, by rwa [getElem?_toList_zero], rfl⟩

theorem readOperation_stopField_iff :
    readOperation s token .stopField params = .ok op ↔ OperationReads s .stopField params op := by
  simp only [readOperation, Except.bind_eq_ok_iff, Except.pure_eq_ok_iff, checkCount_eq_ok_iff,
    length_at_most_zero_iff]
  constructor
  · rintro ⟨-, rfl, rfl⟩
    exact .stopField
  · rintro ⟨⟩
    exact ⟨(), rfl, rfl⟩

theorem readOperation_stopAll_iff :
    readOperation s token .stopAll params = .ok op ↔ OperationReads s .stopAll params op := by
  simp only [readOperation, Except.bind_eq_ok_iff, Except.pure_eq_ok_iff, checkCount_eq_ok_iff,
    length_at_most_zero_iff]
  constructor
  · rintro ⟨-, rfl, rfl⟩
    exact .stopAll
  · rintro ⟨⟩
    exact ⟨(), rfl, rfl⟩

/-- An operation of one text and perhaps a code is read once both of them are. -/
theorem textAndCode_eq_ok_iff {α : Type} {f : String → Except RuleError α}
    {g : α → String → Operation} {fallback : String} :
    (do
      checkCount token params 1 2
      let a ← f (params.headD "")
      let code ← readCode token params[1]? fallback
      pure (g a code) : Except RuleError Operation) = .ok op ↔
    ∃ text a code, ∃ written : Option String, params = text :: written.toList ∧ f text = .ok a ∧
      CodeReads fallback written code ∧ g a code = op := by
  simp only [Except.bind_eq_ok_iff, Except.pure_eq_ok_iff, checkCount_eq_ok_iff,
    length_between_one_two_iff, readCode_eq_ok_iff]
  constructor
  · rintro ⟨-, ⟨text, written, rfl⟩, a, ha, code, hcode, rfl⟩
    rw [getElem?_cons_toList_one] at hcode
    exact ⟨text, a, code, written, rfl, ha, hcode, rfl⟩
  · rintro ⟨text, a, code, written, rfl, ha, hcode, rfl⟩
    exact ⟨(), ⟨text, written, rfl⟩, a, ha, code, by rwa [getElem?_cons_toList_one], rfl⟩

theorem readOperation_oneOf_iff :
    readOperation s token .oneOf params = .ok op ↔ OperationReads s .oneOf params op := by
  refine (textAndCode_eq_ok_iff (g := .oneOf)
    (f := fun text => readLiterals token s.kind (pieces ',' text))).trans ?_
  simp only [readLiterals_eq_ok_iff]
  constructor
  · rintro ⟨text, members, code, written, rfl, hmembers, hcode, rfl⟩
    exact .oneOf (pieces_splitsInto ',' text) hmembers hcode
  · intro h
    cases h with
    | @oneOf text raws members written code hraws hmembers hcode =>
      exact ⟨text, members, code, written, rfl, by rwa [pieces_eq_iff.2 hraws], hcode, rfl⟩

theorem readOperation_range_iff :
    readOperation s token .range params = .ok op ↔ OperationReads s .range params op := by
  refine (textAndCode_eq_ok_iff (g := fun bounds code => .range bounds.1 bounds.2 code)
    (f := readBounds token s.kind (Scalar.ofLiteral? s.kind)
      fun a b => a.compare? b == some .gt)).trans ?_
  constructor
  · rintro ⟨text, ⟨least, greatest⟩, code, written, rfl, hbounds, hcode, rfl⟩
    rw [readBounds_eq_ok_iff] at hbounds
    exact .range (by simpa using hbounds) hcode
  · intro h
    cases h with
    | @range text least greatest written code hbounds hcode =>
      refine ⟨text, (least, greatest), code, written, rfl, ?_, hcode, rfl⟩
      rw [readBounds_eq_ok_iff]
      simpa using hbounds

theorem readOperation_length_iff :
    readOperation s token .length params = .ok op ↔ OperationReads s .length params op := by
  refine (textAndCode_eq_ok_iff (g := fun bounds code => .length bounds.1 bounds.2 code)
    (f := readBounds token s.kind readLength? fun a b => decide (b < a))).trans ?_
  constructor
  · rintro ⟨text, ⟨least, greatest⟩, code, written, rfl, hbounds, hcode, rfl⟩
    rw [readBounds_eq_ok_iff] at hbounds
    exact .length (by simpa using hbounds) hcode
  · intro h
    cases h with
    | @length text least greatest written code hbounds hcode =>
      refine ⟨text, (least, greatest), code, written, rfl, ?_, hcode, rfl⟩
      rw [readBounds_eq_ok_iff]
      simpa using hbounds

/-- Several parameters of a `REG` token are the pieces of a pattern, and a code. -/
theorem patternParts_append {parts : List String} {code : String} (hparts : parts ≠ []) :
    patternParts (parts ++ [code]) = (":".intercalate parts, some code) := by
  obtain ⟨part, rest, rfl⟩ := List.exists_cons_of_ne_nil hparts
  rw [patternParts, List.dropLast_concat, List.getLast?_concat]
  intro pattern hpattern
  simp at hpattern

/-- The parameters of a `REG` token are none, a pattern, or the pieces of one and a code. -/
theorem params_cases (params : List String) :
    params = [] ∨ (∃ source, params = [source]) ∨
      ∃ parts code, parts ≠ [] ∧ params = parts ++ [code] := by
  rcases params.eq_nil_or_concat with rfl | ⟨parts, code, rfl⟩
  · exact .inl rfl
  · cases parts with
    | nil => exact .inr (.inl ⟨code, rfl⟩)
    | cons part rest => exact .inr (.inr ⟨part :: rest, code, by simp, by simp⟩)

/-- A `REG` token with parameters is read once its pattern and its code are. -/
theorem readOperation_pattern_of_ne_nil (hparams : params ≠ []) :
    readOperation s token .pattern params = .ok op ↔
      ∃ program code, Program.ofText? (patternParts params).1 = some program ∧
        CodeReads s.fallback (patternParts params).2 code ∧
        .pattern (patternParts params).1 program code = op := by
  rw [readOperation, if_neg (by simpa using hparams)]
  cases hp : Program.ofText? (patternParts params).1 with
  | none => simp [hp, Except.throw_ne_ok]
  | some program =>
    simp only [hp, Except.bind_eq_ok_iff, Except.pure_eq_ok_iff, readCode_eq_ok_iff]
    constructor
    · rintro ⟨code, hcode, rfl⟩
      exact ⟨program, code, rfl, hcode, rfl⟩
    · rintro ⟨program', code, hp', hcode, rfl⟩
      obtain rfl : program = program' := Option.some.inj hp'
      exact ⟨code, hcode, rfl⟩

theorem readOperation_pattern_iff :
    readOperation s token .pattern params = .ok op ↔ OperationReads s .pattern params op := by
  constructor
  · intro h
    rcases params_cases params with rfl | ⟨source, rfl⟩ | ⟨parts, code, hparts, rfl⟩
    · simp [readOperation, Except.bind_eq_ok_iff, Except.throw_ne_ok] at h
    · obtain ⟨program, code, hp, ⟨⟩, rfl⟩ := (readOperation_pattern_of_ne_nil (by simp)).1 h
      exact .pattern hp
    · obtain ⟨program, _, hp, hcode, rfl⟩ := (readOperation_pattern_of_ne_nil (by simp)).1 h
      rw [patternParts_append hparts] at hp hcode ⊢
      cases hcode with
      | written hcode => exact .patternWithCode hparts hp hcode
  · intro h
    cases h with
    | pattern hp =>
      exact (readOperation_pattern_of_ne_nil (by simp)).2 ⟨_, _, hp, .absent, rfl⟩
    | patternWithCode hparts hp hcode =>
      rw [readOperation_pattern_of_ne_nil (by simp), patternParts_append hparts]
      exact ⟨_, _, hp, .written hcode, rfl⟩

theorem readOperation_flag_iff :
    readOperation s token .flag params = .ok op ↔ OperationReads s .flag params op := by
  simp only [readOperation, Except.bind_eq_ok_iff, checkCount_eq_ok_iff,
    length_between_one_two_iff]
  constructor
  · rintro ⟨-, ⟨text, written, rfl⟩, h⟩
    rw [List.headD_cons, getElem?_cons_toList_one] at h
    split at h
    · rename_i htrue
      simp only [Except.bind_eq_ok_iff, Except.pure_eq_ok_iff, readCode_eq_ok_iff] at h
      obtain ⟨code, hcode, rfl⟩ := h
      rw [htrue]
      exact .flagTrue hcode
    · split at h
      · rename_i hfalse
        simp only [Except.bind_eq_ok_iff, Except.pure_eq_ok_iff, readCode_eq_ok_iff] at h
        obtain ⟨code, hcode, rfl⟩ := h
        rw [hfalse]
        exact .flagFalse hcode
      · exact absurd h Except.throw_ne_ok
  · intro h
    cases h with
    | @flagTrue written code hcode =>
      refine ⟨(), ⟨_, written, rfl⟩, ?_⟩
      rw [List.headD_cons, getElem?_cons_toList_one, if_pos rfl, readCode_eq_ok_iff.2 hcode]
      rfl
    | @flagFalse written code hcode =>
      refine ⟨(), ⟨_, written, rfl⟩, ?_⟩
      rw [List.headD_cons, getElem?_cons_toList_one, if_neg (by decide), if_pos rfl,
        readCode_eq_ok_iff.2 hcode]
      rfl

theorem readOperation_external_iff :
    readOperation s token .external params = .ok op ↔ OperationReads s .external params op := by
  simp only [readOperation, Except.bind_eq_ok_iff, checkCount_eq_ok_iff,
    length_between_one_two_iff]
  constructor
  · rintro ⟨-, ⟨name, written, rfl⟩, h⟩
    rw [List.headD_cons, getElem?_cons_toList_one] at h
    split at h
    · exact absurd h Except.throw_ne_ok
    · rename_i checker hchecker
      split at h
      · rename_i hsupports
        simp only [Except.bind_eq_ok_iff, Except.pure_eq_ok_iff, readCode_eq_ok_iff] at h
        obtain ⟨code, hcode, rfl⟩ := h
        exact .external hchecker hsupports hcode
      · exact absurd h Except.throw_ne_ok
  · intro h
    cases h with
    | @external name checker written code hchecker hsupports hcode =>
      refine ⟨(), ⟨_, written, rfl⟩, ?_⟩
      rw [List.headD_cons, getElem?_cons_toList_one, hchecker]
      simp only [hsupports, if_true, readCode_eq_ok_iff.2 hcode]
      rfl

/-- Reading an operation finds the one that the opcode and the parameters stand for. -/
theorem readOperation_eq_ok_iff {opcode : Opcode} :
    readOperation s token opcode params = .ok op ↔ OperationReads s opcode params op := by
  cases opcode with
  | required => exact readOperation_required_iff
  | oneOf => exact readOperation_oneOf_iff
  | range => exact readOperation_range_iff
  | length => exact readOperation_length_iff
  | pattern => exact readOperation_pattern_iff
  | flag => exact readOperation_flag_iff
  | stopField => exact readOperation_stopField_iff
  | stopAll => exact readOperation_stopAll_iff
  | external => exact readOperation_external_iff

/-! ## Tokens -/

theorem ofWord?_eq_some_iff {word : String} {opcode : Opcode} :
    Opcode.ofWord? word = some opcode ↔ word = opcode.word := by
  constructor
  · intro h
    have hfound := List.find?_some h
    exact (beq_iff_eq.1 hfound).symm
  · rintro rfl
    exact Opcode.ofWord?_word opcode

/-- Each opcode has a word of its own. -/
theorem word_injective {a b : Opcode} (h : a.word = b.word) : a = b := by
  have ha := Opcode.ofWord?_word a
  rw [h, Opcode.ofWord?_word] at ha
  exact (Option.some.inj ha).symm

/-- Reading a token finds the operation that it stands for. -/
theorem readToken_eq_ok_iff : readToken s token = .ok op ↔ TokenReads s token op := by
  rw [readToken]
  constructor
  · intro h
    split at h
    · simp at h
    · rename_i word params hpieces
      split at h
      · simp at h
      · rename_i opcode hword
        split at h
        · rename_i hsupports
          rw [ofWord?_eq_some_iff.1 hword] at hpieces
          exact .operation (pieces_eq_iff.1 hpieces) hsupports (readOperation_eq_ok_iff.1 h)
        · simp at h
  · rintro ⟨hsplits, hsupports, hop⟩
    rw [pieces_eq_iff.2 hsplits]
    simp only [Opcode.ofWord?_word, hsupports, if_true]
    exact readOperation_eq_ok_iff.2 hop

/-- A token stands for one operation at most. -/
theorem TokenReads.unique {op' : Operation} (h : TokenReads s token op)
    (h' : TokenReads s token op') : op = op' := by
  rw [← readToken_eq_ok_iff] at h h'
  rw [h] at h'
  exact Except.ok.inj h'

/-- The operation of a token has the opcode that the token starts with. -/
theorem OperationReads.opcode_eq {opcode : Opcode} (h : OperationReads s opcode params op) :
    op.opcode = opcode := by
  cases h <;> rfl

/-- The tokens that stand for a `REQ` operation are those that start with its word. -/
theorem TokenReads.isRequired_iff (h : TokenReads s token op) :
    IsRequired token ↔ op.opcode = .required := by
  obtain ⟨hsplits, -, hop⟩ := h
  rw [hop.opcode_eq]
  constructor
  · rintro ⟨params', hsplits'⟩
    rw [← pieces_eq_iff] at hsplits hsplits'
    rw [hsplits] at hsplits'
    exact word_injective (b := .required) (List.cons.inj hsplits').1
  · rintro rfl
    exact ⟨_, hsplits⟩

/-! ## Rules -/

variable {rest : List String} {ops : List Operation}

theorem opcode_eq_required_iff : op.opcode = .required ↔ ∃ code, op = .required code := by
  cases op <;> simp [Operation.opcode]

/-- A token after the first is put before what the rest is read as, unless it is a `REQ`. -/
theorem readRest_cons (hop : readToken s token = .ok op) (hne : op.opcode ≠ .required) :
    readRest s (token :: rest) = (op :: ·) <$> readRest s rest := by
  rw [readRest, hop]
  cases op with
  | required code => exact absurd rfl hne
  | _ => rfl

theorem readRest_cons_required {code : String} (hop : readToken s token = .ok (.required code)) :
    readRest s (token :: rest) ≠ .ok ops := by
  rw [readRest, hop]
  exact Except.throw_ne_ok

theorem readRest_cons_eq_ok_iff :
    readRest s (token :: rest) = .ok ops ↔
      ∃ op ops', TokenReads s token op ∧ ¬ IsRequired token ∧ readRest s rest = .ok ops' ∧
        ops = op :: ops' := by
  constructor
  · intro h
    have hread := h
    rw [readRest] at hread
    obtain ⟨op, hop, -⟩ := Except.bind_eq_ok_iff.1 hread
    have hreads := readToken_eq_ok_iff.1 hop
    by_cases hreq : op.opcode = .required
    · obtain ⟨code, rfl⟩ := opcode_eq_required_iff.1 hreq
      exact absurd h (readRest_cons_required hop)
    · rw [readRest_cons hop hreq] at h
      obtain ⟨ops', hops', rfl⟩ := Except.map_eq_ok_iff.1 h
      exact ⟨op, ops', hreads, hreads.isRequired_iff.not.2 hreq, hops', rfl⟩
  · rintro ⟨op, ops', hop, hne, hops', rfl⟩
    rw [readRest_cons (readToken_eq_ok_iff.2 hop) (hop.isRequired_iff.not.1 hne), hops']
    rfl

/-- The tokens after the first are read one by one; none of them is a `REQ`. -/
theorem readRest_eq_ok_iff {tokens : List String} :
    readRest s tokens = .ok ops ↔
      List.Forall₂ (TokenReads s) tokens ops ∧ ∀ t ∈ tokens, ¬ IsRequired t := by
  induction tokens generalizing ops with
  | nil =>
    rw [readRest, List.forall₂_nil_left_iff, Except.ok.injEq, eq_comm]
    simp
  | cons token rest ih =>
    rw [readRest_cons_eq_ok_iff, List.forall₂_cons_left_iff, List.forall_mem_cons]
    constructor
    · rintro ⟨op, ops', hop, hne, hops', rfl⟩
      obtain ⟨hreads, hnone⟩ := ih.1 hops'
      exact ⟨⟨op, ops', hop, hreads, rfl⟩, hne, hnone⟩
    · rintro ⟨⟨op, ops', hop, hreads, rfl⟩, hne, hnone⟩
      exact ⟨op, ops', hop, hne, ih.2 ⟨hreads, hnone⟩, rfl⟩

/-! ## The code of a leading `REQ` -/

theorem requiredCodeOf_of_splitsInto {defaultCode : String} {written : Option String}
    (h : SplitsInto ':' token ("REQ" :: written.toList)) :
    requiredCodeOf defaultCode token = (readCode token written defaultCode).map some := by
  rw [requiredCodeOf, pieces_eq_iff.2 h]
  cases written with
  | none => rfl
  | some code => rfl

theorem requiredCodeOf_of_not {defaultCode : String}
    (h : ∀ written : Option String, ¬ SplitsInto ':' token ("REQ" :: written.toList)) :
    requiredCodeOf defaultCode token = .ok none := by
  rw [requiredCodeOf]
  split
  · rename_i hpieces
    exact absurd (pieces_eq_iff.1 hpieces) (h none)
  · rename_i code hpieces
    exact absurd (pieces_eq_iff.1 hpieces) (h (some code))
  · rfl

/-- A token stands for a `REQ` operation if it is the word and perhaps a code. -/
theorem tokenReads_required_iff {code : String} :
    TokenReads s token (.required code) ↔
      ∃ written : Option String, SplitsInto ':' token ("REQ" :: written.toList) ∧
        Opcode.required.supports s.kind = true ∧ CodeReads s.fallback written code := by
  constructor
  · rintro ⟨hsplits, hsupports, hop⟩
    cases hop with
    | required hcode => exact ⟨_, hsplits, hsupports, hcode⟩
  · rintro ⟨written, hsplits, hsupports, hcode⟩
    exact @TokenReads.operation s token _ .required _ hsplits hsupports (.required hcode)

/-- With the code that a token yields as fallback, the token yields the same code. -/
theorem CodeReads.eq_of_self {fallback code code' : String} {written : Option String}
    (h : CodeReads fallback written code) : CodeReads code written code' ↔ code' = code := by
  constructor
  · intro h'
    cases h' with
    | absent => rfl
    | written _ => cases h; rfl
  · rintro rfl
    cases h with
    | absent => exact .absent
    | written hne => exact .written hne

theorem parse_cons_eq_ok_iff {settings : RuleSettings} {kind : Kind} {rule : Rule} :
    parse settings kind (token :: rest) = .ok rule ↔
      ∃ requiredCode op ops, requiredCodeOf settings.defaultCode token = .ok requiredCode ∧
        TokenReads (settings.forTokens kind requiredCode) token op ∧
        readRest (settings.forTokens kind requiredCode) rest = .ok ops ∧
        rule = ⟨op :: ops, requiredCode⟩ := by
  simp only [parse, Except.bind_eq_ok_iff, Except.pure_eq_ok_iff, readToken_eq_ok_iff]
  constructor
  · rintro ⟨requiredCode, hcode, op, hop, ops, hops, rfl⟩
    exact ⟨requiredCode, op, ops, hcode, hop, hops, rfl⟩
  · rintro ⟨requiredCode, op, ops, hcode, hop, hops, rfl⟩
    exact ⟨requiredCode, hcode, op, hop, ops, hops, rfl⟩

/-- Reading a rule finds the one that the tokens stand for. -/
theorem parse_eq_ok_iff_reads {settings : RuleSettings} {kind : Kind} {tokens : List String}
    {rule : Rule} : parse settings kind tokens = .ok rule ↔ Reads settings kind tokens rule := by
  cases tokens with
  | nil =>
    constructor
    · intro h
      simp [parse] at h
    · intro h
      cases h with
      | plain hne _ _ => exact absurd rfl hne
  | cons token rest =>
    rw [parse_cons_eq_ok_iff]
    constructor
    · rintro ⟨requiredCode, op, ops, hcode, hop, hops, rfl⟩
      obtain ⟨hreads, hnone⟩ := readRest_eq_ok_iff.1 hops
      by_cases hreq : op.opcode = .required
      · -- both readings of the token find the same code
        obtain ⟨code, rfl⟩ := opcode_eq_required_iff.1 hreq
        obtain ⟨written, hsplits, hsupports, hwritten⟩ := tokenReads_required_iff.1 hop
        rw [requiredCodeOf_of_splitsInto hsplits] at hcode
        obtain ⟨code', hcode', rfl⟩ := Except.map_eq_ok_iff.1 hcode
        rw [readCode_eq_ok_iff] at hcode'
        obtain rfl := hcode'.eq_of_self.1 hwritten
        exact .required (tokenReads_required_iff.2 ⟨written, hsplits, hsupports, hcode'⟩)
          hreads hnone
      · have hnot : ¬ IsRequired token := hop.isRequired_iff.not.2 hreq
        rw [requiredCodeOf_of_not fun written h => hnot ⟨_, h⟩] at hcode
        obtain rfl := Except.ok.inj hcode
        exact .plain (by simp) (.cons hop hreads) (List.forall_mem_cons.2 ⟨hnot, hnone⟩)
    · intro h
      cases h with
      | @required _ _ code ops hop hreads hnone =>
        obtain ⟨written, hsplits, hsupports, hwritten⟩ := tokenReads_required_iff.1 hop
        have hcode : readCode token written settings.defaultCode = .ok code :=
          readCode_eq_ok_iff.2 hwritten
        refine ⟨some code, .required code, ops, ?_, ?_, readRest_eq_ok_iff.2 ⟨hreads, hnone⟩, rfl⟩
        · rw [requiredCodeOf_of_splitsInto hsplits, hcode]
          rfl
        · exact tokenReads_required_iff.2
            ⟨written, hsplits, hsupports, hwritten.eq_of_self.2 rfl⟩
      | @plain _ ops _ hreads hnone =>
        obtain ⟨op, ops, hop, hrest, rfl⟩ := List.forall₂_cons_left_iff.1 hreads
        obtain ⟨hnot, hnone⟩ := List.forall_mem_cons.1 hnone
        exact ⟨none, op, ops, requiredCodeOf_of_not fun written h => hnot ⟨_, h⟩, hop,
          readRest_eq_ok_iff.2 ⟨hrest, hnone⟩, rfl⟩

/-! ## Acceptance -/

variable {settings : RuleSettings} {kind : Kind} {tokens : List String} {rule : Rule}

/-- Whether there is a code for a token does not depend on what it falls back to. -/
theorem CodeReads.exists_of {fallback code : String} {written : Option String}
    (h : CodeReads fallback written code) (fallback' : String) :
    ∃ code', CodeReads fallback' written code' := by
  cases h with
  | absent => exact ⟨_, .absent⟩
  | written hne => exact ⟨_, .written hne⟩

/-- Whether a token stands for an operation does not depend on what codes it falls back to. -/
theorem OperationReads.exists_of {opcode : Opcode} (h : OperationReads s opcode params op)
    (fallback : String) (requiredCode : Option String) :
    ∃ op', OperationReads ⟨s.kind, s.checkers, fallback, requiredCode⟩ opcode params op' := by
  cases h with
  | required hcode =>
    obtain ⟨_, hcode⟩ := hcode.exists_of fallback
    exact ⟨_, .required hcode⟩
  | stopField => exact ⟨_, .stopField⟩
  | stopAll => exact ⟨_, .stopAll⟩
  | oneOf hraws hmembers hcode =>
    obtain ⟨_, hcode⟩ := hcode.exists_of (requiredCode.getD notInCode)
    exact ⟨_, .oneOf hraws hmembers hcode⟩
  | range hbounds hcode =>
    obtain ⟨_, hcode⟩ := hcode.exists_of fallback
    exact ⟨_, .range hbounds hcode⟩
  | length hbounds hcode =>
    obtain ⟨_, hcode⟩ := hcode.exists_of fallback
    exact ⟨_, .length hbounds hcode⟩
  | pattern hp => exact ⟨_, .pattern hp⟩
  | patternWithCode hparts hp hcode => exact ⟨_, .patternWithCode hparts hp hcode⟩
  | flagTrue hcode =>
    obtain ⟨_, hcode⟩ := hcode.exists_of fallback
    exact ⟨_, .flagTrue hcode⟩
  | flagFalse hcode =>
    obtain ⟨_, hcode⟩ := hcode.exists_of fallback
    exact ⟨_, .flagFalse hcode⟩
  | external hchecker hsupports hcode =>
    obtain ⟨_, hcode⟩ := hcode.exists_of fallback
    exact ⟨_, .external hchecker hsupports hcode⟩

theorem wellFormed_iff_exists_tokenReads {checkers : CheckerRegistry} (fallback : String)
    (requiredCode : Option String) :
    WellFormed kind checkers token ↔
      ∃ op, TokenReads ⟨kind, checkers, fallback, requiredCode⟩ token op := by
  constructor
  · rintro ⟨_, _, op, hsplits, hsupports, hop⟩
    obtain ⟨op', hop'⟩ := hop.exists_of fallback requiredCode
    exact ⟨op', .operation hsplits hsupports hop'⟩
  · rintro ⟨op, hop⟩
    exact ⟨fallback, requiredCode, op, hop⟩

/-- Every operation of a rule is the one that its token stands for. -/
theorem Reads.forall₂ (h : Reads settings kind tokens rule) :
    List.Forall₂ (TokenReads (settings.forTokens kind rule.requiredCode)) tokens
      rule.operations := by
  cases h with
  | required hop hreads _ =>
    obtain ⟨written, hsplits, hsupports, hwritten⟩ := tokenReads_required_iff.1 hop
    refine .cons ?_ hreads
    exact tokenReads_required_iff.2 ⟨written, hsplits, hsupports, hwritten.eq_of_self.2 rfl⟩
  | plain _ hreads _ => exact hreads

theorem getElem?_of_forall₂ {α β : Type} {R : α → β → Prop} {as : List α} {bs : List β} {i : Nat}
    {a : α} (h : List.Forall₂ R as bs) (ha : as[i]? = some a) : ∃ b, bs[i]? = some b ∧ R a b := by
  induction h generalizing i with
  | nil => simp at ha
  | @cons a' b' _ _ hab _ ih =>
    cases i with
    | zero =>
      obtain rfl : a' = a := by simpa using ha
      exact ⟨b', rfl, hab⟩
    | succ i => exact ih (by simpa using ha)

/-- Tokens stand for a rule when each is well formed and only the first may be a `REQ`. -/
theorem exists_reads_iff :
    (∃ rule, Reads settings kind tokens rule) ↔
      tokens ≠ [] ∧ (∀ t ∈ tokens.tail, ¬ IsRequired t) ∧
        ∀ t ∈ tokens, WellFormed kind settings.checkers t := by
  constructor
  · rintro ⟨rule, h⟩
    refine ⟨?_, ?_, ?_⟩
    · cases h with
      | required _ _ _ => simp
      | plain hne _ _ => exact hne
    · cases h with
      | required _ _ hnone => exact hnone
      | plain _ _ hnone => exact fun t ht => hnone t (List.mem_of_mem_tail ht)
    · intro t ht
      obtain ⟨i, hi⟩ := List.getElem?_of_mem ht
      obtain ⟨op, -, hop⟩ := getElem?_of_forall₂ h.forall₂ hi
      exact (wellFormed_iff_exists_tokenReads _ _).2 ⟨op, hop⟩
  · rintro ⟨hne, hnone, hwell⟩
    obtain ⟨token, rest, rfl⟩ := List.exists_cons_of_ne_nil hne
    obtain ⟨hfirst, hrest⟩ := List.forall_mem_cons.1 hwell
    obtain ⟨op, hop⟩ := (wellFormed_iff_exists_tokenReads settings.defaultCode none).1 hfirst
    by_cases hreq : op.opcode = .required
    · obtain ⟨code, rfl⟩ := opcode_eq_required_iff.1 hreq
      obtain ⟨ops, hops⟩ := exists_forall₂_iff.2 fun t ht =>
        (wellFormed_iff_exists_tokenReads code (some code)).1 (hrest t ht)
      exact ⟨_, .required hop hops hnone⟩
    · obtain ⟨ops, hops⟩ := exists_forall₂_iff.2 fun t ht =>
        (wellFormed_iff_exists_tokenReads settings.defaultCode none).1 (hrest t ht)
      exact ⟨_, .plain hne (.cons hop hops)
        (List.forall_mem_cons.2 ⟨hop.isRequired_iff.not.2 hreq, hnone⟩)⟩

/-- A `REG` token with a pattern and a code splits into the pieces of the pattern and the
    code, whatever colons the pattern has. -/
theorem splitsInto_pattern_token {p code : String} (hfree : ':' ∉ code.toList) :
    SplitsInto ':' ("REG:" ++ p ++ ":" ++ code) ("REG" :: (pieces ':' p ++ [code])) where
  nonempty := by simp
  free := by
    intro part hpart
    rcases List.mem_cons.1 hpart with rfl | hpart
    · decide
    · rcases List.mem_append.1 hpart with hpart | hpart
      · exact toList_of_mem_pieces hpart
      · rwa [List.mem_singleton.1 hpart]
  joined := by
    have hcolon : String.singleton ':' = ":" := rfl
    rw [String.intercalate_cons_of_ne_nil (by simp),
      String.intercalate_append_of_ne_nil (pieces_ne_nil ':' p) (by simp), intercalate_pieces,
      String.intercalate_singleton, hcolon]
    simp [← String.append_assoc]

/-- A `REG` token with a pattern and a code stands for the operation with this pattern and this
    code, and for no other. -/
theorem tokenReads_pattern_iff {p code : String} {program : Program}
    (hp : Program.ofText? p = some program) (hne : code ≠ "") (hfree : ':' ∉ code.toList)
    (hsupports : Opcode.pattern.supports s.kind = true) :
    TokenReads s ("REG:" ++ p ++ ":" ++ code) op ↔ op = .pattern p program code := by
  have hreads : TokenReads s ("REG:" ++ p ++ ":" ++ code) (.pattern p program code) := by
    have hjoined : ":".intercalate (pieces ':' p) = p := intercalate_pieces ':' p
    have hop : OperationReads s .pattern (pieces ':' p ++ [code]) (.pattern p program code) := by
      have h := @OperationReads.patternWithCode s (pieces ':' p) program code
        (pieces_ne_nil ':' p) (by rwa [hjoined]) hne
      rwa [hjoined] at h
    exact @TokenReads.operation s _ _ .pattern _ (splitsInto_pattern_token hfree) hsupports hop
  constructor
  · intro h
    exact h.unique hreads
  · rintro rfl
    exact hreads

/-- Reading a rule succeeds exactly when there is at least one token, only the first token is
    a `REQ` if any is, and every token is well formed.  The operations of the rule are then the
    ones that the tokens stand for, each at its place. -/
theorem parse_accepts_iff (settings : RuleSettings) (kind : Kind) (tokens : List String) :
    ((∃ rule, parse settings kind tokens = .ok rule) ↔
      tokens ≠ [] ∧ (∀ t ∈ tokens.tail, ¬ IsRequired t) ∧
        ∀ t ∈ tokens, WellFormed kind settings.checkers t) ∧
    (∀ rule, parse settings kind tokens = .ok rule ↔ Reads settings kind tokens rule) ∧
    (∀ rule, parse settings kind tokens = .ok rule →
      List.Forall₂ (TokenReads (settings.forTokens kind rule.requiredCode)) tokens
        rule.operations) ∧
    (∀ p program code, Program.ofText? p = some program → code ≠ "" → ':' ∉ code.toList →
      Opcode.pattern.supports kind = true →
      WellFormed kind settings.checkers ("REG:" ++ p ++ ":" ++ code) ∧
      ∀ (rule : Rule) (i : Nat), parse settings kind tokens = .ok rule →
        tokens[i]? = some ("REG:" ++ p ++ ":" ++ code) →
        rule.operations[i]? = some (Operation.pattern p program code)) := by
  refine ⟨?_, fun rule => parse_eq_ok_iff_reads, ?_, ?_⟩
  · simp only [parse_eq_ok_iff_reads]
    exact exists_reads_iff
  · intro rule h
    exact (parse_eq_ok_iff_reads.1 h).forall₂
  · intro p program code hp hne hfree hsupports
    constructor
    · exact (wellFormed_iff_exists_tokenReads settings.defaultCode none).2
        ⟨_, (tokenReads_pattern_iff hp hne hfree hsupports).2 rfl⟩
    · intro rule i h htoken
      obtain ⟨op, hop, hreads⟩ := getElem?_of_forall₂ (parse_eq_ok_iff_reads.1 h).forall₂ htoken
      rw [hop, (tokenReads_pattern_iff hp hne hfree hsupports).1 hreads]

end Endpoint.Rule
