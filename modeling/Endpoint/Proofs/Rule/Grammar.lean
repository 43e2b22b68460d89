import Endpoint.Proofs.Except
import Endpoint.Proofs.Rule.Bounds
import Endpoint.Proofs.Text.Split
import Mathlib.Data.List.Forall2

/-!
# The grammar of rules

`Reads` says which rule a list of tokens stands for, without saying how it is found: a token
consists of an opcode that suits the kind of the field and of parameters, and each opcode has
its own form of parameters.  Reading finds exactly the rules of this grammar.
-/

namespace Endpoint

/-- What the tokens of a rule are read with once the code of its `REQ` is known. -/
def RuleSettings.forTokens (settings : RuleSettings) (kind : Kind)
    (requiredCode : Option String) : Rule.TokenSettings :=
  ⟨kind, settings.checkers, requiredCode.getD settings.defaultCode, requiredCode⟩

namespace Rule

/-- The code of an operation: the one written last in its token, which must not be empty, or a
    fallback. -/
inductive CodeReads (fallback : String) : Option String → String → Prop
  | absent : CodeReads fallback none fallback
  | written {code : String} : code ≠ "" → CodeReads fallback (some code) code

/-- One bound: an empty text gives none, every other text must be readable. -/
inductive BoundReads {α : Type} (reader : String → Option α) : String → Option α → Prop
  | absent : BoundReads reader "" none
  | given {text : String} {v : α} : text ≠ "" → reader text = some v →
      BoundReads reader text (some v)

/-- Bounds: a text is divided into a lower and an upper one, both are read, and they are not
    inverted. -/
inductive BoundsRead {α : Type} (reader : String → Option α) (inverted : α → α → Prop)
    (text : String) (least greatest : Option α) : Prop
  | divided {lo hi : String} : Bounds.Divides text.toList lo.toList hi.toList →
      BoundReads reader lo least → BoundReads reader hi greatest →
      (∀ a b, least = some a → greatest = some b → ¬ inverted a b) →
      BoundsRead reader inverted text least greatest

/-- The operation that an opcode and parameters stand for. -/
inductive OperationReads (s : TokenSettings) : Opcode → List String → Operation → Prop
  | required {written : Option String} {code : String} :
      CodeReads s.fallback written code →
      OperationReads s .required written.toList (.required code)
  | stopField : OperationReads s .stopField [] .stopField
  | stopAll : OperationReads s .stopAll [] .stopAll
  | oneOf {text : String} {raws : List String} {members : List Scalar} {written : Option String}
      {code : String} :
      SplitsInto ',' text raws →
      List.Forall₂ (fun raw v => Scalar.ofLiteral? s.kind raw = some v) raws members →
      CodeReads (s.requiredCode.getD notInCode) written code →
      OperationReads s .oneOf (text :: written.toList) (.oneOf members code)
  | range {text : String} {least greatest : Option Scalar} {written : Option String}
      {code : String} :
      BoundsRead (Scalar.ofLiteral? s.kind) (fun a b => a.compare? b = some .gt) text
        least greatest →
      CodeReads s.fallback written code →
      OperationReads s .range (text :: written.toList) (.range least greatest code)
  | length {text : String} {least greatest : Option Nat} {written : Option String}
      {code : String} :
      BoundsRead readLength? (fun a b => b < a) text
        least greatest →
      CodeReads s.fallback written code →
      OperationReads s .length (text :: written.toList) (.length least greatest code)
  | pattern {source : String} {program : Program} :
      Program.ofText? source = some program →
      OperationReads s .pattern [source] (.pattern source program s.fallback)
  | patternWithCode {parts : List String} {program : Program} {code : String} :
      parts ≠ [] → Program.ofText? (":".intercalate parts) = some program → code ≠ "" →
      OperationReads s .pattern (parts ++ [code])
        (.pattern (":".intercalate parts) program code)
  | flagTrue {written : Option String} {code : String} : CodeReads s.fallback written code →
      OperationReads s .flag ("true" :: written.toList) (.flag true code)
  | flagFalse {written : Option String} {code : String} : CodeReads s.fallback written code →
      OperationReads s .flag ("false" :: written.toList) (.flag false code)
  | external {name : String} {checker : Checker} {written : Option String} {code : String} :
      s.checkers.get? name = some checker → checker.supports s.kind = true →
      CodeReads s.fallback written code →
      OperationReads s .external (name :: written.toList) (.external name checker code)

/-- The operation that a token stands for: it starts with an opcode that suits the kind. -/
inductive TokenReads (s : TokenSettings) (token : String) (op : Operation) : Prop
  | operation {opcode : Opcode} {params : List String} :
      SplitsInto ':' token (opcode.word :: params) → opcode.supports s.kind = true →
      OperationReads s opcode params op → TokenReads s token op

/-- A token starts with the word `REQ`. -/
def IsRequired (token : String) : Prop := ∃ params, SplitsInto ':' token ("REQ" :: params)

/-- A token is well formed for fields of a kind: it stands for an operation, whatever codes it
    falls back to. -/
def WellFormed (kind : Kind) (checkers : CheckerRegistry) (token : String) : Prop :=
  ∃ fallback requiredCode op, TokenReads ⟨kind, checkers, fallback, requiredCode⟩ token op

/-- The rule that tokens stand for.  The code of a `REQ` that comes first is what the later
    tokens fall back to; without one they fall back to the default code. -/
inductive Reads (settings : RuleSettings) (kind : Kind) : List String → Rule → Prop
  | required {token : String} {rest : List String} {code : String} {ops : List Operation} :
      TokenReads (settings.forTokens kind none) token (.required code) →
      List.Forall₂ (TokenReads (settings.forTokens kind (some code))) rest ops →
      (∀ t ∈ rest, ¬ IsRequired t) →
      Reads settings kind (token :: rest) ⟨.required code :: ops, some code⟩
  | plain {tokens : List String} {ops : List Operation} :
      tokens ≠ [] →
      List.Forall₂ (TokenReads (settings.forTokens kind none)) tokens ops →
      (∀ t ∈ tokens, ¬ IsRequired t) →
      Reads settings kind tokens ⟨ops, none⟩

/-! ## Codes and parameters -/

theorem readCode_eq_ok_iff {token fallback code : String} {written : Option String} :
    readCode token written fallback = .ok code ↔ CodeReads fallback written code := by
  cases written with
  | none =>
    constructor
    · intro h
      rw [readCode, Except.ok.injEq] at h
      rw [← h]
      exact .absent
    · rintro ⟨⟩
      rfl
  | some c =>
    rw [readCode]
    constructor
    · intro h
      split at h
      · simp at h
      · rename_i hc
        rw [Except.ok.injEq] at h
        rw [← h]
        exact .written (by simpa using hc)
    · intro h
      cases h with
      | written hc => rw [if_neg (by simpa using hc)]

theorem checkCount_eq_ok_iff {token : String} {params : List String} {least greatest : Nat}
    {u : Unit} :
    checkCount token params least greatest = .ok u ↔
      least ≤ params.length ∧ params.length ≤ greatest := by
  rw [checkCount]
  split
  · simp; omega
  · split
    · simp; omega
    · simp; omega

theorem length_between_one_two_iff {params : List String} :
    (1 ≤ params.length ∧ params.length ≤ 2) ↔
      ∃ text, ∃ written : Option String, params = text :: written.toList := by
  constructor
  · rintro ⟨hleast, hgreatest⟩
    match params, hleast, hgreatest with
    | [text], _, _ => exact ⟨text, none, rfl⟩
    | [text, code], _, _ => exact ⟨text, some code, rfl⟩
    | _ :: _ :: _ :: _, _, h => simp at h
  · rintro ⟨text, written, rfl⟩
    cases written with
    | none => simp
    | some code => simp

theorem length_at_most_zero_iff {params : List String} :
    (0 ≤ params.length ∧ params.length ≤ 0) ↔ params = [] := by
  rw [Nat.le_zero, List.length_eq_zero_iff]
  exact and_iff_right (Nat.zero_le _)

theorem length_at_most_one_iff {params : List String} :
    (0 ≤ params.length ∧ params.length ≤ 1) ↔
      ∃ written : Option String, params = written.toList := by
  constructor
  · rintro ⟨-, hgreatest⟩
    match params, hgreatest with
    | [], _ => exact ⟨none, rfl⟩
    | [code], _ => exact ⟨some code, rfl⟩
    | _ :: _ :: _, h => simp at h
  · rintro ⟨written, rfl⟩
    cases written with
    | none => simp
    | some code => simp

@[simp] theorem getElem?_toList_zero {α : Type} (o : Option α) : o.toList[0]? = o := by
  cases o with
  | none => rfl
  | some a => rfl

@[simp] theorem getElem?_cons_toList_one {α : Type} (a : α) (o : Option α) :
    (a :: o.toList)[1]? = o := by
  rw [List.getElem?_cons_succ, getElem?_toList_zero]

/-! ## Literals and bounds -/

theorem readLiterals_eq_ok_iff {token : String} {kind : Kind} {raws : List String}
    {members : List Scalar} :
    readLiterals token kind raws = .ok members ↔
      List.Forall₂ (fun raw v => Scalar.ofLiteral? kind raw = some v) raws members := by
  induction raws generalizing members with
  | nil =>
    rw [readLiterals, List.forall₂_nil_left_iff, Except.ok.injEq, eq_comm]
  | cons raw rest ih =>
    rw [readLiterals, List.forall₂_cons_left_iff]
    cases hv : Scalar.ofLiteral? kind raw with
    | none => simp
    | some v =>
      simp only [Except.bind_eq_ok_iff, Except.pure_eq_ok_iff, ih]
      constructor
      · rintro ⟨vs, hvs, rfl⟩
        exact ⟨v, vs, rfl, hvs, rfl⟩
      · rintro ⟨v', vs, hv', hvs, rfl⟩
        obtain rfl : v = v' := Option.some.inj hv'
        exact ⟨vs, hvs, rfl⟩

theorem BoundReads.reader_eq {α : Type} {reader : String → Option α} {text : String}
    {bound : Option α} {v : α} (h : BoundReads reader text bound) (hv : v ∈ bound) :
    reader text = some v := by
  cases h with
  | absent => simp at hv
  | given _ hread => rwa [Option.mem_some.1 hv] at hread

theorem readBound_eq_ok_iff {α : Type} {token : String} {kind : Kind}
    {reader : String → Option α} {raw : String} {bound : Option α} :
    readBound token kind reader raw = .ok bound ↔ BoundReads reader raw bound := by
  rw [readBound]
  by_cases hraw : raw = ""
  · subst hraw
    constructor
    · intro h
      obtain rfl : none = bound := by simpa using h
      exact .absent
    · intro h
      cases h with
      | absent => rfl
      | given hne _ => exact absurd rfl hne
  · rw [if_neg (by simpa using hraw)]
    cases hv : reader raw with
    | none =>
      constructor
      · intro h
        simp at h
      · intro h
        cases h with
        | absent => exact absurd rfl hraw
        | given _ h => rw [hv] at h; simp at h
    | some v =>
      constructor
      · intro h
        obtain rfl : some v = bound := by simpa using h
        exact .given hraw hv
      · intro h
        cases h with
        | absent => exact absurd rfl hraw
        | given _ h => rw [← h, hv]

theorem readBounds_eq_ok_iff {α : Type} {token : String} {kind : Kind}
    {reader : String → Option α} {inverted : α → α → Bool} {text : String}
    {least greatest : Option α} :
    readBounds token kind reader inverted text = .ok (least, greatest) ↔
      BoundsRead reader (fun a b => inverted a b = true) text least greatest := by
  rw [readBounds]
  cases hs : Bounds.split text with
  | none =>
    constructor
    · intro h
      simp at h
    · rintro ⟨hdiv, -, -, -⟩
      rw [Bounds.split_eq_some_iff.2 hdiv] at hs
      simp at hs
  | some parts =>
    obtain ⟨lo, hi⟩ := parts
    have hdiv := Bounds.split_eq_some_iff.1 hs
    simp only [Except.bind_eq_ok_iff, readBound_eq_ok_iff]
    constructor
    · rintro ⟨a, ha, b, hb, h⟩
      have hboth : (a, b) = (least, greatest) ∧
          ∀ x y, a = some x → b = some y → ¬ inverted x y = true := by
        cases a with
        | none => exact ⟨Except.pure_eq_ok_iff.1 h, by simp⟩
        | some x =>
          cases b with
          | none => exact ⟨Except.pure_eq_ok_iff.1 h, by simp⟩
          | some y =>
            cases hinv : inverted x y with
            | true => simp [hinv, bind, Except.bind, throw] at h
            | false => exact ⟨Except.pure_eq_ok_iff.1 (by simpa [hinv] using h), by simp [hinv]⟩
      obtain ⟨heq, hnot⟩ := hboth
      obtain ⟨rfl, rfl⟩ := Prod.mk.inj heq
      exact .divided hdiv ha hb hnot
    · rintro ⟨hdiv', hlo, hhi, hnot⟩
      obtain ⟨rfl, rfl⟩ : lo = _ ∧ hi = _ := by
        rw [Bounds.split_eq_some_iff.2 hdiv'] at hs
        simpa [eq_comm] using hs
      refine ⟨least, hlo, greatest, hhi, ?_⟩
      cases least with
      | none => rfl
      | some x =>
        cases greatest with
        | none => rfl
        | some y => simp [hnot x y rfl rfl, pure, Except.pure]

end Rule

end Endpoint
