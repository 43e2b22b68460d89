import Endpoint.Rule.Basic
import Endpoint.Rule.Bounds
import Endpoint.Rule.Literal

/-!
# Reading rules

A token is an opcode, its parameters and perhaps a code, separated by colons.  An operation
without a code of its own takes that of the `REQ` operation if the rule starts with one;
otherwise it takes the default code, or `NOT_IN` if it is an `IN`.  The pattern of a `REG`
operation may itself contain colons: with more than one parameter, the last one is the code.
-/

namespace Endpoint

/-- What the reading of a rule depends on besides its tokens. -/
structure RuleSettings where
  defaultCode : String
  checkers : CheckerRegistry

namespace Rule

/-- The pieces of a text between the occurrences of a character. -/
def pieces (sep : Char) (s : String) : List String :=
  (FieldPath.splitAt sep s.toList).map String.ofList

/-- What one token of a rule is read with: the kind of the field, the checkers, the code for
    operations that have none, and the code of the `REQ` operation if there is one. -/
structure TokenSettings where
  kind : Kind
  checkers : CheckerRegistry
  fallback : String
  requiredCode : Option String

/-- The code of an `IN` operation that has none. -/
def notInCode : String := "NOT_IN"

/-- The code of a token: the one written, which must not be empty, or a fallback. -/
def readCode (token : String) (written : Option String) (fallback : String) :
    Except RuleError String :=
  match written with
  | none => .ok fallback
  | some code => if code.isEmpty then .error (.malformed token .emptyCode) else .ok code

/-- Checks the number of parameters of a token. -/
def checkCount (token : String) (params : List String) (least greatest : Nat) :
    Except RuleError Unit :=
  if params.length < least then .error (.malformed token .missingParameter)
  else if greatest < params.length then .error (.malformed token .tooManyParameters)
  else .ok ()

/-- Reads every literal of a list. -/
def readLiterals (token : String) (kind : Kind) : List String → Except RuleError (List Scalar)
  | [] => .ok []
  | raw :: rest =>
    match Scalar.ofLiteral? kind raw with
    | none => .error (.invalidLiteral token raw kind)
    | some v => do
      let vs ← readLiterals token kind rest
      pure (v :: vs)

/-- Reads one bound; an empty text is none. -/
def readBound {α : Type} (token : String) (kind : Kind) (reader : String → Option α)
    (raw : String) : Except RuleError (Option α) :=
  if raw.isEmpty then .ok none
  else
    match reader raw with
    | some v => .ok (some v)
    | none => .error (.invalidLiteral token raw kind)

/-- Reads bounds that are not inverted. -/
def readBounds {α : Type} (token : String) (kind : Kind) (reader : String → Option α)
    (inverted : α → α → Bool) (text : String) : Except RuleError (Option α × Option α) :=
  match Bounds.split text with
  | none => .error (.invalidBounds token)
  | some (lo, hi) => do
    let least ← readBound token kind reader lo
    let greatest ← readBound token kind reader hi
    match least, greatest with
    | some a, some b => if inverted a b then throw (.invalidBounds token)
    | _, _ => pure ()
    pure (least, greatest)

/-- Reads a bound of a length. -/
def readLength? (s : String) : Option Nat := readUnsigned? 64 (trimText s)

/-- The pattern and the code among the parameters of a `REG` token. -/
def patternParts (params : List String) : String × Option String :=
  match params with
  | [pattern] => (pattern, none)
  | _ => (":".intercalate params.dropLast, params.getLast?)

/-- Reads the operation of a token whose opcode suits the kind. -/
def readOperation (s : TokenSettings) (token : String) (opcode : Opcode) (params : List String) :
    Except RuleError Operation := do
  match opcode with
  | .required =>
    checkCount token params 0 1
    pure (.required (← readCode token params[0]? s.fallback))
  | .stopField =>
    checkCount token params 0 0
    pure .stopField
  | .stopAll =>
    checkCount token params 0 0
    pure .stopAll
  | .oneOf =>
    checkCount token params 1 2
    let members ← readLiterals token s.kind (pieces ',' (params.headD ""))
    pure (.oneOf members (← readCode token params[1]? (s.requiredCode.getD notInCode)))
  | .range =>
    checkCount token params 1 2
    let (least, greatest) ← readBounds token s.kind (Scalar.ofLiteral? s.kind)
      (fun a b => a.compare? b == some .gt) (params.headD "")
    pure (.range least greatest (← readCode token params[1]? s.fallback))
  | .length =>
    checkCount token params 1 2
    let (least, greatest) ← readBounds token s.kind readLength? (fun a b => decide (b < a))
      (params.headD "")
    pure (.length least greatest (← readCode token params[1]? s.fallback))
  | .pattern =>
    if params.isEmpty then throw (.malformed token .missingPattern)
    let (source, code) := patternParts params
    match Program.ofText? source with
    | none => throw (.invalidPattern source)
    | some program => pure (.pattern source program (← readCode token code s.fallback))
  | .flag =>
    checkCount token params 1 2
    let word := params.headD ""
    if word = "true" then pure (.flag true (← readCode token params[1]? s.fallback))
    else if word = "false" then pure (.flag false (← readCode token params[1]? s.fallback))
    else throw (.invalidLiteral token word s.kind)
  | .external =>
    checkCount token params 1 2
    let name := params.headD ""
    match s.checkers.get? name with
    | none => throw (.unknownChecker name)
    | some checker =>
      if checker.supports s.kind then
        pure (.external name checker (← readCode token params[1]? s.fallback))
      else throw (.incompatibleChecker name s.kind)

/-- Reads one token. -/
def readToken (s : TokenSettings) (token : String) : Except RuleError Operation :=
  match pieces ':' token with
  | [] => .error (.unknownOpcode "")
  | word :: params =>
    match Opcode.ofWord? word with
    | none => .error (.unknownOpcode word)
    | some opcode =>
      if opcode.supports s.kind then readOperation s token opcode params
      else .error (.unsupported opcode s.kind)

/-- The code of the `REQ` operation, if a token is one. -/
def requiredCodeOf (defaultCode token : String) : Except RuleError (Option String) :=
  match pieces ':' token with
  | ["REQ"] => .ok (some defaultCode)
  | ["REQ", code] => (readCode token (some code) defaultCode).map some
  | _ => .ok none

/-- Reads the tokens after the first; none of them may be a `REQ`. -/
def readRest (s : TokenSettings) : List String → Except RuleError (List Operation)
  | [] => .ok []
  | token :: rest => do
    let op ← readToken s token
    match op with
    | .required _ => throw (if s.requiredCode.isSome then .repeatedRequired else .requiredNotFirst)
    | _ => pure ()
    let ops ← readRest s rest
    pure (op :: ops)

/-- Reads a rule for a field of a kind. -/
def parse (settings : RuleSettings) (kind : Kind) (tokens : List String) : Except RuleError Rule :=
  match tokens with
  | [] => .error (.malformed "" .noOperation)
  | token :: rest => do
    let requiredCode ← requiredCodeOf settings.defaultCode token
    let s : TokenSettings :=
      ⟨kind, settings.checkers, requiredCode.getD settings.defaultCode, requiredCode⟩
    let op ← readToken s token
    let ops ← readRest s rest
    pure ⟨op :: ops, requiredCode⟩

end Rule

end Endpoint
