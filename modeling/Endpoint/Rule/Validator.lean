import Endpoint.Error.Record
import Endpoint.Rule.FieldValidator

/-!
# Validating subjects

The rules of a type of subjects are run field by field in the order they were declared, until one
of them stops all later ones.  Each code that is reported becomes a predefined error about
the field.
-/

namespace Endpoint

/-- The rule of one field as it is configured: a path and tokens. -/
structure FieldRule where
  field : String
  tokens : List String
  deriving DecidableEq, Repr

namespace FieldRule

/-- Reads a rule from a list of texts, the path and at least one token. -/
def decode : Decoder FieldRule := fun d =>
  match Decoder.list Decoder.string d with
  | some (field :: token :: tokens) => some ⟨field, token :: tokens⟩
  | _ => none

end FieldRule

namespace FieldValidator

/-- Builds the validator of one field of a type of subjects. -/
def build {σ : Type} (settings : RuleSettings) (type : Subject σ) (rule : FieldRule) :
    Logged (Except RuleError FieldValidator) :=
  match FieldPath.parse rule.field with
  | .error e => pure (.error (.invalidPath e))
  | .ok path =>
    match type.kindAt path.segments with
    | none => pure (.error .unknownField)
    | some kind =>
      match Rule.parse settings kind rule.tokens with
      | .error e => pure (.error e)
      | .ok parsed => do
        Logged.event .debug Rule.logTarget "Built field validator"
          [("field", .text rule.field), ("kind", .text kind.name),
            ("operations", .number parsed.operations.length)]
        pure (.ok ⟨path, kind, parsed⟩)

end FieldValidator

/-- The rules of a type of subjects. -/
structure Validator (σ : Type) where
  type : Subject σ
  fields : List FieldValidator

namespace Validator

variable {σ : Type}

/-- Builds the validators of some rules; the error is of the first rule that is refused. -/
def buildFields (settings : RuleSettings) (type : Subject σ) :
    List FieldRule → Logged (Except (FieldRule × RuleError) (List FieldValidator))
  | [] => pure (.ok [])
  | rule :: rest => do
    match ← FieldValidator.build settings type rule with
    | .error e => pure (.error (rule, e))
    | .ok v =>
      match ← buildFields settings type rest with
      | .error e => pure (.error e)
      | .ok vs => pure (.ok (v :: vs))

/-- Builds the validator of a type of subjects. -/
def build (settings : RuleSettings) (type : Subject σ) (rules : List FieldRule) :
    Logged (Except (FieldRule × RuleError) (Validator σ)) := do
  match ← buildFields settings type rules with
  | .error e => pure (.error e)
  | .ok fields => pure (.ok ⟨type, fields⟩)

/-- The results of the failing fields, up to the first that stops all later ones. -/
def failuresOf (type : Subject σ) (subject : σ) :
    List FieldValidator → Logged (List FieldResult)
  | [] => pure []
  | v :: rest => do
    let result ← v.validate type subject
    let later ← if result.stopsAll then pure [] else failuresOf type subject rest
    pure (if result.passed then later else result :: later)

/-- The results of the failing fields of a subject. -/
def validate (v : Validator σ) (subject : σ) : Logged (List FieldResult) :=
  failuresOf v.type subject v.fields

/-- Records an error for each code of a failing field. -/
def recordCodes (field : String) (codes : List String) (errors : ErrorRecord) :
    Logged ErrorRecord :=
  codes.foldlM (fun errors code => errors.addPredefinedFor code field) errors

/-- Validates a subject and records an error for each code; tells whether any field failed. -/
def validateInto (v : Validator σ) (subject : σ) (errors : ErrorRecord) :
    Logged (Bool × ErrorRecord) := do
  let failures ← v.validate subject
  let errors ← failures.foldlM (fun errors r => recordCodes r.field r.codes errors) errors
  if failures.isEmpty then pure (false, errors)
  else do
    Logged.event .debug Rule.logTarget "Validation failed"
      [("failed_fields", .number failures.length)]
    pure (true, errors)

end Validator

end Endpoint
