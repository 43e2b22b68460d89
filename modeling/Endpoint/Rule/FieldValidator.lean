import Endpoint.Log.Event
import Endpoint.Rule.Parser

/-!
# Validating one field

A rule bound to a field is run on a subject.  A missing value fails a rule that requires one,
and nothing else of the rule is run; an absent value passes every other rule.  Otherwise the
operations run in order, each check that fails adds its code, and an operation that stops
does so if a check has failed before it.
-/

namespace Endpoint

/-- A rule for the field at a path. -/
structure FieldValidator where
  path : FieldPath
  kind : Kind
  rule : Rule

/-- What became of the rule of a field: the codes of the failed checks in order, and whether
    later fields are not to be looked at. -/
structure FieldResult where
  field : String
  codes : List String
  stopsAll : Bool
  deriving DecidableEq, Repr

namespace FieldResult

def passed (r : FieldResult) : Bool := r.codes.isEmpty

end FieldResult

/-- Where rules log. -/
def Rule.logTarget : String := "hypatia::validate"

namespace Operation

/-- Whether a present value passes the check of an operation.  A checker that reaches no
    verdict is logged and counts as one that refuses the value. -/
def check (op : Operation) (context : CheckContext) (value : Scalar) : Logged Bool :=
  match op with
  | oneOf members _ => pure (members.any value.sameAs)
  | range least greatest _ =>
    pure ((least.map value.atLeast).getD true && (greatest.map value.atMost).getD true)
  | length least greatest _ =>
    match value with
    | .text s =>
      let n := s.length
      pure ((least.map fun m => decide (m ≤ n)).getD true
        && (greatest.map fun m => decide (n ≤ m)).getD true)
    | _ => pure false
  | pattern _ program _ =>
    match value with
    | .text s => pure (program.isMatch s)
    | _ => pure false
  | flag expected _ => pure (value == .bool expected)
  | external name checker _ =>
    match checker.check context value with
    | .ok verdict => pure verdict
    | .error reason => do
      Logged.event .warn Rule.logTarget "External checker failed; treating the field as invalid"
        [("field", .text context.field.text), ("checker", .text name),
          ("error", .text (checkFailure reason))]
      pure false
  | required _ | stopField | stopAll => pure true

end Operation

namespace FieldValidator

/-- Whether a present value counts as missing: for a kind that is not nilable, the zero of its
    type does. -/
def countsAsMissing (kind : Kind) (value : Scalar) : Bool := !kind.isNilable && value.isZero

/-- Runs operations after those that failed with `codes`: all codes, and whether later
    fields are not to be looked at. -/
def run (context : CheckContext) (value : Scalar) (codes : List String) :
    List Operation → Logged (List String × Bool)
  | [] => pure (codes, false)
  | .stopField :: rest =>
    if codes.isEmpty then run context value codes rest else pure (codes, false)
  | .stopAll :: rest =>
    if codes.isEmpty then run context value codes rest else pure (codes, true)
  | op :: rest => do
    let passed ← op.check context value
    run context value (if passed then codes else codes ++ op.code?.toList) rest

/-- Validates the field of a subject. -/
def validate {σ : Type} (v : FieldValidator) (type : Subject σ) (subject : σ) :
    Logged FieldResult :=
  match type.valueAt subject v.path.segments with
  | none => pure ⟨v.path.text, v.rule.requiredCode.toList, false⟩
  | some value =>
    if v.rule.requiredCode.isSome && countsAsMissing v.kind value then
      pure ⟨v.path.text, v.rule.requiredCode.toList, false⟩
    else do
      let (codes, stopsAll) ← run ⟨type.valueAt subject, v.path⟩ value [] v.rule.operations
      pure ⟨v.path.text, codes, stopsAll⟩

end FieldValidator

end Endpoint
