import Endpoint.Number.Digits
import Endpoint.Pattern.Program
import Endpoint.Rule.Checker
import Endpoint.Rule.Opcode

/-!
# Rules

A rule is a list of operations on one field.  Most operations check the value and report a
code when the check fails; two of them only say when to stop.  `RuleError` lists what can be
wrong with the text of a rule.
-/

namespace Endpoint

/-- One operation of a rule. -/
inductive Operation where
  /-- the value must not be missing -/
  | required (code : String)
  /-- the value must equal one of the literals -/
  | oneOf (members : List Scalar) (code : String)
  /-- the value must lie within the bounds that are given -/
  | range (least greatest : Option Scalar) (code : String)
  /-- the number of characters must lie within the bounds that are given -/
  | length (least greatest : Option Nat) (code : String)
  /-- the text must match a pattern somewhere -/
  | pattern (source : String) (program : Program) (code : String)
  /-- the value must be this one -/
  | flag (expected : Bool) (code : String)
  /-- ends the field if a check has failed -/
  | stopField
  /-- ends the field and all later ones if a check has failed -/
  | stopAll
  /-- the named checker must accept the value -/
  | external (name : String) (checker : Checker) (code : String)

namespace Operation

def opcode : Operation → Opcode
  | required _ => .required
  | oneOf _ _ => .oneOf
  | range _ _ _ => .range
  | length _ _ _ => .length
  | pattern _ _ _ => .pattern
  | flag _ _ => .flag
  | stopField => .stopField
  | stopAll => .stopAll
  | external _ _ _ => .external

/-- The code reported when the check of an operation fails. -/
def code? : Operation → Option String
  | required code | oneOf _ code | range _ _ code | length _ _ code | pattern _ _ code
  | flag _ code | external _ _ code => some code
  | stopField | stopAll => none

end Operation

/-- The operations on a field, in order, and the code for a missing value if the first of
    them requires one. -/
structure Rule where
  operations : List Operation
  requiredCode : Option String

namespace Scalar

/-- What is shown of a literal. -/
def diagnostic : Scalar → Diagnostic
  | bool b => .tagged "Bool" (.flag b)
  | int i => .tagged "Int" (.word (toString i))
  | uint n => .tagged "UInt" (.number n)
  | float x => .tagged "Float" (.word (FloatLayout.diagnostic.write x))
  | text s => .tagged "Str" (.text s)

end Scalar

namespace Operation

/-- What is shown of an operation. -/
def diagnostic : Operation → Diagnostic
  | required code => .record "Required" [("code", .text code)] false
  | oneOf members code =>
    .record "In" [("set", .list (members.map Scalar.diagnostic)), ("code", .text code)] false
  | range least greatest code =>
    .record "Range" [("min", .option (least.map Scalar.diagnostic)),
      ("max", .option (greatest.map Scalar.diagnostic)), ("code", .text code)] false
  | length least greatest code =>
    .record "Len" [("min", .option (least.map .number)), ("max", .option (greatest.map .number)),
      ("code", .text code)] false
  | pattern source _ code =>
    .record "Regex" [("pattern", .text source), ("code", .text code)] false
  | flag expected code => .record "Is" [("expected", .flag expected), ("code", .text code)] false
  | stopField => .word "Break"
  | stopAll => .word "StopAll"
  | external name _ code => .record "External" [("name", .text name), ("code", .text code)] false

end Operation

/-- What is shown of a rule. -/
def Rule.diagnostic (r : Rule) : Diagnostic :=
  .record "Rule" [("operations", .list (r.operations.map Operation.diagnostic)),
    ("required_code", .optionalText r.requiredCode)] false

/-- What is wrong with the form of a token. -/
inductive TokenError where
  | noOperation
  | emptyCode
  | missingParameter
  | tooManyParameters
  | missingPattern
  deriving DecidableEq, Repr

/-- The wording of what is wrong with a token. -/
def TokenError.reason : TokenError → String
  | noOperation => "a rule needs at least one operation"
  | emptyCode => "empty error code"
  | missingParameter => "missing parameter"
  | tooManyParameters => "too many parameters"
  | missingPattern => "REG needs a pattern"

/-- Why the rule of a field is refused. -/
inductive RuleError where
  | invalidPath (e : PathError)
  | unknownField
  | malformed (token : String) (e : TokenError)
  | unknownOpcode (word : String)
  | unsupported (opcode : Opcode) (kind : Kind)
  | invalidLiteral (token literal : String) (kind : Kind)
  | invalidBounds (token : String)
  | invalidPattern (pattern : String)
  | unknownChecker (name : String)
  | incompatibleChecker (name : String) (kind : Kind)
  | repeatedRequired
  | requiredNotFirst
  deriving DecidableEq, Repr

namespace RuleError

/-- The name of the kind of an error. -/
def kind : RuleError → String
  | invalidPath _ => "InvalidPath"
  | unknownField => "UnknownField"
  | malformed _ _ => "MalformedRule"
  | unknownOpcode _ => "UnknownOpcode"
  | unsupported _ _ => "UnsupportedOperation"
  | invalidLiteral _ _ _ => "InvalidLiteral"
  | invalidBounds _ => "InvalidRange"
  | invalidPattern _ => "InvalidPattern"
  | unknownChecker _ => "UnknownChecker"
  | incompatibleChecker _ _ => "IncompatibleChecker"
  | repeatedRequired => "DuplicateRequired"
  | requiredNotFirst => "RequiredNotFirst"

/-- What is said of the rule of a field. -/
def message (field : String) : RuleError → String
  | invalidPath e => PathError.message field e
  | unknownField => field ++ ": no validatable field at this path"
  | malformed token e => field ++ ": malformed rule token '" ++ token ++ "': " ++ e.reason
  | unknownOpcode word => field ++ ": unknown opcode '" ++ word ++ "'"
  | unsupported opcode kind =>
    field ++ ": " ++ opcode.word ++ " cannot be applied to a " ++ kind.name ++ " field"
  | invalidLiteral token literal kind =>
    field ++ ": '" ++ literal ++ "' in '" ++ token ++ "' is not a valid " ++ kind.name ++ " literal"
  | invalidBounds token => field ++ ": invalid bounds in '" ++ token ++ "'"
  | invalidPattern pattern => field ++ ": invalid pattern '" ++ pattern ++ "'"
  | unknownChecker name => field ++ ": no external checker named '" ++ name ++ "'"
  | incompatibleChecker name kind =>
    field ++ ": external checker '" ++ name ++ "' does not support " ++ kind.name ++ " fields"
  | repeatedRequired => field ++ ": REQ may only appear once"
  | requiredNotFirst => field ++ ": REQ must be the first operation"

end RuleError

end Endpoint
