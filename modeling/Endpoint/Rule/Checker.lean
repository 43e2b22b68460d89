import Endpoint.Field.Subject
import Endpoint.Text.Diagnostic

/-!
# External checkers

A checker is supplied by the application and named in rules.  It says which kinds of fields
it takes, and judges a present value together with the subject the value is part of; it may
also fail to reach a verdict.
-/

namespace Endpoint

/-- What a checker may look at: the values of the subject under check, and which of its
    fields is checked. -/
structure CheckContext where
  values : List Segment → Option Scalar
  field : FieldPath

namespace CheckContext

/-- The value of another field of the subject; none when it is absent, and when there is no
    such field. -/
def valueAt (c : CheckContext) (path : String) : Option Scalar :=
  match FieldPath.parse path with
  | .ok p => c.values p.segments
  | .error _ => none

/-- What is shown of a context. -/
def diagnostic (c : CheckContext) : Diagnostic :=
  .record "CheckContext" [("field", .text c.field.text)] true

end CheckContext

/-- A check supplied by the application; an error is a text that says why there is no
    verdict. -/
structure Checker where
  supports : Kind → Bool
  check : CheckContext → Scalar → Except String Bool

/-- A checker that looks at the value alone and always reaches a verdict. -/
def Checker.ofTest (supports : Kind → Bool) (test : Scalar → Bool) : Checker :=
  ⟨supports, fun _ v => .ok (test v)⟩

/-- What is said when a checker reaches no verdict. -/
def checkFailure (reason : String) : String := "external check failed: " ++ reason

/-- The checkers that rules may name. -/
abbrev CheckerRegistry := Entries Checker

/-- What is shown of a registry: the names in order. -/
def CheckerRegistry.diagnostic (r : CheckerRegistry) : Diagnostic :=
  .record "CheckerRegistry" [("checkers", .list (r.keys.map .text))] false

end Endpoint
