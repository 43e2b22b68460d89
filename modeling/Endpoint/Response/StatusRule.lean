import Endpoint.Response.Basic

/-!
# The status of a response

A status set on the response wins over one set on its errors; otherwise the most important
category among the errors decides.
-/

namespace Endpoint

/-- The status that the code of an HTTP error names; a code that names none is logged. -/
def Status.ofErrorCode (code : String) : Logged Status :=
  match Status.ofText? (trimText code) with
  | some s => pure s
  | none => do
    Logged.event .warn "hypatia::ws::status" "HTTP error code is not a valid status, using 500"
      [("code", .text code)]
    pure Status.serverError

namespace ErrorRecord

/-- The status of an error that stands for its category. -/
def statusOfError (e : ServiceError) : Logged Status :=
  match e.category with
  | .unexpected => pure Status.serverError
  | .http => Status.ofErrorCode e.code
  | .security => pure Status.unauthorized
  | .client => pure Status.badRequest
  | .logic => pure Status.conflict

/-- The first error of the most important category. -/
def decisive? (r : ErrorRecord) : Option ServiceError := Category.all.findSome? r.firstOf

end ErrorRecord

/-- The status of a response. -/
def Response.determineStatus (r : Response) : Logged Status :=
  match r.status, r.errors.status with
  | some s, _ => pure s
  | none, some s => pure s
  | none, none =>
    match r.errors.decisive? with
    | some e => ErrorRecord.statusOfError e
    | none => pure Status.ok

end Endpoint
