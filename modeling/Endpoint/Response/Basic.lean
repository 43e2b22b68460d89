import Endpoint.Error.Record
import Endpoint.Http.Sink
import Endpoint.Identity
import Endpoint.Request.Basic

/-!
# Responses

What the logic of a service answers: an optional status, an optional body, errors, and
headers.  `ProcessState` is all that a response writer gets to see of a request.
-/

namespace Endpoint

/-- The answer to a request. -/
structure Response where
  status : Option Status
  body : Option Json
  errors : ErrorRecord
  headers : Entries String

namespace Response

/-- An answer without any content, with predefined errors from a catalogue if there is
    one. -/
def empty (catalogue : Option Catalogue) : Response := ⟨none, none, .empty catalogue, []⟩

/-- Sets a header, replacing an earlier value of exactly this name. -/
def setHeader (r : Response) (name value : String) : Response :=
  { r with headers := Entries.insert name value r.headers }

end Response

/-- How the processing of a request ended. -/
inductive Outcome where
  | normal
  | error
  | abnormal
  deriving DecidableEq, Repr

def Outcome.name : Outcome → String
  | .normal => "normal"
  | .error => "error"
  | .abnormal => "abnormal"

/-- The state of a request when its response is written. -/
structure ProcessState where
  head : Option RequestHead
  response : Response
  sink : Sink
  /-- the errors of a request that was rejected -/
  serviceErrors : Option ErrorRecord
  identity : Identity
  /-- the status of an abnormal end -/
  status : Option Status

namespace ProcessState

/-- A state that holds a response and nothing else. -/
def ofResponse (sink : Sink) (response : Response) : ProcessState :=
  ⟨none, response, sink, none, .unknown, none⟩

/-- The state of a request that ends abnormally with a status. -/
def abnormal (status : Status) (sink : Sink) : ProcessState :=
  { ofResponse sink (.empty none) with status := some status }

/-- The errors to report: those of a rejected request, else those of the response. -/
def effectiveErrors (s : ProcessState) : ErrorRecord := s.serviceErrors.getD s.response.errors

end ProcessState

end Endpoint
