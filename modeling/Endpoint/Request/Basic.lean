import Endpoint.Http.Uri
import Endpoint.Identity
import Endpoint.Param.Basic

/-!
# Requests

The head of a request is what came over the wire before its body.  A `Request` adds what is
found out about it step by step: the decoded body, the parameters, the caller, and the
faults met on the way.
-/

namespace Endpoint

/-- The head of a request.  Header names are in lower case; a name may occur repeatedly. -/
structure RequestHead where
  method : String
  uri : Uri
  headers : List (String × List UInt8)

/-- The first value of a header, unless it has other bytes than blanks and visible ASCII. -/
def RequestHead.headerText? (head : RequestHead) (name : String) : Option String :=
  ((head.headers.lookup name).filter fun bytes =>
    bytes.all fun b => (0x20 ≤ b && b < 0x7F) || b == 0x09).map Utf8.decode

/-- A request with a body of some type. -/
structure Request (β : Type) where
  head : RequestHead
  rawBody : List UInt8
  body : Option β
  pathParams : Params
  queryParams : Params
  identity : Identity

namespace Request

variable {β : Type}

/-- A request of which nothing has been found out yet. -/
def ofHead (head : RequestHead) (rawBody : List UInt8) : Request β :=
  ⟨head, rawBody, none, .empty, .empty, .unknown⟩

end Request

end Endpoint
