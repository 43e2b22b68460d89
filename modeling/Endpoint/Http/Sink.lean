import Endpoint.Http.Header
import Endpoint.Http.Status
import Endpoint.Json.Basic
import Endpoint.Text.Utf8

/-!
# Sinks

A sink collects the response to one request: a status, headers and a body.  The first status
stays, and the body only grows.  As soon as a status or a part of the body has been written,
data counts as sent.
-/

namespace Endpoint

/-- What has been written of a response.  Headers are filed under names in lower case; there is
    taken to be room for any number of them. -/
structure Sink where
  status : Option Status
  headers : Entries String
  body : List UInt8
  dataSent : Bool

namespace Sink

/-- Nothing written yet. -/
def empty : Sink := ⟨none, [], [], false⟩

/-- Sets a header, replacing an earlier value; tells whether the name and the value are
    valid.  With an invalid one nothing changes. -/
def setHeader (s : Sink) (name value : String) : Bool × Sink :=
  if Header.isName name && Header.isValue value then
    (true, { s with headers := Entries.insert (asciiLower name) value s.headers })
  else (false, s)

/-- The value of a header. -/
def header? (s : Sink) (name : String) : Option String := Entries.get? (asciiLower name) s.headers

/-- Writes a status; only the first one counts. -/
def writeStatus (s : Sink) (status : Status) : Sink :=
  { s with status := s.status <|> some status, dataSent := true }

/-- Appends to the body; without a status the response is a success. -/
def write (s : Sink) (data : List UInt8) : Sink :=
  { s with status := s.status <|> some Status.ok, body := s.body ++ data, dataSent := true }

/-- The status of the response that is sent in the end. -/
def finalStatus (s : Sink) : Status := s.status.getD Status.ok

end Sink

end Endpoint
