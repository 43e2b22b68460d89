import Endpoint.Fault.MessageBook
import Endpoint.Panic
import Endpoint.Request.Id
import Endpoint.Response.Form
import Endpoint.Response.Headers
import Endpoint.Response.StatusRule

/-!
# Writing responses

A response writer turns the state of a request into what its sink holds.  `RenderingWriter`
does so in exchangeable steps: common headers, the status, the form of the errors, the
wrapping of body and errors, and the notation.  It writes to a sink once; what has been
sent already is left alone.

The messages of unexpected errors are logged and replaced by a general one, whatever the
outcome.

A writer may panic, and so may a builder of common headers, which an application brings along.
-/

namespace Endpoint

/-- Writes the response to a request; gives the sink in the end, also after a panic, and why
    writing failed if it did. -/
abbrev ResponseWriter :=
  RequestContext → ProcessState → Outcome → Logged (Sink × Except Panic (Except WriteError Unit))

/-- Builds the headers that all responses have in common. -/
abbrev HeaderBuilder := RequestContext → ProcessState → Except Panic (Entries String)

/-- A response writer put together from steps. -/
structure RenderingWriter where
  statusOf : Response → Logged Status
  book : MessageBook
  defaultHeaders : Entries String
  commonHeaders : Option HeaderBuilder
  formatErrors : ErrorRecord → Option Json
  wrap : Option Json → Option Json → Json
  marshal : Json → Sink → Sink × Except WriteError Unit

namespace RenderingWriter

/-- Where response writers log. -/
def logTarget : String := "hypatia::ws::writer"

/-- The writer of JSON responses. -/
def json (book : MessageBook) (wrapping : Wrapping) (layout : Json.Layout) : RenderingWriter :=
  { statusOf := Response.determineStatus
    book := book
    defaultHeaders := []
    commonHeaders := none
    formatErrors := ErrorRecord.format
    wrap := wrapping.apply
    marshal := writeJson layout }

/-- Sets headers on a sink; invalid ones are logged and left out. -/
def setHeaders : Entries String → Sink → Logged Sink
  | [], sink => pure sink
  | (name, value) :: rest, sink =>
    match sink.setHeader name value with
    | (true, sink) => setHeaders rest sink
    | (false, sink) => do
      Logged.event .warn logTarget "Skipping invalid response header" [("header", .text name)]
      setHeaders rest sink

/-- Replaces the message of an unexpected error after logging it. -/
def concealError (general : String) (context : RequestContext) (e : ServiceError) :
    Logged ServiceError :=
  if e.category = .unexpected then do
    Logged.event .error logTarget e.message
      [("request_id", .text context.id.text), ("code", .text e.code)]
    pure { e with message := general }
  else pure e

/-- Conceals errors one after another. -/
def concealErrors (general : String) (context : RequestContext) :
    List ServiceError → Logged (List ServiceError)
  | [] => pure []
  | e :: rest => do
    let e ← concealError general context e
    let rest ← concealErrors general context rest
    pure (e :: rest)

/-- Replaces the messages of unexpected errors by the one for status 500. -/
def conceal (w : RenderingWriter) (context : RequestContext) (r : ErrorRecord) :
    Logged ErrorRecord := do
  let errors ← concealErrors (w.book.httpError Status.serverError).message context r.errors
  pure { r with errors := errors }

/-- Writes headers, status, body and errors of a response. -/
def render (w : RenderingWriter) (context : RequestContext) (response : Response)
    (common : Option (Entries String)) (sink : Sink) : Logged (Sink × Except WriteError Unit) := do
  let sink ← setHeaders (mergeHeaders response.headers common w.defaultHeaders) sink
  let status ← w.statusOf response
  let sink := sink.writeStatus status
  let errors ← w.conceal context response.errors
  if response.body.isNone && errors.isEmpty then pure (sink, .ok ())
  else pure (w.marshal (w.wrap response.body (w.formatErrors errors)) sink)

/-- What is written for a request that ends in errors: its status and headers, and the
    errors to report. -/
def errorResponse (state : ProcessState) : Response :=
  ⟨state.response.status, none, state.effectiveErrors, state.response.headers⟩

/-- What is written for a request that ends abnormally: a status and its message. -/
def abnormalResponse (w : RenderingWriter) (status : Status) : Response :=
  { Response.empty none with
    status := some status
    errors := (ErrorRecord.empty none).add (w.book.httpError status) }

/-- The response that is written for an outcome. -/
def responseFor (w : RenderingWriter) (state : ProcessState) : Outcome → Response
  | .normal => state.response
  | .error => errorResponse state
  | .abnormal => w.abnormalResponse (state.status.getD Status.serverError)

/-- The common headers of a response, if the writer has a builder for them. -/
def common (w : RenderingWriter) (context : RequestContext) (state : ProcessState) :
    Except Panic (Option (Entries String)) :=
  match w.commonHeaders with
  | none => .ok none
  | some build => (build context state).map some

/-- Writes a response unless something has been sent already.  Where the common headers cannot be
    built nothing has been written. -/
def write (w : RenderingWriter) : ResponseWriter := fun context state outcome =>
  if state.sink.dataSent then do
    Logged.event .debug logTarget "Response already written to"
      [("request_id", .text context.id.text)]
    pure (state.sink, .ok (.ok ()))
  else
    match w.common context state with
    | .error panic => pure (state.sink, .error panic)
    | .ok common => do
      let (sink, result) ← w.render context (w.responseFor state outcome) common state.sink
      Logged.event .debug logTarget "Wrote response"
        ([("request_id", .text context.id.text), ("outcome", .text outcome.name)]
          ++ (sink.status.map fun s => ("status", EventValue.number s.code)).toList)
      pure (sink, .ok result)

/-- Writes the response to a request that ends abnormally. -/
def writeAbnormal (w : RenderingWriter) (context : RequestContext) (state : ProcessState) :
    Logged (Sink × Except Panic (Except WriteError Unit)) :=
  w.write context state .abnormal

/-- What is shown of a writer. -/
def diagnostic (w : RenderingWriter) : Diagnostic :=
  .record "MarshallingResponseWriter"
    [("default_headers", .map (w.defaultHeaders.map fun (k, v) => (k, .text v))),
      ("header_builder", .flag w.commonHeaders.isSome)] true

end RenderingWriter

end Endpoint
