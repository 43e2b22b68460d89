import Endpoint.Handler.Phase

/-!
# Serving a request

`Handler.serve` takes a request through its phases and writes one response.  A request that
was rejected, and one whose response holds errors, ends with an error; one in which a hook
panicked ends abnormally, and nothing of its response is kept.

A panic of the response writer is not contained.  The call is then given up: it is no request that
was answered, and all that is still measured is that it leaves.
-/

namespace Endpoint

/-- What is left of a request when it has been served, or when the writer has panicked. -/
structure Served where
  sink : Sink
  /-- what the writer gave -/
  result : Except Panic (Except WriteError Unit)
  outcome : Outcome
  /-- the phases that were entered, in order -/
  trace : List Phase
  measurements : List Measurement

namespace Handler

variable {β : Type}

/-- The progress of a request at its start. -/
def start (h : Handler β) (head : RequestHead) (rawBody : List UInt8) : Progress β :=
  ⟨.ofHead head rawBody, .empty h.catalogue, .empty h.catalogue, [], []⟩

/-- How a request ends that came so far and was perhaps stopped. -/
def outcomeOf (p : Progress β) : Option Stop → Outcome
  | none => if p.response.errors.isEmpty then .normal else .error
  | some .rejected => .error
  | some (.panicked _) => .abnormal

/-- What the response writer gets to see of a request. -/
def stateOf (h : Handler β) (p : Progress β) (sink : Sink) (stop : Option Stop) : ProcessState :=
  let state : ProcessState :=
    ⟨some p.request.head, p.response, sink, none, p.request.identity, none⟩
  match stop with
  | none => state
  | some .rejected => { state with serviceErrors := some p.errors }
  | some (.panicked _) =>
    { state with response := .empty h.catalogue, status := some Status.serverError }

/-- Logs a panic. -/
def logPanic (h : Handler β) : Option Stop → Logged Unit
  | some (.panicked panic) =>
    h.logEvent .error "Request processing panicked" [("panic", .text panic.message)]
  | _ => pure ()

/-- Logs how a request ended; nothing after a panic of the writer. -/
def logEnd (h : Handler β) (user : String) (outcome : Outcome) (status : Status) :
    Except Panic (Except WriteError Unit) → Logged Unit
  | .ok (.ok _) => h.logEvent .info "Request completed" [("user", .text user),
      ("outcome", .text outcome.name), ("status", .number status.code)]
  | .ok (.error e) => h.logEvent .error "Failed to write response"
      [("outcome", .text outcome.name), ("error", .text e.message)]
  | .error _ => pure ()

/-- What is measured when the writer has returned: that the request was answered, and that it
    leaves.  If the writer panicked it only leaves. -/
def closing (h : Handler β) (outcome : Outcome) (status : Status) (nanoseconds : Nat) :
    Except Panic (Except WriteError Unit) → List Measurement
  | .ok _ => [.answered h.name outcome status.code nanoseconds, .left]
  | .error _ => [.left]

/-- The span that all events of a request belong to. -/
def span (h : Handler β) (context : RequestContext) : Span :=
  ⟨.info, logTarget, "ws_request",
    [("handler", .text h.name), ("request_id", .text context.id.text)]⟩

/-- Serves a request on a sink.  `nanoseconds` have passed when the response has been
    written. -/
def serve (h : Handler β) (context : RequestContext) (sink : Sink) (head : RequestHead)
    (rawBody : List UInt8) (nanoseconds : Nat) : Logged Served :=
  let context := { context with handlerName := some h.name }
  Logged.inSpan (h.span context) do
    let (p, stop) ← h.runStages context Stage.all (h.start head rawBody)
    h.logPanic stop
    let outcome := outcomeOf p stop
    let state := h.stateOf p sink stop
    let (sink, result) ← h.writer context state outcome
    let status := sink.status.getD Status.serverError
    h.logEnd state.identity.user outcome status result
    pure ⟨sink, result, outcome, p.trace ++ [.write],
      .entered :: p.measurements ++ h.closing outcome status nanoseconds result⟩

end Handler

end Endpoint
