import Endpoint.Proofs.Handler.Recording
import Endpoint.Proofs.Http.Sink
import Endpoint.Proofs.Response.Writing
import Endpoint.Proofs.Telemetry.Measurement

/-!
# Measurements account for every request

The stages of a request measure one thing: that its validation found errors.  Serving it measures
its entering, its answer and its leaving besides.  So what is recorded of several requests is the
number of those of each kind.  A request whose writer panics is not answered: it enters and leaves,
and its validation counts, but it is none of the requests that were completed.
-/

namespace Endpoint

namespace Handler

variable {β : Type} {h : Handler β} {context : RequestContext} {start p : Progress β}
  {todo : List Stage}

end Handler

/-! ## Several requests -/

/-- A request that a handler is called with, on a sink, and the time that passes until it is
    answered. -/
structure Call where
  {Body : Type}
  handler : Handler Body
  context : RequestContext
  sink : Sink
  head : RequestHead
  rawBody : List UInt8
  nanoseconds : Nat

namespace Call

/-- What is left of the request when it has been served, or the writer has panicked. -/
def served (c : Call) : Served :=
  (c.handler.serve c.context c.sink c.head c.rawBody c.nanoseconds).value

/-- The status that the sink has in the end.  A writer that leaves it without one has failed. -/
def status (c : Call) : Status := c.served.sink.status.getD Status.serverError

/-- The request is answered: the writer returns, whether it could write or not. -/
def answered (c : Call) : Bool := c.served.result.isOk

/-- A request is answered by a writer that renders, which does to its sink only what can be done to
    sinks.  Something may have been sent on the sink before. -/
structure Rendered (c : Call) : Prop where
  writer : ∃ w : RenderingWriter, c.handler.writer = w.write ∧
    ∀ data sink, ∃ operations, (w.marshal data sink).1 = sink.run operations
  sink : c.sink.Reachable

theorem rendered_of_json {c : Call} {w : RenderingWriter} {layout : Json.Layout}
    (hwriter : c.handler.writer = w.write) (hjson : w.marshal = writeJson layout)
    (hsink : c.sink.Reachable) : c.Rendered where
  writer := by
    refine ⟨w, hwriter, fun data sink => ?_⟩
    rw [hjson, writeJson]
    split
    · exact ⟨[.write _], rfl⟩
    · exact ⟨[.setHeader _ _, .write _], rfl⟩
  sink := hsink

end Call

end Endpoint
