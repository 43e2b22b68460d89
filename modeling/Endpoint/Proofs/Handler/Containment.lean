import Endpoint.Proofs.Handler.Outcome
import Endpoint.Proofs.Response.Abnormal

/-!
# Panics are contained

A request in which a hook panics is answered like any other: with status 500 and a report of
it.  Nothing that was recorded before the panic is in the answer, and nothing of the panic.
-/

namespace Endpoint

namespace Handler

variable {β : Type} {h : Handler β} {context : RequestContext} {sink : Sink}
  {head : RequestHead} {rawBody : List UInt8} {nanoseconds : Nat} {start p : Progress β}
  {stage : Stage}

/-- All that a builder of common headers gets to see of a request in which a hook panicked. -/
def abnormalState (h : Handler β) (request : Request β) (sink : Sink) : ProcessState :=
  ⟨some request.head, .empty h.catalogue, sink, none, request.identity, some Status.serverError⟩

/-- The request as a stage leaves it. -/
def requestAfter (h : Handler β) (context : RequestContext) (stage : Stage) (p : Progress β) :
    Request β :=
  (h.stage context stage p).value.1.request

/-- The writer is called on what has become of a request by the end of its run. -/
theorem serve_sink_result (h : Handler β) (context : RequestContext) (sink : Sink)
    (head : RequestHead) (rawBody : List UInt8) (nanoseconds : Nat) :
    let run := (h.runStages (h.named context) Stage.all (h.start head rawBody)).value
    let served := (h.serve context sink head rawBody nanoseconds).value
    (served.sink, served.result) =
      (h.writer (h.named context) (h.stateOf run.1 sink run.2) (outcomeOf run.1 run.2)).value :=
  rfl

/-- A request in which a hook panics is left to the writer as one that ends abnormally. -/
theorem Arrives.serve_of_panics (sink : Sink) (nanoseconds : Nat)
    (hp : h.Arrives (h.named context) (h.start head rawBody) stage p)
    (hpanics : h.Panics (h.named context) p stage) :
    let served := (h.serve context sink head rawBody nanoseconds).value
    (served.sink, served.result) =
      (h.writer (h.named context)
        (h.abnormalState (h.requestAfter (h.named context) stage p) sink) .abnormal).value := by
  intro served
  obtain ⟨p', panic, hstop⟩ := hpanics.value
  have hrun : (h.runStages (h.named context) Stage.all (h.start head rawBody)).value =
      (p', some (.panicked panic)) := hp.run_of_stop hstop
  have hrequest : h.requestAfter (h.named context) stage p = p'.request := by
    rw [requestAfter, hstop]
  have hserved := serve_sink_result h context sink head rawBody nanoseconds
  simp only [hrun] at hserved
  rw [hrequest]
  exact hserved

/-- A request in which a hook panics at any stage is answered: the status is 500, the headers
    are the valid ones among the default and the common headers with a content type, and the body
    reports the status with the message that is set for it.  Another request that ends so, at
    whatever stage, with whatever panic and after whatever was recorded, gets the same answer if
    it has the same head and comes from the same caller. -/
theorem serve_contains_panic (h : Handler β) (book : MessageBook) (wrapping : Wrapping)
    (layout : Json.Layout) (defaults : Entries String)
    (common : Option (RequestContext → ProcessState → Entries String)) (nanoseconds : Nat)
    (hwriter : h.writer = (RenderingWriter.jsonWith book wrapping layout defaults common).write)
    (hsink : sink.Reachable) (hunsent : sink.dataSent = false) (hnone : sink.headers = [])
    (hp : h.Arrives (h.named context) (h.start head rawBody) stage p)
    (hpanics : h.Panics (h.named context) p stage) :
    let served := (h.serve context sink head rawBody nanoseconds).value
    let request := h.requestAfter (h.named context) stage p
    let built := common.map fun build =>
      build (h.named context) (h.abnormalState request sink)
    let message := (book.httpMessage? Status.serverError).getD "HTTP 500"
    let report : Json := .object [("general",
      .arr [.object [("code", .str "H-500"), ("message", .str message)]])]
    (served.result = .ok (.ok ()) ∧
      served.sink.status = some Status.serverError ∧
      served.sink.headers = withContentType (validHeaders (mergeHeaders [] built defaults)) ∧
      served.sink.body = Utf8.encode ((wrapping.apply none (some report)).write layout)) ∧
    ∀ {γ : Type} (h' : Handler γ) (context' : RequestContext) (head' : RequestHead)
      (rawBody' : List UInt8) (nanoseconds' : Nat) (stage' : Stage) (p' : Progress γ),
      h'.writer = h.writer → h'.catalogue = h.catalogue → h'.named context' = h.named context →
      h'.Arrives (h'.named context') (h'.start head' rawBody') stage' p' →
      h'.Panics (h'.named context') p' stage' →
      (h'.requestAfter (h'.named context') stage' p').head = request.head →
      (h'.requestAfter (h'.named context') stage' p').identity = request.identity →
      (h'.serve context' sink head' rawBody' nanoseconds').value.sink = served.sink ∧
        (h'.serve context' sink head' rawBody' nanoseconds').value.result = served.result := by
  intro served request built message report
  have hserved : (served.sink, served.result) =
      (h.writer (h.named context) (h.abnormalState request sink) .abnormal).value :=
    hp.serve_of_panics sink nanoseconds hpanics
  refine ⟨?_, ?_⟩
  · have hwrite := RenderingWriter.json_write_abnormal (h.named context) book wrapping layout
      defaults common (h.abnormalState request sink) hsink hunsent hnone rfl
    rw [hwriter, hwrite, Prod.mk.injEq] at hserved
    obtain ⟨hserved, hresult⟩ := hserved
    exact ⟨hresult, by rw [hserved], by rw [hserved], by rw [hserved]; rfl⟩
  · intro γ h' context' head' rawBody' nanoseconds' stage' p' hwriter' hcatalogue hnamed hp'
      hpanics' hhead hidentity
    have hstate : h'.abnormalState (h'.requestAfter (h'.named context') stage' p') sink =
        h.abnormalState request sink := by
      rw [abnormalState, abnormalState, hcatalogue, hhead, hidentity]
    have hserved' := hp'.serve_of_panics sink nanoseconds' hpanics'
    rw [hwriter', hstate, hnamed, ← hserved, Prod.mk.injEq] at hserved'
    exact hserved'

/-- A service that answers in full and panics when it finishes its response. -/
def unfinished : Handler Unit where
  name := "unfinished"
  logic :=
    { process := fun _ request _ => pure (request, .ok ⟨some Status.ok, some (.str "draft"),
        (ErrorRecord.empty none).add ⟨.unexpected, "STATE", "draft", none⟩, [("X-Draft", "1")]⟩)
      unmarshalTarget := none
      preValidate := none
      validate := none
      postProcess := some fun _ _ _ _ => pure (.error ⟨some "draft"⟩) }
  writer := (RenderingWriter.jsonWith .empty .standard .compact [("Cache-Control", "no-store"),
    ("not a name", "1")] none).write
  reader := none
  book := .empty
  catalogue := none
  identifier := none
  accessChecker := none
  requireAuthentication := false
  path := none
  query := none
  subjectCheck := none

/-- Of an answer that is lost to a panic nothing is sent. -/
theorem serve_contains_panic_unfinished :
    let context := RequestContext.new .nil
    let head : RequestHead := ⟨"GET", ⟨"/", none⟩, []⟩
    let served := (unfinished.serve context .empty head [] 0).value
    (∃ stage p, unfinished.Arrives (unfinished.named context) (unfinished.start head []) stage p ∧
        unfinished.Panics (unfinished.named context) p stage) ∧
      served.result = .ok (.ok ()) ∧ served.sink.status = some Status.serverError ∧
      served.sink.headers =
        [("cache-control", "no-store"), ("content-type", "application/json; charset=utf-8")] ∧
      served.sink.body = Utf8.encode ("\x7b\"errors\":\x7b\"general\":[\x7b\"code\":\"H-500\","
        ++ "\"message\":\"HTTP 500\"\x7d]\x7d\x7d") := by
  intro context head served
  have hend : unfinished.endOf (unfinished.named context) (unfinished.start head []) =
      .abnormal := rfl
  obtain ⟨stage, p, hp, hpanics⟩ := endOf_eq_abnormal_iff.1 hend
  obtain ⟨⟨hresult, hstatus, hheaders, hbody⟩, -⟩ :=
    serve_contains_panic unfinished .empty .standard .compact
      [("Cache-Control", "no-store"), ("not a name", "1")] none 0 rfl .empty rfl rfl hp hpanics
  refine ⟨⟨stage, p, hp, hpanics⟩, hresult, hstatus, ?_, ?_⟩
  · rw [hheaders, Option.map_none]
    decide
  · rw [hbody]
    rfl

end Handler

end Endpoint
