import Endpoint.Proofs.Http.Sink
import Endpoint.Proofs.Response.Headers
import Endpoint.Proofs.Response.Writing

/-!
# The response to a request that ends abnormally

It has a status, the default and the common headers as far as they are valid, and a body that
reports the status and nothing else.
-/

namespace Endpoint

/-- Headers with the content type of JSON unless they have one. -/
def withContentType (headers : Entries String) : Entries String :=
  if (Entries.get? "content-type" headers).isSome then headers
  else Entries.insert "content-type" jsonContentType headers

/-- What a caller is told of a status: one error about no field. -/
def statusReport (book : MessageBook) (status : Status) : Json :=
  .object [("general", .arr [.object [("code", .str ("H-" ++ status.text)),
    ("message", .str ((book.httpMessage? status).getD ("HTTP " ++ status.text)))]])]

/-- An error that reports a status is shown as that. -/
theorem entry_httpError (book : MessageBook) (status : Status) :
    (book.httpError status).entry =
      .object [("code", .str ("H-" ++ status.text)),
        ("message", .str ((book.httpMessage? status).getD ("HTTP " ++ status.text)))] := rfl

theorem format_of_httpError {r : ErrorRecord} {book : MessageBook} {status : Status}
    (h : r.errors = [book.httpError status]) : r.format = some (statusReport book status) := by
  have hgeneral : r.general = [book.httpError status] := by
    rw [ErrorRecord.general, h]
    rfl
  have hfields : r.byField = [] := by
    rw [ErrorRecord.byField, h]
    rfl
  rw [ErrorRecord.format, ErrorRecord.isEmpty, h, hgeneral, hfields, statusReport]
  simp only [List.map_cons, entry_httpError]
  rfl

/-- Writing JSON to a sink appends to its body, and sets the content type if there is none. -/
theorem writeJson_eq (layout : Json.Layout) (data : Json) (sink : Sink) :
    writeJson layout data sink =
      (({ sink with headers := withContentType sink.headers } : Sink).write
        (Utf8.encode (data.write layout)), .ok ()) := by
  have hlower : asciiLower "content-type" = "content-type" := by decide
  have hset : (sink.setHeader "content-type" jsonContentType).2 =
      { sink with headers := Entries.insert "content-type" jsonContentType sink.headers } := by
    have hvalid : (Header.isName "content-type" && Header.isValue jsonContentType) = true := by
      decide
    rw [Sink.setHeader, if_pos hvalid, hlower]
  rw [writeJson, Sink.header?, hlower, hset, withContentType]
  split <;> rfl

namespace RenderingWriter

variable {context : RequestContext} {sink : Sink} {status : Status} {book : MessageBook}
  {wrapping : Wrapping} {layout : Json.Layout} {defaults : Entries String}
  {common : Option (RequestContext → ProcessState → Entries String)}

/-- A writer of JSON with headers of its own. -/
def jsonWith (book : MessageBook) (wrapping : Wrapping) (layout : Json.Layout)
    (defaults : Entries String)
    (common : Option (RequestContext → ProcessState → Entries String)) : RenderingWriter :=
  { json book wrapping layout with defaultHeaders := defaults }.withCommon common

theorem common_jsonWith (context : RequestContext) (state : ProcessState) :
    (jsonWith book wrapping layout defaults common).common context state =
      .ok (common.map fun build => build context state) :=
  common_withCommon _ common context state

/-- The error of the response is none whose message is concealed. -/
theorem conceal_abnormalResponse {w : RenderingWriter} :
    (w.conceal context (w.abnormalResponse status).errors).value.errors =
      [w.book.httpError status] := rfl

/-- What is written to an unused sink when a request ends abnormally. -/
theorem json_render_abnormal (hsink : sink.Reachable) (hunsent : sink.dataSent = false)
    (hnone : sink.headers = []) (built : Option (Entries String)) :
    let w := jsonWith book wrapping layout defaults common
    (w.render context (w.abnormalResponse status) built sink).value =
      (⟨some status, withContentType (validHeaders (mergeHeaders [] built defaults)),
        Utf8.encode ((wrapping.apply none (some (statusReport book status))).write layout),
        true⟩, .ok ()) := by
  intro w
  have herrors : (w.conceal context (w.abnormalResponse status).errors).value.errors =
      [book.httpError status] := conceal_abnormalResponse
  have hreport : w.formatErrors (w.conceal context (w.abnormalResponse status).errors).value =
      some (statusReport book status) := format_of_httpError herrors
  have hempty : (w.conceal context (w.abnormalResponse status).errors).value.isEmpty = false := by
    rw [ErrorRecord.isEmpty, herrors]
    rfl
  have hstatus : (w.statusOf (w.abnormalResponse status)).value = status := rfl
  have hheaders : (setHeaders (mergeHeaders (w.abnormalResponse status).headers built
      w.defaultHeaders) sink).value =
      { sink with headers := validHeaders (mergeHeaders [] built defaults) } :=
    setHeaders_value_of_merged hnone
  rw [render]
  simp only [Logged.value_bind, hheaders, hstatus, hempty, Bool.and_false, hreport]
  have hmarshal : w.marshal = writeJson layout := rfl
  rw [if_neg Bool.false_ne_true, Logged.value_pure, hmarshal, writeJson_eq, Sink.writeStatus,
    Sink.write, hsink.status_eq_none hunsent, hsink.body_eq_nil hunsent]
  rfl

/-- An abnormal end is written with its own status, whatever the response holds. -/
theorem json_write_abnormal (context : RequestContext) (book : MessageBook) (wrapping : Wrapping)
    (layout : Json.Layout) (defaults : Entries String)
    (common : Option (RequestContext → ProcessState → Entries String)) (state : ProcessState)
    (hsink : state.sink.Reachable)
    (hunsent : state.sink.dataSent = false) (hnone : state.sink.headers = [])
    (hstatus : state.status = some status) :
    let built := common.map fun build => build context state
    ((jsonWith book wrapping layout defaults common).write context state .abnormal).value =
      (⟨some status, withContentType (validHeaders (mergeHeaders [] built defaults)),
        Utf8.encode ((wrapping.apply none (some (statusReport book status))).write layout),
        true⟩, .ok (.ok ())) := by
  intro built
  have hresponse : (jsonWith book wrapping layout defaults common).responseFor state .abnormal =
      (jsonWith book wrapping layout defaults common).abnormalResponse status := by
    rw [responseFor, hstatus, Option.getD_some]
  rw [write_value hunsent (common_jsonWith context state), hresponse,
    json_render_abnormal hsink hunsent hnone built]

end RenderingWriter

end Endpoint
