import Endpoint.Proofs.Handler.Containment
import Endpoint.Proofs.Handler.FieldSources
import Endpoint.Proofs.Handler.Recording
import Endpoint.Proofs.Response.Report
import Endpoint.Proofs.Rule.Collection

/-!
# Errors are reported in the order they were found

Errors go a long way from where they are found to where a caller reads them.  None of them is
lost, doubled or overtaken on it.
-/

namespace Endpoint

/-- Rules for bodies, with the validator that is built from them. -/
structure RuleSet (β : Type) where
  settings : RuleSettings
  type : Subject β
  rules : List FieldRule
  validator : Validator β
  built : (Validator.build settings type rules).value = .ok validator

namespace RuleSet

variable {β : Type}

/-- The errors that rules report of a body: one for each code of a failing field, the fields in
    the order of the rules and the codes in the order of their operations. -/
def Reports (r : RuleSet β) (catalogue : Option Catalogue) (body : β) (found : List ServiceError) :
    Prop :=
  ∃ results, List.Forall₂ (FieldValidator.GivesAlone r.settings r.type body) r.rules results ∧
    found = (FieldResult.failing results).flatMap (FieldResult.errors catalogue)

end RuleSet

/-- A request was answered by a report of errors in their order. -/
def Served.Reports (served : Served) (book : MessageBook) (wrapping : Wrapping)
    (layout : Json.Layout) (errors : List ServiceError) : Prop :=
  served.outcome = .error ∧ served.result = .ok (.ok ()) ∧
    ∃ written report, served.sink.body = Utf8.encode (written.write layout) ∧
      wrapping.errorsIn written = some report ∧ report.Lists book errors

namespace Handler

variable {β : Type} {h : Handler β} {s : HandlerSettings β} {context : RequestContext}
  {start p p' q : Progress β} {stage : Stage} {faults : List Fault} {rules : Option (RuleSet β)}
  {sink : Sink} {head : RequestHead} {rawBody : List UInt8} {nanoseconds : Nat}
  {book : MessageBook} {wrapping : Wrapping} {layout : Json.Layout} {defaults : Entries String}
  {common : Option (RequestContext → ProcessState → Entries String)}

/-! ## What is recorded -/

/-- A request that ends with an error is answered by a report of the errors it is left with. -/
theorem serve_reports {stop? : Option Stop} (nanoseconds : Nat)
    (hwriter : h.writer = (RenderingWriter.jsonWith book wrapping layout defaults common).write)
    (hsink : sink.Reachable) (hunsent : sink.dataSent = false)
    (hrun : (h.runStages (h.named context) Stage.all (h.start head rawBody)).value = (p, stop?))
    (hend : outcomeOf p stop? = .error)
    (hne : (h.stateOf p sink stop?).effectiveErrors.errors ≠ []) :
    let served := (h.serve context sink head rawBody nanoseconds).value
    served.Reports book wrapping layout (h.stateOf p sink stop?).effectiveErrors.errors ∧
      served.sink.status = some (RenderingWriter.errorResponse
        (h.stateOf p sink stop?)).determineStatus.value := by
  intro served
  have hserved := serve_sink_result h context sink head rawBody nanoseconds
  simp only [hrun, hend] at hserved
  have houtcome : served.outcome = .error := by
    rw [show served.outcome = _ from serve_outcome, hrun, hend]
  have hreachable : (h.stateOf p sink stop?).sink.Reachable := by rwa [stateOf_sink]
  have hfree : (h.stateOf p sink stop?).sink.dataSent = false := by rwa [stateOf_sink]
  obtain ⟨hok, hstatus, written, report, hbody, herrors, hlists⟩ :=
    RenderingWriter.json_write_error rfl (h.named context) hreachable hfree hne
  rw [hwriter] at hserved
  rw [← hserved] at hok hstatus hbody
  exact ⟨⟨houtcome, hok, written, report, hbody, herrors, hlists⟩, hstatus⟩

end Handler

end Endpoint
