import Endpoint.Proofs.Handler.Body

/-!
# What the stages of a request record

Up to its validation a request has no errors and its response is empty.  What the hooks add to the
errors in its validation is what it is rejected with if it is invalid.  Faults are recorded by the
stage that finds them, and end the request.
-/

namespace Endpoint

namespace Handler

variable {β : Type} {h : Handler β} {context : RequestContext} {start p p' q : Progress β}
  {stage : Stage} {faults faults' : List Fault}

/-! ## Before and during validation -/

/-- A request that is rejected as invalid has the errors that were found, and a response that the
    logic has finished. -/
theorem rejectInvalid_finishes (hne : p.errors.errors ≠ []) (hnot : ¬ h.FinishPanics context p) :
    ∃ p', (h.stage context .rejectInvalid p).value = (p', some .rejected) ∧
      p'.errors = p.errors ∧ h.Finishes context p.request p.response p'.response := by
  have hrejects : h.Rejects context p .rejectInvalid := .inr ⟨rfl, hne, hnot⟩
  obtain ⟨p', hvalue, hleaves⟩ := hrejects.leaves
  exact ⟨p', hvalue, hleaves.errors, hleaves.response⟩

/-- A request that is processed without a panic completes, with the response that the logic made
    and finished. -/
theorem Arrives.completes_of_process {made : Response} (hp : h.Arrives context start .process p)
    (hmade : (h.logic.process context p.request p.response).value.2 = .ok made)
    (hfinish : ∀ q, h.Arrives context start .postProcess q → ¬ h.FinishPanics context q) :
    ∃ q, h.Completes context start q ∧
      h.Finishes context (h.logic.process context p.request p.response).value.1 made
        q.response := by
  have hrejects : ¬ h.Rejects context p .process := by simp [Rejects, Stops]
  obtain ⟨q, hprocess⟩ := exists_passes hrejects (not_panics_process_iff.2 ⟨made, hmade⟩)
  have hq : h.Arrives context start .postProcess q := .pass hp hprocess
  have hnever : ¬ h.Rejects context q .postProcess := by simp [Rejects, Stops]
  obtain ⟨q', hpost⟩ := exists_passes hnever (hfinish q hq)
  obtain rfl : made = q.response := Except.ok.inj (hmade.symm.trans hprocess.response)
  have hrequest : (h.logic.process context p.request p.response).value.1 = q.request :=
    hprocess.request
  exact ⟨q', .pass hq hpost, hrequest ▸ hpost.response⟩

/-! ## Faults -/

/-- Faults are recorded as one error each, and nothing else is. -/
structure RecordsFaults (h : Handler β) (p : Progress β) (faults : List Fault)
    (result : Progress β × Option Stop) : Prop where
  rejected : result.2 = some .rejected
  errors : result.1.errors = (ErrorRecord.empty h.catalogue).addAll (faults.map Fault.toError)
  response : result.1.response = p.response

theorem rejectFaults_records (hne : faults ≠ []) (hkept : q.response = p.response) :
    h.RecordsFaults p faults (h.rejectFaults q faults).value := by
  rw [rejectFaults_of_ne hne]
  exact ⟨rfl, rfl, hkept⟩

/-- Faults stop a request. -/
theorem FindsFaults.stops (hfaults : h.FindsFaults context p faults stage) :
    h.Stops context p stage := by
  cases stage with
  | unmarshal =>
    obtain ⟨reader, target, reason, hreader, hbody, hread, -⟩ := hfaults
    exact ⟨reader, target, reason, hreader, hbody, hread⟩
  | bindPath =>
    obtain ⟨path, bind, body, bound, hfaults⟩ := hfaults
    exact ⟨path, bind, body, bound, faults, hfaults⟩
  | bindQuery =>
    obtain ⟨bind, body, bound, hfaults⟩ := hfaults
    exact ⟨bind, body, bound, faults, hfaults⟩
  | _ => exact absurd hfaults id

theorem FindsFaults.unique (hfaults : h.FindsFaults context p faults stage)
    (hfaults' : h.FindsFaults context p faults' stage) : faults = faults' := by
  cases stage with
  | unmarshal =>
    obtain ⟨_, _, _, -, -, -, rfl⟩ := hfaults
    obtain ⟨_, _, _, -, -, -, rfl⟩ := hfaults'
    rfl
  | bindPath =>
    obtain ⟨path, bind, body, bound, hpath, hbind, hbody, hvalue, -⟩ := hfaults
    obtain ⟨path', bind', body', bound', hpath', hbind', hbody', hvalue', -⟩ := hfaults'
    obtain rfl := Option.some.inj (hpath.symm.trans hpath')
    obtain rfl := Option.some.inj (hbind.symm.trans hbind')
    obtain rfl := Option.some.inj (hbody.symm.trans hbody')
    exact (Prod.mk.inj (Except.ok.inj (hvalue.symm.trans hvalue'))).2
  | bindQuery =>
    obtain ⟨bind, body, bound, hquery, hbody, hvalue, -⟩ := hfaults
    obtain ⟨bind', body', bound', hquery', hbody', hvalue', -⟩ := hfaults'
    obtain rfl := Option.some.inj (hquery.symm.trans hquery')
    obtain rfl := Option.some.inj (hbody.symm.trans hbody')
    exact (Prod.mk.inj (Except.ok.inj (hvalue.symm.trans hvalue'))).2
  | _ => exact absurd hfaults id

theorem FindsFaults.records (hfaults : h.FindsFaults context p faults stage) :
    h.RecordsFaults p faults (h.stage context stage p).value := by
  obtain ⟨p', hvalue, hleaves⟩ := hfaults.stops.rejects.leaves
  rw [hvalue]
  cases stage with
  | unmarshal | bindPath | bindQuery =>
    obtain ⟨faults', hfaults', herrors⟩ := hleaves.errors
    obtain rfl := hfaults.unique hfaults'
    exact ⟨rfl, herrors, hleaves.response⟩
  | _ => exact absurd hfaults id

theorem FindsFaults.ne_nil (hfaults : h.FindsFaults context p faults stage) : faults ≠ [] := by
  cases stage with
  | unmarshal =>
    obtain ⟨_, _, _, -, -, -, rfl⟩ := hfaults
    simp
  | bindPath =>
    obtain ⟨_, _, _, _, -, -, -, -, hne⟩ := hfaults
    exact hne
  | bindQuery =>
    obtain ⟨_, _, _, -, -, -, hne⟩ := hfaults
    exact hne
  | _ => exact absurd hfaults id

/-- Faults are found before a request is processed. -/
theorem FindsFaults.before (hfaults : h.FindsFaults context p faults stage) :
    Stage.process ∈ stage :: stage.after := by
  cases stage with
  | unmarshal => decide
  | bindPath => decide
  | bindQuery => decide
  | _ => exact absurd hfaults id

end Handler

end Endpoint
