import Endpoint.Proofs.Handler.Answers

/-!
# What a stage of a request does

A stage does what the hooks of the handler answer.  `stage_spec` says so of every stage, and
`passes_iff` that a request goes on from it in one way only.
-/

namespace Endpoint

namespace Progress

variable {β : Type} (p : Progress β) (phase : Phase) (body : β)

@[simp] theorem enter_request : (p.enter phase).request = p.request := rfl

@[simp] theorem enter_response : (p.enter phase).response = p.response := rfl

@[simp] theorem enter_errors : (p.enter phase).errors = p.errors := rfl

@[simp] theorem enter_trace : (p.enter phase).trace = p.trace ++ [phase] := rfl

@[simp] theorem enter_measurements : (p.enter phase).measurements = p.measurements := rfl

@[simp] theorem setBody_trace : (p.setBody body).trace = p.trace := rfl

@[simp] theorem setBody_measurements : (p.setBody body).measurements = p.measurements := rfl

end Progress

namespace Handler

variable {β : Type}

/-- What a stage does to the progress of a request: it enters its phases and measures what it has
    to, and it ends the request when it rejects it or when a hook panics. -/
structure StageSpec (h : Handler β) (context : RequestContext) (stage : Stage) (p : Progress β)
    (result : Progress β × Option Stop) : Prop where
  trace : result.1.trace = p.trace ++ h.entered p stage
  measurements : result.1.measurements = p.measurements ++ h.measured p stage
  rejected : result.2 = some .rejected ↔ h.Rejects context p stage
  panicked : (∃ panic, result.2 = some (.panicked panic)) ↔ h.Panics context p stage
  gives : result.2 = none → h.Gives context stage p result.1
  leaves : result.2 = some .rejected → h.Leaves context stage p result.1

variable {h : Handler β} {context : RequestContext} {p : Progress β}

theorem StageSpec.of_gives {stage : Stage} {p' : Progress β}
    (htrace : p'.trace = p.trace ++ h.entered p stage)
    (hmeasured : p'.measurements = p.measurements ++ h.measured p stage)
    (hrejects : ¬ h.Rejects context p stage) (hpanics : ¬ h.Panics context p stage)
    (hgives : h.Gives context stage p p') : StageSpec h context stage p (p', none) where
  trace := htrace
  measurements := hmeasured
  rejected := by simpa using hrejects
  panicked := by simpa using hpanics
  gives _ := hgives
  leaves hrejected := by simp at hrejected

theorem StageSpec.of_leaves {stage : Stage} {p' : Progress β}
    (htrace : p'.trace = p.trace ++ h.entered p stage)
    (hmeasured : p'.measurements = p.measurements ++ h.measured p stage)
    (hrejects : h.Rejects context p stage) (hpanics : ¬ h.Panics context p stage)
    (hleaves : h.Leaves context stage p p') :
    StageSpec h context stage p (p', some .rejected) where
  trace := htrace
  measurements := hmeasured
  rejected := by simpa using hrejects
  panicked := by simpa using hpanics
  gives hnone := by simp at hnone
  leaves _ := hleaves

theorem StageSpec.of_panicked {stage : Stage} {p' : Progress β} {panic : Panic}
    (htrace : p'.trace = p.trace ++ h.entered p stage)
    (hmeasured : p'.measurements = p.measurements ++ h.measured p stage)
    (hrejects : ¬ h.Rejects context p stage) (hpanics : h.Panics context p stage) :
    StageSpec h context stage p (p', some (.panicked panic)) where
  trace := htrace
  measurements := hmeasured
  rejected := by simpa using hrejects
  panicked := by simpa using hpanics
  gives hnone := by simp at hnone
  leaves hrejected := by simp at hrejected

theorem identify_spec : StageSpec h context .identify p (h.identify context p).value := by
  rw [identify]
  cases hf : h.identifier with
  | none =>
    exact .of_gives (by simp [entered, hf]) (by simp [measured]) (by simp [Rejects, Stops])
      (by simp [Panics, hf]) ⟨by simp [GivesRequest, hf], rfl, rfl⟩
  | some f =>
    simp only [Logged.value_bind, Progress.enter_request]
    split
    · rename_i panic hr
      exact .of_panicked (by simp [entered, hf]) (by simp [measured]) (by simp [Rejects, Stops])
        ⟨f, panic, hf, hr⟩
    · rename_i identity hr
      exact .of_gives (by simp [entered, hf]) (by simp [measured]) (by simp [Rejects, Stops])
        (by simp [Panics, hf, hr]) ⟨by simp [GivesRequest, hf, hr], rfl, rfl⟩

theorem authenticate_spec :
    StageSpec h context .authenticate p (h.authenticate p).value := by
  rw [authenticate]
  split
  · rename_i hauth
    have hstops : h.Stops context p .authenticate := by simpa [Stops] using hauth
    exact .of_leaves (by simp [entered]) (by simp [measured]) (.inl hstops) (by simp [Panics])
      ⟨rfl, rfl⟩
  · rename_i hauth
    exact .of_gives (by simp [entered]) (by simp [measured])
      (by simpa [Rejects, Stops] using hauth) (by simp [Panics]) ⟨rfl, rfl, rfl⟩

theorem access_spec : StageSpec h context .access p (h.access context p).value := by
  rw [access]
  cases hf : h.accessChecker with
  | none =>
    exact .of_gives (by simp [entered, hf]) (by simp [measured]) (by simp [Rejects, Stops, hf])
      (by simp [Panics, hf]) ⟨rfl, rfl, rfl⟩
  | some f =>
    simp only [Logged.value_bind, Progress.enter_request]
    split
    · rename_i panic hr
      exact .of_panicked (by simp [entered, hf]) (by simp [measured])
        (by simp [Rejects, Stops, hf, hr]) ⟨f, panic, hf, hr⟩
    · rename_i hr
      exact .of_gives (by simp [entered, hf]) (by simp [measured])
        (by simp [Rejects, Stops, hf, hr]) (by simp [Panics, hf, hr]) ⟨rfl, rfl, rfl⟩
    · rename_i hr
      exact .of_leaves (by simp [entered, hf]) (by simp [measured]) (.inl ⟨f, hf, hr⟩)
        (by simp [Panics, hf, hr]) ⟨rfl, rfl⟩

theorem makeTarget_spec : StageSpec h context .makeTarget p (h.makeTarget context p).value := by
  rw [makeTarget]
  cases hf : h.logic.unmarshalTarget with
  | none =>
    exact .of_gives (by simp [entered, hf]) (by simp [measured]) (by simp [Rejects, Stops])
      (by simp [Panics, hf]) ⟨by simp [GivesRequest, hf], rfl, rfl⟩
  | some f =>
    simp only [Logged.value_bind]
    split
    · rename_i panic hr
      exact .of_panicked (by simp [entered, hf]) (by simp [measured]) (by simp [Rejects, Stops])
        ⟨f, panic, hf, hr⟩
    · rename_i body hr
      exact .of_gives (by simp [entered, hf]) (by simp [measured]) (by simp [Rejects, Stops])
        (by simp [Panics, hf, hr])
        ⟨by simp [GivesRequest, hf, hr, Progress.setBody], rfl, rfl⟩

theorem rejectFaults_of_ne {faults : List Fault} (hne : faults ≠ []) :
    (h.rejectFaults p faults).value =
      ({ p with errors := (ErrorRecord.empty h.catalogue).addAll (faults.map Fault.toError) },
        some .rejected) := by
  rw [rejectFaults, if_neg (by simpa using hne)]
  rfl

theorem unmarshal_spec : StageSpec h context .unmarshal p (h.unmarshal context p).value := by
  rw [unmarshal]
  cases hf : h.reader with
  | none =>
    exact .of_gives (by simp [entered, hf]) (by simp [measured]) (by simp [Rejects, Stops, hf])
      (by simp [Panics, hf]) ⟨by simp [GivesRequest, hf], rfl, rfl⟩
  | some f =>
    cases hbody : p.request.body with
    | none =>
      exact .of_gives (by simp [entered, hbody]) (by simp [measured])
        (by simp [Rejects, Stops, hbody]) (by simp [Panics, hbody])
        ⟨by simp [GivesRequest, hbody], rfl, rfl⟩
    | some target =>
      simp only [Logged.value_bind, Progress.enter_request]
      split
      · rename_i panic hr
        exact .of_panicked (by simp [entered, hf, hbody]) (by simp [measured])
          (by simp [Rejects, Stops, hf, hbody, hr]) ⟨f, target, panic, hf, hbody, hr⟩
      · rename_i body hr
        exact .of_gives (by simp [entered, hf, hbody]) (by simp [measured])
          (by simp [Rejects, Stops, hf, hbody, hr]) (by simp [Panics, hf, hbody, hr])
          ⟨by simp [GivesRequest, hf, hbody, hr, Progress.setBody], rfl, rfl⟩
      · rename_i reason hr
        rw [Logged.value_bind, Logged.value_bind, rejectFaults_of_ne (by simp)]
        exact .of_leaves (by simp [entered, hf, hbody]) (by simp [measured])
          (.inl ⟨f, target, reason, hf, hbody, hr⟩) (by simp [Panics, hf, hbody, hr])
          ⟨⟨_, ⟨f, target, reason, hf, hbody, hr, rfl⟩, rfl⟩, rfl⟩

/-- What binding does to a request: it may panic, find no faults, or find some. -/
theorem bindParams_cases {bind : ParamBinder β} {params : Params} {body : β} :
    (∃ panic, (bind params body).value = .error panic ∧
      (h.bindParams bind params body p).value = (p, some (.panicked panic))) ∨
    (∃ bound, (bind params body).value = .ok (bound, []) ∧
      (h.bindParams bind params body p).value = (p.setBody bound, none)) ∨
    ∃ bound faults, (bind params body).value = .ok (bound, faults) ∧ faults ≠ [] ∧
      (h.bindParams bind params body p).value = ({ p.setBody bound with
        errors := (ErrorRecord.empty h.catalogue).addAll (faults.map Fault.toError) },
        some .rejected) := by
  rw [bindParams]
  simp only [Logged.value_bind]
  split
  · rename_i panic hr
    exact .inl ⟨panic, hr, rfl⟩
  · rename_i bound faults hr
    cases faults with
    | nil => exact .inr (.inl ⟨bound, hr, rfl⟩)
    | cons fault rest =>
      exact .inr (.inr ⟨bound, fault :: rest, hr, by simp, rejectFaults_of_ne (by simp)⟩)

theorem bindPath_spec : StageSpec h context .bindPath p (h.bindPath p).value := by
  rw [bindPath]
  cases hf : h.path with
  | none =>
    exact .of_gives (by simp [entered, hf]) (by simp [measured]) (by simp [Rejects, Stops, hf])
      (by simp [Panics, hf]) ⟨by simp [GivesRequest, hf], rfl, rfl⟩
  | some path =>
    cases hbind : path.bind with
    | none =>
      simp only [hbind]
      exact .of_gives (by simp [entered, hf]) (by simp [measured])
        (by simp [Rejects, Stops, hf, hbind]) (by simp [Panics, hf, hbind])
        ⟨by simp [GivesRequest, Binds, hf, hbind], rfl, rfl⟩
    | some bind =>
      cases hbody : p.request.body with
      | none =>
        simp only [hbind, hbody]
        exact .of_gives (by simp [entered, hf]) (by simp [measured])
          (by simp [Rejects, Stops, hbody]) (by simp [Panics, hbody])
          ⟨by simp [GivesRequest, Binds, hf, hbody], rfl, rfl⟩
      | some body =>
        simp only [hbind, hbody]
        rcases bindParams_cases with
          ⟨panic, hr, hv⟩ | ⟨bound, hr, hv⟩ | ⟨bound, faults, hr, hne, hv⟩
        · rw [hv]
          exact .of_panicked (by simp [entered, hf]) (by simp [measured])
            (by simp [Rejects, Stops, hf, hbind, hbody, hr])
            ⟨path, bind, body, panic, hf, hbind, hbody, hr⟩
        · rw [hv]
          exact .of_gives (by simp [entered, hf]) (by simp [measured])
            (by simp [Rejects, Stops, hf, hbind, hbody, hr])
            (by simp [Panics, hf, hbind, hbody, hr])
            ⟨by simp [GivesRequest, Binds, hf, hbind, hbody, hr, Progress.setBody], rfl, rfl⟩
        · rw [hv]
          exact .of_leaves (by simp [entered, hf]) (by simp [measured])
            (.inl ⟨path, bind, body, bound, faults, hf, hbind, hbody, hr, hne⟩)
            (by simp [Panics, hf, hbind, hbody, hr])
            ⟨⟨faults, ⟨path, bind, body, bound, hf, hbind, hbody, hr, hne⟩, rfl⟩, rfl⟩

theorem bindQuery_spec : StageSpec h context .bindQuery p (h.bindQuery p).value := by
  rw [bindQuery]
  cases hf : h.query with
  | none =>
    exact .of_gives (by simp [entered, hf]) (by simp [measured]) (by simp [Rejects, Stops, hf])
      (by simp [Panics, hf]) ⟨by simp [GivesRequest, Binds, hf], rfl, rfl⟩
  | some bind =>
    cases hbody : p.request.body with
    | none =>
      simp only [Progress.enter_request, hbody]
      exact .of_gives (by simp [entered, hf]) (by simp [measured])
        (by simp [Rejects, Stops, hbody]) (by simp [Panics, hbody])
        ⟨by simp [GivesRequest, Binds, hbody], rfl, rfl⟩
    | some body =>
      simp only [Progress.enter_request, hbody]
      rcases bindParams_cases with ⟨panic, hr, hv⟩ | ⟨bound, hr, hv⟩ | ⟨bound, faults, hr, hne, hv⟩
      · rw [hv]
        exact .of_panicked (by simp [entered, hf]) (by simp [measured])
          (by simp [Rejects, Stops, hf, hbody, hr]) ⟨bind, body, panic, hf, hbody, hr⟩
      · rw [hv]
        exact .of_gives (by simp [entered, hf]) (by simp [measured])
          (by simp [Rejects, Stops, hf, hbody, hr]) (by simp [Panics, hf, hbody, hr])
          ⟨by simp [GivesRequest, Binds, hf, hbody, hr, Progress.setBody], rfl, rfl⟩
      · rw [hv]
        exact .of_leaves (by simp [entered, hf]) (by simp [measured])
          (.inl ⟨bind, body, bound, faults, hf, hbody, hr, hne⟩)
          (by simp [Panics, hf, hbody, hr])
          ⟨⟨faults, ⟨bind, body, bound, hf, hbody, hr, hne⟩, rfl⟩, rfl⟩

theorem preValidate_spec :
    StageSpec h context .preValidate p (h.preValidate context p).value := by
  rw [preValidate]
  cases hf : h.logic.preValidate with
  | none =>
    exact .of_gives (by simp [entered, hf]) (by simp [measured]) (by simp [Rejects, Stops, hf])
      (by simp [Panics, hf]) ⟨by simp [GivesRequest, hf], by simp [GivesErrors, hf], rfl⟩
  | some f =>
    simp only [Logged.value_bind, Progress.enter_request, Progress.enter_errors]
    split
    · rename_i panic hr
      exact .of_panicked (by simp [entered, hf]) (by simp [measured])
        (by simp [Rejects, Stops, hf, hr]) ⟨f, panic, hf, hr⟩
    · rename_i errors hr
      exact .of_gives (by simp [entered, hf]) (by simp [measured])
        (by simp [Rejects, Stops, hf, hr]) (by simp [Panics, hf, hr])
        ⟨by simp [GivesRequest, hf], by simp [GivesErrors, hf, hr], rfl⟩
    · rename_i errors hr
      have hstops : h.Stops context p .preValidate := ⟨f, errors, hf, hr⟩
      have hpanics : ¬ h.Panics context p .preValidate := by simp [Panics, hf, hr]
      have hleft : h.LeavesErrors context p .preValidate errors := ⟨f, hf, hr⟩
      split
      · exact .of_leaves (by simp [entered, hf]) (by simp [measured]) (.inl hstops) hpanics
          ⟨hleft, rfl⟩
      · exact .of_leaves (by simp [entered, hf]) (by simp [measured]) (.inl hstops) hpanics
          ⟨hleft, rfl⟩

theorem beginValidate_spec :
    StageSpec h context .beginValidate p (h.beginValidate p).value := by
  rw [beginValidate]
  split
  · rename_i hvalidates
    exact .of_gives (by simp [entered, hvalidates]) (by simp [measured])
      (by simp [Rejects, Stops]) (by simp [Panics]) ⟨rfl, rfl, rfl⟩
  · rename_i hvalidates
    exact .of_gives (by simp [entered, hvalidates]) (by simp [measured])
      (by simp [Rejects, Stops]) (by simp [Panics]) ⟨rfl, rfl, rfl⟩

theorem checkRules_spec : StageSpec h context .checkRules p (h.checkRules p).value := by
  rw [checkRules]
  cases hf : h.subjectCheck with
  | none =>
    exact .of_gives (by simp [entered]) (by simp [measured]) (by simp [Rejects, Stops])
      (by simp [Panics, hf]) ⟨rfl, by simp [GivesErrors, hf], rfl⟩
  | some f =>
    cases hbody : p.request.body with
    | none =>
      exact .of_gives (by simp [entered]) (by simp [measured]) (by simp [Rejects, Stops])
        (by simp [Panics, hbody]) ⟨rfl, by simp [GivesErrors, hbody], rfl⟩
    | some body =>
      simp only [Logged.value_bind]
      split
      · rename_i panic hr
        exact .of_panicked (by simp [entered]) (by simp [measured]) (by simp [Rejects, Stops])
          ⟨f, body, panic, hf, hbody, hr⟩
      · rename_i errors hr
        exact .of_gives (by simp [entered]) (by simp [measured]) (by simp [Rejects, Stops])
          (by simp [Panics, hf, hbody, hr]) ⟨rfl, by simp [GivesErrors, hf, hbody, hr], rfl⟩

theorem checkLogic_spec : StageSpec h context .checkLogic p (h.checkLogic context p).value := by
  rw [checkLogic]
  cases hf : h.logic.validate with
  | none =>
    exact .of_gives (by simp [entered]) (by simp [measured]) (by simp [Rejects, Stops])
      (by simp [Panics, hf]) ⟨rfl, by simp [GivesErrors, hf], rfl⟩
  | some f =>
    simp only [Logged.value_bind]
    split
    · rename_i panic hr
      exact .of_panicked (by simp [entered]) (by simp [measured]) (by simp [Rejects, Stops])
        ⟨f, panic, hf, hr⟩
    · rename_i errors hr
      exact .of_gives (by simp [entered]) (by simp [measured]) (by simp [Rejects, Stops])
        (by simp [Panics, hf, hr]) ⟨rfl, by simp [GivesErrors, hf, hr], rfl⟩

theorem process_spec : StageSpec h context .process p (h.process context p).value := by
  rw [process]
  simp only [Logged.value_bind, Progress.enter_request, Progress.enter_response]
  split
  · rename_i panic hr
    exact .of_panicked (by simp [entered]) (by simp [measured]) (by simp [Rejects, Stops])
      ⟨panic, hr⟩
  · rename_i response hr
    exact .of_gives (by simp [entered]) (by simp [measured]) (by simp [Rejects, Stops])
      (by simp [Panics, hr]) ⟨rfl, rfl, hr⟩

/-- Finishing a response may panic, and otherwise the request goes on with the response as it is
    then. -/
theorem postProcess_cases (h : Handler β) (context : RequestContext) (p : Progress β) :
    ∃ p', p'.trace = p.trace ++ h.entered p .postProcess ∧ p'.measurements = p.measurements ∧
      ((h.FinishPanics context p ∧
          ∃ panic, (h.postProcess context p).value = (p', some (.panicked panic))) ∨
        (¬ h.FinishPanics context p ∧ (h.postProcess context p).value = (p', none) ∧
          p'.request = p.request ∧ p'.errors = p.errors ∧
          h.Finishes context p.request p.response p'.response)) := by
  rw [postProcess]
  cases hf : h.logic.postProcess with
  | none =>
    exact ⟨p, by simp [entered, hf], rfl,
      .inr ⟨by simp [FinishPanics, hf], rfl, rfl, rfl, by simp [Finishes, hf]⟩⟩
  | some f =>
    simp only [Logged.value_bind, Progress.enter_request, Progress.enter_response]
    split
    · rename_i panic hr
      exact ⟨p.enter .postProcess, by simp [entered, hf], rfl,
        .inl ⟨⟨f, panic, hf, hr⟩, panic, rfl⟩⟩
    · rename_i response hr
      exact ⟨{ p.enter .postProcess with response := response }, by simp [entered, hf], rfl,
        .inr ⟨by simp [FinishPanics, hf, hr], rfl, rfl, rfl, by simp [Finishes, hf, hr]⟩⟩

theorem postProcess_spec : StageSpec h context .postProcess p (h.postProcess context p).value := by
  obtain ⟨p', htrace, hkept, ⟨hpanics, panic, hv⟩ | ⟨hnot, hv, hrequest, herrors, hfinished⟩⟩ :=
    postProcess_cases h context p
  · rw [hv]
    exact .of_panicked htrace (by simpa [measured] using hkept) (by simp [Rejects, Stops]) hpanics
  · rw [hv]
    exact .of_gives htrace (by simpa [measured] using hkept) (by simp [Rejects, Stops]) hnot
      ⟨hrequest, herrors, hfinished⟩

theorem rejectInvalid_spec :
    StageSpec h context .rejectInvalid p (h.rejectInvalid context p).value := by
  rw [rejectInvalid]
  by_cases hempty : p.errors.isEmpty = true
  · have hnil : p.errors.errors = [] := by simpa [ErrorRecord.isEmpty] using hempty
    rw [if_pos hempty]
    exact .of_gives (by simp [entered, hempty]) (by simp [measured, hempty])
      (by simp [Rejects, Stops, hnil]) (by simp [Panics, hnil]) ⟨rfl, rfl, rfl⟩
  · have hne : p.errors.errors ≠ [] := by simpa [ErrorRecord.isEmpty] using hempty
    have hentered : h.entered p .rejectInvalid = h.entered p .postProcess := by
      simp [entered, hempty]
    have hmeasured : h.measured p .rejectInvalid = [.validationFailed h.name] := by
      simp [measured, hempty]
    rw [if_neg hempty]
    simp only [Logged.value_bind]
    obtain ⟨p', htrace, hkept, ⟨hpanics, panic, hv⟩ | ⟨hnot, hv, -, herrors, hfinished⟩⟩ :=
      postProcess_cases h context
        { p with measurements := p.measurements ++ [.validationFailed h.name] }
    · rw [hv]
      refine .of_panicked (hentered ▸ htrace) (hmeasured ▸ hkept) ?_ ⟨hne, hpanics⟩
      rintro (hstops | ⟨-, -, hnot⟩)
      · exact hstops
      · exact hnot hpanics
    · rw [hv]
      exact .of_leaves (hentered ▸ htrace) (hmeasured ▸ hkept) (.inr ⟨rfl, hne, hnot⟩)
        (fun hpanics => hnot hpanics.2) ⟨herrors, hfinished⟩

/-- Every stage does what is said of it. -/
theorem stage_spec (h : Handler β) (context : RequestContext) (stage : Stage) (p : Progress β) :
    StageSpec h context stage p (h.stage context stage p).value := by
  cases stage with
  | identify => exact identify_spec
  | authenticate => exact authenticate_spec
  | access => exact access_spec
  | makeTarget => exact makeTarget_spec
  | unmarshal => exact unmarshal_spec
  | bindPath => exact bindPath_spec
  | bindQuery => exact bindQuery_spec
  | preValidate => exact preValidate_spec
  | beginValidate => exact beginValidate_spec
  | checkRules => exact checkRules_spec
  | checkLogic => exact checkLogic_spec
  | rejectInvalid => exact rejectInvalid_spec
  | process => exact process_spec
  | postProcess => exact postProcess_spec

/-! ## What is given is unique -/

variable {stage : Stage} {p' p'' : Progress β}

theorem Finishes.unique {request : Request β} {made finished finished' : Response}
    (hfinished : h.Finishes context request made finished)
    (hfinished' : h.Finishes context request made finished') : finished = finished' := by
  unfold Finishes at hfinished hfinished'
  cases hhook : h.logic.postProcess <;> simp only [hhook] at hfinished hfinished' <;> grind

theorem Binds.unique {bind : Option (ParamBinder β)} {params : Params}
    {body bound bound' : Option β} (hbound : Binds bind params body bound)
    (hbound' : Binds bind params body bound') : bound = bound' := by
  unfold Binds at hbound hbound'
  cases bind <;> cases body <;> grind

theorem GivesRequest.unique {request request' : Request β}
    (hgives : h.GivesRequest context p stage request)
    (hgives' : h.GivesRequest context p stage request') : request = request' := by
  cases stage with
  | identify =>
    simp only [GivesRequest] at hgives hgives'
    cases hf : h.identifier <;> simp only [hf] at hgives hgives' <;> grind
  | makeTarget =>
    simp only [GivesRequest] at hgives hgives'
    cases hf : h.logic.unmarshalTarget <;> simp only [hf] at hgives hgives' <;> grind
  | unmarshal =>
    simp only [GivesRequest] at hgives hgives'
    cases hf : h.reader <;> cases hbody : p.request.body <;>
      simp only [hf, hbody] at hgives hgives' <;> grind
  | bindPath =>
    simp only [GivesRequest] at hgives hgives'
    cases hf : h.path <;> simp only [hf] at hgives hgives' <;> grind [Binds.unique]
  | bindQuery =>
    obtain ⟨bound, hbound, rfl⟩ := hgives
    obtain ⟨bound', hbound', rfl⟩ := hgives'
    rw [hbound.unique hbound']
  | preValidate =>
    simp only [GivesRequest] at hgives hgives'
    cases hf : h.logic.preValidate <;> simp only [hf] at hgives hgives' <;> grind
  | process => exact Eq.trans hgives.symm hgives'
  | _ => exact Eq.trans hgives hgives'.symm

theorem GivesErrors.unique {errors errors' : ErrorRecord}
    (hgives : h.GivesErrors context p stage errors)
    (hgives' : h.GivesErrors context p stage errors') : errors = errors' := by
  cases stage with
  | preValidate =>
    simp only [GivesErrors] at hgives hgives'
    cases hf : h.logic.preValidate <;> simp only [hf] at hgives hgives' <;> grind
  | checkRules =>
    simp only [GivesErrors] at hgives hgives'
    cases hf : h.subjectCheck <;> cases hbody : p.request.body <;>
      simp only [hf, hbody] at hgives hgives' <;> grind
  | checkLogic =>
    simp only [GivesErrors] at hgives hgives'
    cases hf : h.logic.validate <;> simp only [hf] at hgives hgives' <;> grind
  | _ => exact Eq.trans hgives hgives'.symm

theorem GivesResponse.unique {response response' : Response}
    (hgives : h.GivesResponse context p stage response)
    (hgives' : h.GivesResponse context p stage response') : response = response' := by
  cases stage with
  | process => exact Except.ok.inj (Eq.trans hgives.symm hgives')
  | postProcess => exact Finishes.unique hgives hgives'
  | _ => exact Eq.trans hgives hgives'.symm

theorem Passes.unique (hpasses : h.Passes context stage p p')
    (hpasses' : h.Passes context stage p p'') : p' = p'' := by
  obtain ⟨request, response, errors, trace, measurements⟩ := p'
  obtain ⟨request', response', errors', trace', measurements'⟩ := p''
  obtain rfl : request = request' := hpasses.request.unique hpasses'.request
  obtain rfl : response = response' := hpasses.response.unique hpasses'.response
  obtain rfl : errors = errors' := hpasses.errors.unique hpasses'.errors
  obtain rfl : trace = trace' := hpasses.trace.trans hpasses'.trace.symm
  obtain rfl : measurements = measurements' :=
    hpasses.measurements.trans hpasses'.measurements.symm
  rfl

/-! ## The end of a stage -/

theorem passes_of_value (hstep : (h.stage context stage p).value = (p', none)) :
    h.Passes context stage p p' := by
  have hspec := stage_spec h context stage p
  rw [hstep] at hspec
  refine { hspec.gives rfl with
    not_rejects := fun hrejects => ?_
    not_panics := fun hpanics => ?_
    trace := hspec.trace
    measurements := hspec.measurements }
  · cases hspec.rejected.2 hrejects
  · obtain ⟨panic, hpanic⟩ := hspec.panicked.2 hpanics
    cases hpanic

theorem Rejects.value (hrejects : h.Rejects context p stage) :
    ∃ p', (h.stage context stage p).value = (p', some .rejected) :=
  ⟨_, Prod.ext rfl ((stage_spec h context stage p).rejected.2 hrejects)⟩

theorem Panics.value (hpanics : h.Panics context p stage) :
    ∃ p' panic, (h.stage context stage p).value = (p', some (.panicked panic)) := by
  obtain ⟨panic, hvalue⟩ := (stage_spec h context stage p).panicked.2 hpanics
  exact ⟨_, panic, Prod.ext rfl hvalue⟩

theorem rejects_of_value (hstep : (h.stage context stage p).value = (p', some .rejected)) :
    h.Rejects context p stage := by
  rw [← (stage_spec h context stage p).rejected, hstep]

theorem panics_of_value {panic : Panic}
    (hstep : (h.stage context stage p).value = (p', some (.panicked panic))) :
    h.Panics context p stage := by
  rw [← (stage_spec h context stage p).panicked, hstep]
  exact ⟨panic, rfl⟩

/-- A request goes on from a stage unless it is rejected there or a hook panics. -/
theorem exists_passes (hrejects : ¬ h.Rejects context p stage)
    (hpanics : ¬ h.Panics context p stage) : ∃ p', h.Passes context stage p p' := by
  cases hstep : (h.stage context stage p).value with
  | mk p' stop? =>
    match stop? with
    | none => exact ⟨p', passes_of_value hstep⟩
    | some .rejected => exact absurd (rejects_of_value hstep) hrejects
    | some (.panicked panic) => exact absurd (panics_of_value hstep) hpanics

/-- What the hooks answer decides about the step to the next stage. -/
theorem passes_iff :
    h.Passes context stage p p' ↔ (h.stage context stage p).value = (p', none) := by
  refine ⟨fun hpasses => ?_, passes_of_value⟩
  cases hstep : (h.stage context stage p).value with
  | mk q stop? =>
    match stop? with
    | none => rw [hpasses.unique (passes_of_value hstep)]
    | some .rejected => exact absurd (rejects_of_value hstep) hpasses.not_rejects
    | some (.panicked panic) => exact absurd (panics_of_value hstep) hpasses.not_panics

theorem Passes.value (hpasses : h.Passes context stage p p') :
    (h.stage context stage p).value = (p', none) :=
  passes_iff.1 hpasses

theorem Stops.rejects (hstops : h.Stops context p stage) : h.Rejects context p stage :=
  .inl hstops

/-- A request that is rejected at a stage is left with what is said of it. -/
theorem Rejects.leaves (hrejects : h.Rejects context p stage) :
    ∃ p', (h.stage context stage p).value = (p', some .rejected) ∧
      h.Leaves context stage p p' := by
  have hspec := stage_spec h context stage p
  obtain ⟨p', hstop⟩ := hrejects.value
  rw [hstop] at hspec
  exact ⟨p', hstop, hspec.leaves rfl⟩

end Handler

end Endpoint
