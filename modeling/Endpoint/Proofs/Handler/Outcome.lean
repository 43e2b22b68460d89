import Endpoint.Proofs.Handler.Run

/-!
# Phases and outcome of a request

Which phases a served request goes through, and how it ends, follow from what the hooks of
the handler answer at the stages it comes to.
-/

namespace Endpoint

namespace Handler

variable {β : Type}

/-- The context that the hooks of a handler see. -/
def named (h : Handler β) (context : RequestContext) : RequestContext :=
  { context with handlerName := some h.name }

variable {h : Handler β} {context : RequestContext} {sink : Sink} {head : RequestHead}
  {rawBody : List UInt8} {nanoseconds : Nat} {start p q p' : Progress β} {stage : Stage}
  {todo : List Stage}

theorem serve_trace :
    (h.serve context sink head rawBody nanoseconds).value.trace =
      h.finalTrace (h.named context) (h.start head rawBody) ++ [.write] := rfl

theorem serve_outcome :
    (h.serve context sink head rawBody nanoseconds).value.outcome =
      outcomeOf (h.runStages (h.named context) Stage.all (h.start head rawBody)).value.1
        (h.runStages (h.named context) Stage.all (h.start head rawBody)).value.2 := rfl

theorem stateOf_sink {stop? : Option Stop} : (h.stateOf p sink stop?).sink = sink := by
  match stop? with
  | none => rfl
  | some .rejected => rfl
  | some (.panicked _) => rfl

/-- The writer is called once, with the outcome and on the sink that the request came with. -/
theorem serve_write :
    ∃ state : ProcessState, state.sink = sink ∧
      (h.writer (h.named context) state
        (h.serve context sink head rawBody nanoseconds).value.outcome).value =
      ((h.serve context sink head rawBody nanoseconds).value.sink,
        (h.serve context sink head rawBody nanoseconds).value.result) :=
  ⟨h.stateOf (h.runStages (h.named context) Stage.all (h.start head rawBody)).value.1 sink
    (h.runStages (h.named context) Stage.all (h.start head rawBody)).value.2, stateOf_sink, rfl⟩

/-! ## The end of a run -/

/-- A request that comes to a stage has gone on from every stage before it. -/
theorem Arrives.passed (hp : h.Arrives context start stage p) (earlier : Stage)
    (hearlier : earlier ∉ stage :: stage.after) :
    ∃ q q', h.Arrives context start earlier q ∧ h.Passes context earlier q q' :=
  Reaches.passed hp hearlier

theorem Arrives.unique (hp : h.Arrives context start stage p)
    (hq : h.Arrives context start stage q) : p = q :=
  Reaches.unique hp hq

/-- A request that is rejected at a stage, or in which a hook panics there, does not come to
    any later stage. -/
theorem Arrives.not_later (hp : h.Arrives context start stage p) {later : Stage}
    (hlater : stage ∉ later :: later.after)
    (hends : h.Rejects context p stage ∨ h.Panics context p stage) :
    ¬ h.Arrives context start later q := by
  intro hq
  obtain ⟨p', _, hp', hpasses⟩ := hq.passed stage hlater
  obtain rfl := hp.unique hp'
  rcases hends with hrejects | hpanics
  · exact hpasses.not_rejects hrejects
  · exact hpasses.not_panics hpanics

/-- A request that comes to a stage has gone on from the one before it. -/
theorem Arrives.exists_previous (hp : h.Arrives context start stage p) (previous : Stage)
    (hnext : previous.after = stage :: stage.after) :
    ∃ q, h.Arrives context start previous q ∧ h.Passes context previous q p := by
  have hnot : previous ∉ stage :: stage.after := by
    rw [← hnext]
    cases previous <;> decide
  obtain ⟨q, q', hq, hpasses⟩ := hp.passed previous hnot
  have hp' : h.Arrives context start stage q' := by
    rw [Arrives, ← hnext]
    exact .pass hq hpasses
  exact ⟨q, hq, hp.unique hp' ▸ hpasses⟩

/-- A run goes through all stages, is rejected at one, or a hook panics at one. -/
theorem run_cases (h : Handler β) (context : RequestContext) (start : Progress β) :
    (∃ p, h.Completes context start p) ∨
      (∃ stage p, h.Arrives context start stage p ∧ h.Rejects context p stage) ∨
      ∃ stage p, h.Arrives context start stage p ∧ h.Panics context p stage := by
  have hfirst : h.Reaches context start Stage.all start := .start
  rcases hfirst.ends with hp | ⟨stage, p, p', stop, hp, hstop⟩
  · exact .inl hp
  · cases stop with
    | rejected => exact .inr (.inl ⟨stage, p, hp, rejects_of_value hstop⟩)
    | panicked panic => exact .inr (.inr ⟨stage, p, hp, panics_of_value hstop⟩)

/-- How a run ends. -/
def endOf (h : Handler β) (context : RequestContext) (start : Progress β) : Outcome :=
  outcomeOf (h.runStages context Stage.all start).value.1
    (h.runStages context Stage.all start).value.2

theorem Completes.endOf_eq (hp : h.Completes context start p) :
    h.endOf context start = if p.response.errors.isEmpty then .normal else .error := by
  rw [endOf, hp.run, outcomeOf]

theorem Arrives.endOf_of_rejects (hp : h.Arrives context start stage p)
    (hrejects : h.Rejects context p stage) : h.endOf context start = .error := by
  obtain ⟨p', hstop⟩ := hrejects.value
  rw [endOf, hp.run_of_stop hstop, outcomeOf]

theorem Arrives.endOf_of_panics (hp : h.Arrives context start stage p)
    (hpanics : h.Panics context p stage) : h.endOf context start = .abnormal := by
  obtain ⟨p', panic, hstop⟩ := hpanics.value
  rw [endOf, hp.run_of_stop hstop, outcomeOf]

theorem endOf_eq_abnormal_iff :
    h.endOf context start = .abnormal ↔
      ∃ stage p, h.Arrives context start stage p ∧ h.Panics context p stage := by
  constructor
  · intro hend
    rcases run_cases h context start with ⟨p, hp⟩ | ⟨stage, p, hp, hrejects⟩ | hpanics
    · rw [hp.endOf_eq] at hend
      split at hend
      · cases hend
      · cases hend
    · rw [hp.endOf_of_rejects hrejects] at hend
      cases hend
    · exact hpanics
  · rintro ⟨stage, p, hp, hpanics⟩
    exact hp.endOf_of_panics hpanics

theorem endOf_eq_normal_iff :
    h.endOf context start = .normal ↔
      ∃ p, h.Completes context start p ∧ p.response.errors.errors = [] := by
  constructor
  · intro hend
    rcases run_cases h context start with
      ⟨p, hp⟩ | ⟨stage, p, hp, hrejects⟩ | ⟨stage, p, hp, hpanics⟩
    · rw [hp.endOf_eq] at hend
      split at hend
      · rename_i hempty
        exact ⟨p, hp, by simpa [ErrorRecord.isEmpty] using hempty⟩
      · cases hend
    · rw [hp.endOf_of_rejects hrejects] at hend
      cases hend
    · rw [hp.endOf_of_panics hpanics] at hend
      cases hend
  · rintro ⟨p, hp, hnil⟩
    rw [hp.endOf_eq, ErrorRecord.isEmpty, hnil]
    rfl

theorem endOf_eq_error_iff :
    h.endOf context start = .error ↔
      (∃ stage p, h.Arrives context start stage p ∧ h.Rejects context p stage) ∨
        ∃ p, h.Completes context start p ∧ p.response.errors.errors ≠ [] := by
  constructor
  · intro hend
    rcases run_cases h context start with ⟨p, hp⟩ | hrejects | ⟨stage, p, hp, hpanics⟩
    · rw [hp.endOf_eq] at hend
      split at hend
      · cases hend
      · rename_i hempty
        exact .inr ⟨p, hp, by simpa [ErrorRecord.isEmpty] using hempty⟩
    · exact .inl hrejects
    · rw [hp.endOf_of_panics hpanics] at hend
      cases hend
  · rintro (⟨stage, p, hp, hrejects⟩ | ⟨p, hp, hne⟩)
    · exact hp.endOf_of_rejects hrejects
    · rw [hp.endOf_eq, if_neg (by simpa [ErrorRecord.isEmpty] using hne)]

/-! ## When the logic processes a request -/

theorem Completes.arrives (hp : h.Completes context start p) (stage : Stage) :
    ∃ q q', h.Arrives context start stage q ∧ h.Passes context stage q q' :=
  Reaches.passed hp List.not_mem_nil

/-- The logic processes a request exactly when the request comes to that stage. -/
theorem process_mem_finalTrace_iff (hstart : start.trace = []) :
    .process ∈ h.finalTrace context start ↔ ∃ p, h.Arrives context start .process p := by
  rw [mem_finalTrace_iff hstart]
  constructor
  · rintro ⟨stage, p, hp, hphase⟩
    have hmem := (entered_sublist h p stage).subset hphase
    cases stage with
    | process => exact ⟨p, hp⟩
    | _ => simp [Stage.phases] at hmem
  · rintro ⟨p, hp⟩
    exact ⟨.process, p, hp, List.mem_singleton_self _⟩

/-- A request that was not stopped before has come to the end of its validation. -/
theorem arrives_process_iff
    (hpanics : ∀ stage p, stage ≠ .process → stage ≠ .postProcess →
      h.Arrives context start stage p → ¬ h.Panics context p stage) :
    (∃ p, h.Arrives context start .process p) ↔
      (∀ stage p, h.Arrives context start stage p → ¬ h.Stops context p stage) ∧
        ∀ p, h.Arrives context start .rejectInvalid p → p.errors.errors = [] := by
  constructor
  · rintro ⟨q, hq⟩
    constructor
    · intro stage p hp hstops
      have hearlier : stage ∉ Stage.process :: Stage.process.after := by
        cases stage with
        | process => exact absurd hstops id
        | postProcess => exact absurd hstops id
        | _ => decide
      exact hp.not_later hearlier (.inl hstops.rejects) hq
    · intro p hp
      refine Classical.byContradiction fun hne => ?_
      have hnot : ¬ h.FinishPanics context p := fun hfinish =>
        hpanics .rejectInvalid p (by decide) (by decide) hp ⟨hne, hfinish⟩
      exact hp.not_later (by decide) (.inl (.inr ⟨rfl, hne, hnot⟩)) hq
  · rintro ⟨hstops, hvalid⟩
    rcases run_cases h context start with
      ⟨p, hp⟩ | ⟨stage, p, hp, hrejects⟩ | ⟨stage, p, hp, hstage⟩
    · obtain ⟨q, _, hq, -⟩ := hp.arrives .process
      exact ⟨q, hq⟩
    · rcases hrejects with hstop | ⟨rfl, hne, -⟩
      · exact absurd hstop (hstops stage p hp)
      · exact absurd (hvalid p hp) hne
    · by_cases hprocess : stage = .process
      · exact ⟨p, hprocess ▸ hp⟩
      · by_cases hpost : stage = .postProcess
        · subst hpost
          obtain ⟨q, _, hq, -⟩ := hp.passed .process (by decide)
          exact ⟨q, hq⟩
        · exact absurd hstage (hpanics stage p hprocess hpost hp)

/-- The logic returns from processing a request. -/
def Processed (h : Handler β) (context : RequestContext) (p : Progress β) : Prop :=
  ∃ response, (h.logic.process context p.request p.response).value.2 = .ok response

theorem not_panics_process_iff : ¬ h.Panics context p .process ↔ h.Processed context p := by
  rw [Panics, Processed]
  cases (h.logic.process context p.request p.response).value.2 with
  | error panic => simp
  | ok response => simp

/-- A request comes to its last stage when the logic has returned from processing it. -/
theorem arrives_postProcess_iff :
    (∃ p, h.Arrives context start .postProcess p) ↔
      ∃ p, h.Arrives context start .process p ∧ h.Processed context p := by
  constructor
  · rintro ⟨p, hp⟩
    obtain ⟨q, q', hq, hpasses⟩ := hp.passed .process (by decide)
    exact ⟨q, hq, not_panics_process_iff.1 hpasses.not_panics⟩
  · rintro ⟨p, hp, hprocessed⟩
    have hrejects : ¬ h.Rejects context p .process := by simp [Rejects, Stops]
    obtain ⟨p', hpasses⟩ := exists_passes hrejects (not_panics_process_iff.2 hprocessed)
    have hnext : h.Reaches context start [.postProcess] p' := .pass hp hpasses
    exact ⟨p', hnext.arrives⟩

/-- The logic finishes the response of an invalid request and of one that was processed. -/
theorem postProcess_mem_finalTrace_iff (hstart : start.trace = [])
    (hhook : h.logic.postProcess.isSome = true) :
    .postProcess ∈ h.finalTrace context start ↔
      (∃ p, h.Arrives context start .rejectInvalid p ∧ p.errors.errors ≠ []) ∨
        ∃ p, h.Arrives context start .process p ∧ h.Processed context p := by
  rw [mem_finalTrace_iff hstart, ← arrives_postProcess_iff]
  constructor
  · rintro ⟨stage, p, hp, hphase⟩
    have hmem := (entered_sublist h p stage).subset hphase
    cases stage with
    | rejectInvalid =>
      refine .inl ⟨p, hp, ?_⟩
      intro hnil
      simp [entered, ErrorRecord.isEmpty, hnil] at hphase
    | postProcess => exact .inr ⟨p, hp⟩
    | _ => simp [Stage.phases] at hmem
  · rintro (⟨p, hp, hne⟩ | ⟨p, hp⟩)
    · exact ⟨.rejectInvalid, p, hp, by simp [entered, ErrorRecord.isEmpty, hne, hhook]⟩
    · exact ⟨.postProcess, p, hp, by simp [entered, hhook]⟩

/-! ## What is recorded on the way -/

/-- Before the logic gets to see a request it has the errors that it started with. -/
theorem Reaches.errors_eq (hp : h.Reaches context start todo p)
    (htodo : Stage.preValidate ∈ todo) : p.errors = start.errors := by
  induction hp with
  | start => rfl
  | @pass stage rest p p' hp hpasses ih =>
    obtain ⟨done, hall⟩ := hp.suffix
    obtain ⟨-, rfl⟩ := Stage.eq_before_after hall
    cases stage with
    -- No stage from here on is followed by that one.
    | preValidate | checkRules | checkLogic => exact absurd htodo (by decide)
    | _ => exact Eq.trans hpasses.errors (ih (List.mem_cons_of_mem _ htodo))

/-- Before a request is processed it has the response that it started with. -/
theorem Reaches.response_eq (hp : h.Reaches context start todo p)
    (htodo : Stage.process ∈ todo) : p.response = start.response := by
  induction hp with
  | start => rfl
  | @pass stage rest p p' hp hpasses ih =>
    obtain ⟨done, hall⟩ := hp.suffix
    obtain ⟨-, rfl⟩ := Stage.eq_before_after hall
    cases stage with
    | process | postProcess => exact absurd htodo (by decide)
    | _ => exact Eq.trans hpasses.response (ih (List.mem_cons_of_mem _ htodo))

/-- The errors of a validated request are what three hooks made of them in turn. -/
theorem Arrives.errors_given (hp : h.Arrives context start .rejectInvalid p) :
    ∃ q₁ q₂ q₃, h.Arrives context start .preValidate q₁ ∧ q₁.errors = start.errors ∧
      h.GivesRequest context q₁ .preValidate q₂.request ∧
      h.GivesErrors context q₁ .preValidate q₂.errors ∧
      h.Arrives context start .checkRules q₂ ∧ h.GivesErrors context q₂ .checkRules q₃.errors ∧
      h.Arrives context start .checkLogic q₃ ∧ h.GivesErrors context q₃ .checkLogic p.errors ∧
      q₃.request = q₂.request ∧ p.request = q₂.request := by
  obtain ⟨q₃, hq₃, hlogic⟩ := hp.exists_previous .checkLogic rfl
  obtain ⟨q₂, hq₂, hrules⟩ := hq₃.exists_previous .checkRules rfl
  obtain ⟨q, hq, hbegin⟩ := hq₂.exists_previous .beginValidate rfl
  obtain ⟨q₁, hq₁, hpre⟩ := hq.exists_previous .preValidate rfl
  have hrequest : q₂.request = q.request := hbegin.request
  have herrors : q₂.errors = q.errors := hbegin.errors
  have hkept : q₃.request = q₂.request := hrules.request
  refine ⟨q₁, q₂, q₃, hq₁, Reaches.errors_eq hq₁ (by decide), hrequest ▸ hpre.request,
    herrors ▸ hpre.errors, hq₂, hrules.errors, hq₃, hlogic.errors, hkept, ?_⟩
  exact Eq.trans hlogic.request hkept

/-- The response of a request that completes is what the logic made and finished. -/
theorem Completes.response_given (hp : h.Completes context start p) :
    ∃ q made, h.Arrives context start .process q ∧ q.response = start.response ∧
      (h.logic.process context q.request q.response).value.2 = .ok made ∧
      h.Finishes context (h.logic.process context q.request q.response).value.1 made
        p.response := by
  obtain ⟨r, p', hr, hfinish⟩ := hp.arrives .postProcess
  obtain rfl : p' = p := Reaches.unique (.pass hr hfinish) hp
  obtain ⟨q, hq, hprocess⟩ := hr.exists_previous .process rfl
  have hrequest : (h.logic.process context q.request q.response).value.1 = r.request :=
    hprocess.request
  exact ⟨q, r.response, hq, Reaches.response_eq hq (by decide), hprocess.response,
    hrequest ▸ hfinish.response⟩

/-- A served request enters phases that the handler has a use for, in order and each once at
    most, and then one response is written.  Where it is stopped before its validation it enters
    nothing more.  Unless a hook panics before, the logic processes the request if and only if it is
    not stopped and its validation finds no errors; the response is finished if and only if the
    validation finds errors or the logic returns from processing.  The request ends abnormally
    when a hook panics, with an error when it is rejected or the response holds errors, and
    normally otherwise.  Those errors are the ones that the hooks gave: before a request was
    validated, by the rules and in its validation by the logic, each of them after the one before;
    and that response is the one that the logic made and finished. -/
theorem serve_phases (h : Handler β) (context : RequestContext) (sink : Sink) (head : RequestHead)
    (rawBody : List UInt8) (nanoseconds : Nat) :
    let served := (h.serve context sink head rawBody nanoseconds).value
    let seen := h.named context
    let start := h.start head rawBody
    (∃ phases, served.trace = phases ++ [.write] ∧ phases.Sublist Phase.order ∧
      ∀ phase ∈ phases, h.Uses phase) ∧
    (∃ state : ProcessState, state.sink = sink ∧
      (h.writer seen state served.outcome).value = (served.sink, served.result)) ∧
    (∀ stage p, h.Arrives seen start stage p → h.Stops seen p stage →
      served.trace = p.trace ++ h.entered p stage ++ [.write]) ∧
    ((∀ stage p, stage ≠ .process → stage ≠ .postProcess → h.Arrives seen start stage p →
        ¬ h.Panics seen p stage) →
      (.process ∈ served.trace ↔
        (∀ stage p, h.Arrives seen start stage p → ¬ h.Stops seen p stage) ∧
          ∀ p, h.Arrives seen start .rejectInvalid p → p.errors.errors = [])) ∧
    (h.logic.postProcess.isSome = true →
      (.postProcess ∈ served.trace ↔
        (∃ p, h.Arrives seen start .rejectInvalid p ∧ p.errors.errors ≠ []) ∨
          ∃ p, h.Arrives seen start .process p ∧ h.Processed seen p)) ∧
    (served.outcome = .abnormal ↔
      ∃ stage p, h.Arrives seen start stage p ∧ h.Panics seen p stage) ∧
    (served.outcome = .error ↔
      (∃ stage p, h.Arrives seen start stage p ∧ h.Rejects seen p stage) ∨
        ∃ p, h.Completes seen start p ∧ p.response.errors.errors ≠ []) ∧
    (served.outcome = .normal ↔
      ∃ p, h.Completes seen start p ∧ p.response.errors.errors = []) ∧
    (∀ p, h.Arrives seen start .rejectInvalid p → ∃ q₁ q₂ q₃,
      h.Arrives seen start .preValidate q₁ ∧ q₁.errors = .empty h.catalogue ∧
      h.GivesRequest seen q₁ .preValidate q₂.request ∧
      h.GivesErrors seen q₁ .preValidate q₂.errors ∧
      h.Arrives seen start .checkRules q₂ ∧ h.GivesErrors seen q₂ .checkRules q₃.errors ∧
      h.Arrives seen start .checkLogic q₃ ∧ h.GivesErrors seen q₃ .checkLogic p.errors ∧
      q₃.request = q₂.request ∧ p.request = q₂.request) ∧
    (∀ p, h.Completes seen start p → ∃ q made,
      h.Arrives seen start .process q ∧ q.response = .empty h.catalogue ∧
      (h.logic.process seen q.request q.response).value.2 = .ok made ∧
      h.Finishes seen (h.logic.process seen q.request q.response).value.1 made p.response) := by
  intro served seen start
  have hstart : start.trace = [] := rfl
  have htrace : served.trace = h.finalTrace seen start ++ [.write] := serve_trace
  have hend : served.outcome = h.endOf seen start := serve_outcome
  have hmem : ∀ phase, phase ≠ .write →
      (phase ∈ served.trace ↔ phase ∈ h.finalTrace seen start) := by
    intro phase hphase
    rw [htrace, List.mem_append, List.mem_singleton]
    exact or_iff_left hphase
  have horder := finalTrace_sublist h seen start hstart
  refine ⟨⟨_, htrace, horder, ?_⟩, serve_write, ?_, ?_, ?_, ?_, ?_, ?_,
    fun p hp => hp.errors_given, fun p hp => hp.response_given⟩
  · intro phase hphase
    obtain ⟨stage, p, -, hentered⟩ := (mem_finalTrace_iff hstart).1 hphase
    exact uses_of_mem_entered hentered
  · intro stage p hp hstops
    obtain ⟨p', hstop⟩ := hstops.rejects.value
    rw [htrace, hp.trace_of_stop hstop]
  · intro hpanics
    rw [hmem .process (by decide), process_mem_finalTrace_iff hstart, arrives_process_iff hpanics]
  · intro hhook
    rw [hmem .postProcess (by decide), postProcess_mem_finalTrace_iff hstart hhook]
  · rw [hend, endOf_eq_abnormal_iff]
  · rw [hend, endOf_eq_error_iff]
  · rw [hend, endOf_eq_normal_iff]

end Handler

end Endpoint
