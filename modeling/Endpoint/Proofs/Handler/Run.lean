import Endpoint.Proofs.Handler.Stages
import Mathlib.Data.List.Induction

/-!
# The run of a request through its stages

`Reaches` says how far a request comes: with what progress, and which stages are left then.  It
goes from stage to stage by what the hooks of the handler answer.  The run ends at the first stage
that ends the request, or after the last one; its trace consists of the phases entered at the
stages that were reached.
-/

namespace Endpoint

/-- The phases before a response is written, in their order. -/
def Phase.order : List Phase :=
  [identify, access, unmarshalTarget, unmarshal, pathBind, queryBind, preValidate, validate,
    process, postProcess]

namespace Stage

/-- The stages after one. -/
def after (stage : Stage) : List Stage := (all.dropWhile (· != stage)).tail

/-- The stages before one. -/
def before (stage : Stage) : List Stage := all.takeWhile (· != stage)

theorem all_nodup : all.Nodup := by decide

theorem mem_all (stage : Stage) : stage ∈ all := by cases stage <;> decide

theorem ne_of_not_mem {done : List Stage} {stage : Stage} (h : stage ∉ done) :
    ∀ other ∈ done, (other != stage) = true := by
  intro other hother
  rw [bne_iff_ne]
  rintro rfl
  exact h hother

/-- A stage stands at one place among all. -/
theorem eq_before_after {done rest : List Stage} {stage : Stage}
    (h : done ++ stage :: rest = all) : done = stage.before ∧ rest = stage.after := by
  have hnodup : (done ++ stage :: rest).Nodup := h ▸ all_nodup
  have hnot : stage ∉ done := by
    intro hmem
    exact (List.nodup_append.1 hnodup).2.2 _ hmem _ List.mem_cons_self rfl
  have hne := ne_of_not_mem hnot
  constructor
  · rw [before, ← h, List.takeWhile_append_of_pos hne]
    simp
  · rw [after, ← h, List.dropWhile_append_of_pos hne]
    simp

/-- The phases that may be entered at a stage. -/
def phases : Stage → List Phase
  | .identify => [.identify]
  | .access => [.access]
  | .makeTarget => [.unmarshalTarget]
  | .unmarshal => [.unmarshal]
  | .bindPath => [.pathBind]
  | .bindQuery => [.queryBind]
  | .preValidate => [.preValidate]
  | .beginValidate => [.validate]
  | .process => [.process]
  | .rejectInvalid | .postProcess => [.postProcess]
  | .authenticate | .checkRules | .checkLogic => []

/-- The phases that may be entered at a stage from which a request goes on.  One that is
    invalid does not. -/
def passedPhases (stage : Stage) : List Phase := if stage = .rejectInvalid then [] else stage.phases

/-- The phases entered up to a stage are in order. -/
theorem flatMap_passedPhases_append_sublist (stage : Stage) :
    (stage.before.flatMap passedPhases ++ stage.phases).Sublist Phase.order := by
  cases stage <;> decide

end Stage

namespace Handler

variable {β : Type}

/-- A request comes to a point with a list of stages left and some progress made. -/
inductive Reaches (h : Handler β) (context : RequestContext) (start : Progress β) :
    List Stage → Progress β → Prop
  | start : Reaches h context start Stage.all start
  | pass {stage : Stage} {rest : List Stage} {p p' : Progress β} :
      Reaches h context start (stage :: rest) p → h.Passes context stage p p' →
      Reaches h context start rest p'

/-- A request comes to a stage. -/
def Arrives (h : Handler β) (context : RequestContext) (start : Progress β) (stage : Stage)
    (p : Progress β) : Prop := h.Reaches context start (stage :: stage.after) p

/-- A request goes through all stages. -/
def Completes (h : Handler β) (context : RequestContext) (start p : Progress β) : Prop :=
  h.Reaches context start [] p

variable {h : Handler β} {context : RequestContext} {start p p' q : Progress β} {stage : Stage}
  {rest done todo : List Stage} {stop : Stop} {phase : Phase}

/-- A request goes on from a stage to the next. -/
theorem Reaches.next (hp : h.Reaches context start (stage :: rest) p)
    (hstep : (h.stage context stage p).value = (p', none)) : h.Reaches context start rest p' :=
  .pass hp (passes_of_value hstep)

theorem Reaches.suffix (hp : h.Reaches context start todo p) : todo <:+ Stage.all := by
  induction hp with
  | start => exact List.suffix_rfl
  | pass _ _ ih => exact (List.suffix_cons _ _).trans ih

theorem Reaches.arrives (hp : h.Reaches context start (stage :: rest) p) :
    h.Arrives context start stage p := by
  obtain ⟨done, hall⟩ := hp.suffix
  rw [Arrives, ← (Stage.eq_before_after hall).2]
  exact hp

/-- A request comes to a point in one way only. -/
theorem Reaches.unique (hp : h.Reaches context start todo p) (hq : h.Reaches context start todo q) :
    p = q := by
  induction hp generalizing q with
  | start =>
    generalize htodo : Stage.all = todo at hq
    cases hq with
    | start => rfl
    | pass hq _ =>
      have hle := hq.suffix.length_le
      rw [htodo, List.length_cons] at hle
      omega
  | @pass stage rest p p' hp hpasses ih =>
    cases hq with
    | start =>
      have hle := hp.suffix.length_le
      rw [List.length_cons] at hle
      omega
    | @pass stage' _ q' _ hq hpasses' =>
      have hlength : (stage :: rest).length = (stage' :: rest).length := by simp
      have hsuffix := List.suffix_of_suffix_length_le hp.suffix hq.suffix (Nat.le_of_eq hlength)
      have hsame : stage :: rest = stage' :: rest := hsuffix.eq_of_length hlength
      obtain rfl := (List.cons.inj hsame).1
      obtain rfl := ih hq
      exact hpasses.unique hpasses'

/-- From wherever a request has come to, the run goes on. -/
theorem Reaches.run (hp : h.Reaches context start todo p) :
    (h.runStages context Stage.all start).value = (h.runStages context todo p).value := by
  induction hp with
  | start => rfl
  | pass _ hpasses ih =>
    rw [ih, runStages, andThen, Logged.value_bind, hpasses.value]

/-- The run ends where a stage ends it. -/
theorem Arrives.run_of_stop (hp : h.Arrives context start stage p)
    (hstop : (h.stage context stage p).value = (p', some stop)) :
    (h.runStages context Stage.all start).value = (p', some stop) := by
  rw [Reaches.run hp, runStages, andThen, Logged.value_bind, hstop]
  rfl

theorem Completes.run (hp : h.Completes context start p) :
    (h.runStages context Stage.all start).value = (p, none) := by
  rw [Reaches.run hp]
  rfl

/-- From wherever a request has come to, it goes through all stages or is ended at one. -/
theorem Reaches.ends (hp : h.Reaches context start todo p) :
    (∃ q, h.Completes context start q) ∨
      ∃ stage q q' stop, h.Arrives context start stage q ∧
        (h.stage context stage q).value = (q', some stop) := by
  induction todo generalizing p with
  | nil => exact .inl ⟨p, hp⟩
  | cons stage rest ih =>
    cases hstep : (h.stage context stage p).value with
    | mk p' stop? =>
      cases stop? with
      | none => exact ih (.next hp hstep)
      | some stop => exact .inr ⟨stage, p, p', stop, hp.arrives, hstep⟩

/-- A stage that is no longer left was reached, and the request went on from it. -/
theorem Reaches.passed (hp : h.Reaches context start todo p) (hstage : stage ∉ todo) :
    ∃ q q', h.Arrives context start stage q ∧ h.Passes context stage q q' := by
  induction hp with
  | start => exact absurd stage.mem_all hstage
  | @pass stage' rest p p' hp hpasses ih =>
    by_cases heq : stage = stage'
    · subst heq
      exact ⟨p, p', hp.arrives, hpasses⟩
    · exact ih fun hmem => (List.mem_cons.1 hmem).elim heq hstage

/-- What a stage adds to the trace, whatever becomes of the request. -/
theorem trace_of_stage {stop? : Option Stop}
    (hstep : (h.stage context stage p).value = (p', stop?)) :
    p'.trace = p.trace ++ h.entered p stage := by
  have hspec := (stage_spec h context stage p).trace
  rw [hstep] at hspec
  exact hspec

/-- The final trace of a run. -/
def finalTrace (h : Handler β) (context : RequestContext) (start : Progress β) : List Phase :=
  (h.runStages context Stage.all start).value.1.trace

theorem trace_prefix_runStages :
    p.trace <+: (h.runStages context todo p).value.1.trace := by
  induction todo generalizing p with
  | nil => exact List.prefix_rfl
  | cons stage rest ih =>
    rw [runStages, andThen, Logged.value_bind]
    cases hstep : (h.stage context stage p).value with
    | mk p' stop? =>
      have htrace : p.trace <+: p'.trace := by
        rw [trace_of_stage hstep]
        exact List.prefix_append _ _
      cases stop? with
      | none => exact htrace.trans ih
      | some stop => exact htrace

/-- A phase entered at a stage that is reached stays in the trace. -/
theorem Arrives.entered_prefix (hp : h.Arrives context start stage p) :
    p.trace ++ h.entered p stage <+: h.finalTrace context start := by
  cases hstep : (h.stage context stage p).value with
  | mk p' stop? =>
    rw [← trace_of_stage hstep]
    cases stop? with
    | none =>
      have hnext : h.Reaches context start stage.after p' := .next hp hstep
      rw [finalTrace, hnext.run]
      exact trace_prefix_runStages
    | some stop =>
      have hfinal : h.finalTrace context start = p'.trace := by
        rw [finalTrace, hp.run_of_stop hstep]
      exact hfinal ▸ List.prefix_rfl

/-- Where a run is ended its trace ends as well. -/
theorem Arrives.trace_of_stop (hp : h.Arrives context start stage p)
    (hstop : (h.stage context stage p).value = (p', some stop)) :
    h.finalTrace context start = p.trace ++ h.entered p stage := by
  rw [finalTrace, hp.run_of_stop hstop]
  exact trace_of_stage hstop

theorem Reaches.mem_trace (hp : h.Reaches context start todo p) (hphase : phase ∈ p.trace)
    (hstart : start.trace = []) :
    ∃ stage q, h.Arrives context start stage q ∧ phase ∈ h.entered q stage := by
  induction hp with
  | start => simp [hstart] at hphase
  | @pass stage rest p p' hp hpasses ih =>
    rw [hpasses.trace, List.mem_append] at hphase
    rcases hphase with hphase | hphase
    · exact ih hphase
    · exact ⟨stage, p, hp.arrives, hphase⟩

/-- The phases in a trace are those entered at the stages that are reached. -/
theorem mem_finalTrace_iff (hstart : start.trace = []) :
    phase ∈ h.finalTrace context start ↔
      ∃ stage p, h.Arrives context start stage p ∧ phase ∈ h.entered p stage := by
  constructor
  · intro hphase
    have hfirst : h.Reaches context start Stage.all start := .start
    rcases hfirst.ends with ⟨p, hp⟩ | ⟨stage, p, p', stop, hp, hstop⟩
    · rw [finalTrace, hp.run] at hphase
      exact Reaches.mem_trace hp hphase hstart
    · rw [hp.trace_of_stop hstop, List.mem_append] at hphase
      rcases hphase with hphase | hphase
      · exact Reaches.mem_trace hp hphase hstart
      · exact ⟨stage, p, hp, hphase⟩
  · rintro ⟨stage, p, hp, hphase⟩
    exact hp.entered_prefix.subset (List.mem_append_right _ hphase)

theorem entered_sublist (h : Handler β) (p : Progress β) (stage : Stage) :
    (h.entered p stage).Sublist stage.phases := by
  cases stage <;> simp only [entered, Stage.phases] <;> first | split <;> simp | simp

/-- A request that goes on from a stage has entered no other phases there than it may. -/
theorem Passes.entered_sublist (hpasses : h.Passes context stage p p') :
    (h.entered p stage).Sublist stage.passedPhases := by
  rw [Stage.passedPhases]
  split
  · rename_i hinvalid
    subst hinvalid
    have hempty : p.errors.errors = [] := by
      refine Classical.byContradiction fun hne => ?_
      by_cases hfinish : h.FinishPanics context p
      · exact hpasses.not_panics ⟨hne, hfinish⟩
      · exact hpasses.not_rejects (.inr ⟨rfl, hne, hfinish⟩)
    simp [entered, ErrorRecord.isEmpty, hempty]
  · exact Handler.entered_sublist h p stage

theorem Reaches.trace_sublist (hp : h.Reaches context start todo p) (hstart : start.trace = []) :
    ∃ done, done ++ todo = Stage.all ∧ p.trace.Sublist (done.flatMap Stage.passedPhases) := by
  induction hp with
  | start => exact ⟨[], rfl, by simp [hstart]⟩
  | @pass stage rest p p' hp hpasses ih =>
    obtain ⟨done, hall, htrace⟩ := ih
    refine ⟨done ++ [stage], by simpa using hall, ?_⟩
    rw [hpasses.trace, List.flatMap_append, List.flatMap_singleton]
    exact htrace.append hpasses.entered_sublist

/-- The phases of a run come in order, each of them once at most. -/
theorem finalTrace_sublist (h : Handler β) (context : RequestContext) (start : Progress β)
    (hstart : start.trace = []) : (h.finalTrace context start).Sublist Phase.order := by
  have hfirst : h.Reaches context start Stage.all start := .start
  rcases hfirst.ends with ⟨p, hp⟩ | ⟨stage, p, p', stop, hp, hstop⟩
  · obtain ⟨done, hall, htrace⟩ := Reaches.trace_sublist hp hstart
    obtain rfl : done = Stage.all := by simpa using hall
    rw [finalTrace, hp.run]
    exact htrace
  · obtain ⟨done, hall, htrace⟩ := Reaches.trace_sublist hp hstart
    obtain ⟨rfl, -⟩ := Stage.eq_before_after hall
    rw [hp.trace_of_stop hstop]
    exact (htrace.append (entered_sublist h p stage)).trans
      (Stage.flatMap_passedPhases_append_sublist stage)

/-- A handler enters only phases that it has a use for. -/
theorem uses_of_mem_entered (hphase : phase ∈ h.entered p stage) : h.Uses phase := by
  simp only [entered] at hphase
  cases stage with
  | authenticate => simp at hphase
  | checkRules => simp at hphase
  | checkLogic => simp at hphase
  | unmarshal =>
    obtain ⟨⟨hreader, -⟩, rfl⟩ :
        (h.reader.isSome ∧ p.request.body.isSome) ∧ phase = .unmarshal := by
      simpa using hphase
    exact hreader
  | beginValidate =>
    obtain ⟨hvalidates, rfl⟩ : h.validates p ∧ phase = .validate := by simpa using hphase
    rcases Bool.or_eq_true_iff.1 hvalidates with hrules | hlogic
    · exact .inl (Bool.and_eq_true_iff.1 hrules).1
    · exact .inr hlogic
  | rejectInvalid =>
    obtain ⟨⟨-, hhook⟩, rfl⟩ :
        (p.errors.isEmpty = false ∧ h.logic.postProcess.isSome) ∧ phase = .postProcess := by
      simpa using hphase
    exact hhook
  | process =>
    obtain rfl : phase = .process := by simpa using hphase
    trivial
  | _ =>
    obtain ⟨huse, rfl⟩ := List.mem_ite_nil_right.1 hphase |>.imp_right List.mem_singleton.1
    exact huse

end Handler

end Endpoint
