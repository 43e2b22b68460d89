import Endpoint.Proofs.Http.Sink
import Endpoint.Proofs.Response.Abnormal

/-!
# A response is written once

The first call of a writer commits the sink, whatever it is asked to write.  All later calls,
of this writer or another, find that and leave the sink alone.  No writer here has a builder of
common headers that panics.
-/

namespace Endpoint

namespace RenderingWriter

variable {w : RenderingWriter} {context : RequestContext} {response : Response}
  {common : Option (Entries String)} {sink : Sink} {state : ProcessState} {outcome : Outcome}
  {layout : Json.Layout}

/-- Rendering to JSON succeeds and commits the sink, with or without a body. -/
theorem render_commits (hjson : w.marshal = writeJson layout) :
    (w.render context response common sink).value.1.dataSent = true ∧
      (w.render context response common sink).value.2 = .ok () := by
  rw [render]
  simp only [Logged.value_bind]
  split
  · -- Nothing to report: the status alone commits.
    exact ⟨rfl, rfl⟩
  · rw [Logged.value_pure, hjson, writeJson_eq]
    exact ⟨rfl, rfl⟩

theorem write_commits (hjson : w.marshal = writeJson layout) (hbuilds : w.Builds) :
    (w.write context state outcome).value.1.dataSent = true ∧
      (w.write context state outcome).value.2 = .ok (.ok ()) := by
  cases hsent : state.sink.dataSent with
  | true =>
    rw [write_of_dataSent hsent]
    exact ⟨hsent, rfl⟩
  | false =>
    obtain ⟨built, hbuilt⟩ := hbuilds context state
    rw [write_value hsent hbuilt]
    exact ⟨(render_commits hjson).1, congrArg Except.ok (render_commits hjson).2⟩

end RenderingWriter

/-- A writer that marshals to JSON; its other steps may be any that return. -/
structure JsonWriter extends RenderingWriter where
  layout : Json.Layout
  marshal_eq : marshal = writeJson layout
  builds : toRenderingWriter.Builds

/-- A call of a writer, short of the sink that it is made on. -/
inductive WriteCall where
  | write (w : JsonWriter) (context : RequestContext) (state : ProcessState) (outcome : Outcome)
  | writeAbnormal (w : JsonWriter) (context : RequestContext) (state : ProcessState)

namespace WriteCall

variable {call : WriteCall} {calls : List WriteCall} {sink : Sink}

/-- Makes a call on a sink; gives what the writer does. -/
def on (sink : Sink) : WriteCall → Sink × Except Panic (Except WriteError Unit)
  | write w context state outcome => (w.write context { state with sink := sink } outcome).value
  | writeAbnormal w context state => (w.writeAbnormal context { state with sink := sink }).value

/-- Makes calls one after another on a sink; gives what becomes of each. -/
def answers : List WriteCall → Sink → List (Sink × Except Panic (Except WriteError Unit))
  | [], _ => []
  | call :: rest, sink => call.on sink :: answers rest (call.on sink).1

theorem on_commits : (call.on sink).1.dataSent = true ∧ (call.on sink).2 = .ok (.ok ()) := by
  cases call with
  | write w context state outcome => exact RenderingWriter.write_commits w.marshal_eq w.builds
  | writeAbnormal w context state => exact RenderingWriter.write_commits w.marshal_eq w.builds

theorem on_of_dataSent (hsent : sink.dataSent = true) : call.on sink = (sink, .ok (.ok ())) := by
  cases call with
  | write w context state outcome => exact RenderingWriter.write_of_dataSent hsent
  | writeAbnormal w context state => exact RenderingWriter.write_of_dataSent hsent

theorem answers_of_dataSent (hsent : sink.dataSent = true) :
    ∀ answer ∈ answers calls sink, answer = (sink, .ok (.ok ())) := by
  induction calls with
  | nil =>
    intro answer hanswer
    cases hanswer
  | cons call rest ih =>
    rw [answers, on_of_dataSent hsent]
    exact List.forall_mem_cons.2 ⟨rfl, ih⟩

/-- Calls of writers of JSON on one unused sink all succeed, and all leave the sink as the first
    of them does.  Whatever is done to a sink otherwise, it has sent data when it has a status,
    and has a status when it has a body; its status stays, its body only grows at its end, and
    setting a header replaces the entry of that name or nothing. -/
theorem writes_commit_once (call : WriteCall) (rest : List WriteCall)
    (done later : List Sink.Operation) (name value : String) :
    let first := call.on .empty
    let s := Sink.empty.run done
    let set := s.setHeader name value
    (first.1.dataSent = true ∧
      ∀ answer ∈ answers (call :: rest) .empty, answer = (first.1, .ok (.ok ()))) ∧
    (s.dataSent = true ↔ s.status.isSome = true) ∧
    (s.body ≠ [] → s.dataSent = true) ∧
    (∀ status, s.status = some status → (s.run later).status = some status) ∧
    s.body <+: (s.run later).body ∧
    ((set.1 = true ∧ set.2 = { s with headers := set.2.headers } ∧
        set.2.headers.filter (·.1 = asciiLower name) = [(asciiLower name, value)] ∧
        set.2.headers.filter (·.1 ≠ asciiLower name) =
          s.headers.filter (·.1 ≠ asciiLower name)) ∨
      (set.1 = false ∧ set.2 = s)) := by
  intro first s set
  have hs : s.Reachable := Sink.Reachable.empty.run done
  obtain ⟨hsent, hok⟩ : first.1.dataSent = true ∧ first.2 = .ok (.ok ()) := on_commits
  have hfirst : first = (first.1, .ok (.ok ())) := Prod.ext rfl hok
  have hrest : ∀ answer ∈ answers rest first.1, answer = (first.1, .ok (.ok ())) :=
    answers_of_dataSent hsent
  have hbody : s.body ≠ [] → s.dataSent = true := by
    intro hbody
    by_cases hsent : s.dataSent = true
    · exact hsent
    · exact absurd (hs.body_eq_nil (Bool.eq_false_iff.2 hsent)) hbody
  refine ⟨⟨hsent, List.forall_mem_cons.2 ⟨hfirst, hrest⟩⟩, ?_, hbody, ?_, ?_, ?_⟩
  · rw [hs.dataSent_eq]
  · intro status hstatus
    exact Sink.run_status hstatus later
  · exact Sink.body_run s later
  · exact hs.setHeader_cases name value

end WriteCall

end Endpoint
