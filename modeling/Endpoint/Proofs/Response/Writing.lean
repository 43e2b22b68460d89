import Endpoint.Response.Writer

/-!
# When a writer renders

A writer renders a response to a sink on which nothing was sent, with the common headers that its
builder gives.  It leaves a committed sink alone, and also one for which the builder panics.
-/

namespace Endpoint

namespace RenderingWriter

variable {w : RenderingWriter} {context : RequestContext} {state : ProcessState}
  {outcome : Outcome} {built : Option (Entries String)} {panic : Panic}
  {common : Option (RequestContext → ProcessState → Entries String)}

/-- A writer with a builder of common headers that always returns, or with none. -/
def withCommon (w : RenderingWriter)
    (common : Option (RequestContext → ProcessState → Entries String)) : RenderingWriter :=
  { w with commonHeaders := common.map fun build context state => .ok (build context state) }

/-- The builder of common headers never panics. -/
def Builds (w : RenderingWriter) : Prop :=
  ∀ context state, ∃ built, w.common context state = .ok built

theorem common_withCommon (w : RenderingWriter)
    (common : Option (RequestContext → ProcessState → Entries String)) (context : RequestContext)
    (state : ProcessState) :
    (w.withCommon common).common context state =
      .ok (common.map fun build => build context state) := by
  cases common <;> rfl

theorem builds_of_none (hnone : w.commonHeaders = none) : w.Builds := by
  intro context state
  rw [RenderingWriter.common, hnone]
  exact ⟨none, rfl⟩

/-- A sink that is committed is left alone. -/
theorem write_of_dataSent (hsent : state.sink.dataSent = true) :
    (w.write context state outcome).value = (state.sink, .ok (.ok ())) := by
  rw [write, if_pos hsent]
  rfl

theorem write_value (hunsent : state.sink.dataSent = false)
    (hbuilt : w.common context state = .ok built) :
    (w.write context state outcome).value =
      ((w.render context (w.responseFor state outcome) built state.sink).value.1,
        .ok (w.render context (w.responseFor state outcome) built state.sink).value.2) := by
  rw [write, if_neg (Bool.eq_false_iff.1 hunsent), hbuilt]
  rfl

end RenderingWriter

end Endpoint
