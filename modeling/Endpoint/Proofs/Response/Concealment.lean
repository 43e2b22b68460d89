import Endpoint.Response.Writer
import Mathlib.Data.List.Forall2

/-!
# What a response may depend on

Two states that are the same to the caller for an outcome give the same response.  What is
the same to the caller leaves out the messages of unexpected errors for every outcome, the
body for every outcome but a normal one, and all but a status for an abnormal one.
-/

namespace Endpoint

/-- Two errors that a caller cannot tell apart. -/
structure ServiceError.SameToCaller (e f : ServiceError) : Prop where
  category : e.category = f.category
  code : e.code = f.code
  field : e.field = f.field
  /-- the messages of unexpected errors may differ -/
  message : e.category ≠ .unexpected → e.message = f.message

/-- Two records of errors that a caller cannot tell apart. -/
structure ErrorRecord.SameToCaller (r t : ErrorRecord) : Prop where
  status : r.status = t.status
  errors : List.Forall₂ ServiceError.SameToCaller r.errors t.errors

/-- Two responses that a caller cannot tell apart. -/
structure Response.SameToCaller (a b : Response) : Prop where
  status : a.status = b.status
  headers : a.headers = b.headers
  body : a.body = b.body
  errors : a.errors.SameToCaller b.errors

/-- Two states that a caller cannot tell apart by the response for an outcome. -/
def ProcessState.SameToCaller (s t : ProcessState) : Outcome → Prop
  | .normal => s.response.SameToCaller t.response
  | .error => s.response.status = t.response.status ∧ s.response.headers = t.response.headers ∧
      s.effectiveErrors.SameToCaller t.effectiveErrors
  | .abnormal => s.status = t.status

theorem ServiceError.SameToCaller.refl (e : ServiceError) : e.SameToCaller e :=
  ⟨rfl, rfl, rfl, fun _ => rfl⟩

theorem ErrorRecord.SameToCaller.refl (r : ErrorRecord) : r.SameToCaller r :=
  ⟨rfl, List.forall₂_same.2 fun e _ => .refl e⟩

theorem Response.SameToCaller.refl (a : Response) : a.SameToCaller a :=
  ⟨rfl, rfl, rfl, .refl a.errors⟩

/-! ## What a caller does not learn -/

/-- An error with another message if it is unexpected. -/
def ServiceError.reword (f : String → String) (e : ServiceError) : ServiceError :=
  if e.category = .unexpected then { e with message := f e.message } else e

def ErrorRecord.reword (f : String → String) (r : ErrorRecord) : ErrorRecord :=
  { r with errors := r.errors.map (ServiceError.reword f) }

namespace ProcessState

/-- A state with other messages of its unexpected errors. -/
def reword (f : String → String) (s : ProcessState) : ProcessState :=
  { s with
    response := { s.response with errors := s.response.errors.reword f }
    serviceErrors := s.serviceErrors.map (ErrorRecord.reword f) }

/-- A state whose response has another body. -/
def withBody (body : Option Json) (s : ProcessState) : ProcessState :=
  { s with response := { s.response with body := body } }

/-- A state whose response has other errors. -/
def withErrors (errors : ErrorRecord) (s : ProcessState) : ProcessState :=
  { s with response := { s.response with errors := errors } }

end ProcessState

theorem ServiceError.reword_sameToCaller (f : String → String) (e : ServiceError) :
    (e.reword f).SameToCaller e := by
  rw [ServiceError.reword]
  split
  · rename_i he
    exact ⟨rfl, rfl, rfl, fun hne => absurd he hne⟩
  · exact .refl e

theorem ErrorRecord.reword_sameToCaller (f : String → String) (r : ErrorRecord) :
    (r.reword f).SameToCaller r where
  status := rfl
  errors := List.forall₂_map_left_iff.2
    (List.forall₂_same.2 fun e _ => ServiceError.reword_sameToCaller f e)

theorem ProcessState.reword_sameToCaller (f : String → String) (s : ProcessState)
    (outcome : Outcome) : (s.reword f).SameToCaller s outcome := by
  cases outcome with
  | normal => exact ⟨rfl, rfl, rfl, ErrorRecord.reword_sameToCaller f s.response.errors⟩
  | error =>
    refine ⟨rfl, rfl, ?_⟩
    rw [effectiveErrors, effectiveErrors, reword]
    cases s.serviceErrors with
    | none => exact ErrorRecord.reword_sameToCaller f s.response.errors
    | some r => exact ErrorRecord.reword_sameToCaller f r
  | abnormal => exact (rfl : s.status = s.status)

theorem ProcessState.withBody_sameToCaller (body : Option Json) (s : ProcessState)
    {outcome : Outcome} (houtcome : outcome ≠ .normal) :
    (s.withBody body).SameToCaller s outcome := by
  cases outcome with
  | normal => exact absurd rfl houtcome
  | error => exact ⟨rfl, rfl, .refl _⟩
  | abnormal => exact (rfl : s.status = s.status)

/-- The errors of the response do not matter when others are to be reported. -/
theorem ProcessState.withErrors_sameToCaller (errors : ErrorRecord) (s : ProcessState)
    {outcome : Outcome}
    (h : outcome = .abnormal ∨ (outcome = .error ∧ s.serviceErrors.isSome = true)) :
    (s.withErrors errors).SameToCaller s outcome := by
  rcases h with rfl | ⟨rfl, hsome⟩
  · exact (rfl : s.status = s.status)
  · obtain ⟨r, hr⟩ := Option.isSome_iff_exists.1 hsome
    refine ⟨rfl, rfl, ?_⟩
    rw [effectiveErrors, effectiveErrors, withErrors, hr]
    exact .refl r

/-! ## The status -/

section Status

variable {α β : Type} {R : α → β → Prop}

/-- What is found first in two lists of related values is related. -/
theorem rel_find? {as : List α} {bs : List β} {p : α → Bool} {q : β → Bool}
    (h : List.Forall₂ R as bs) (hpq : ∀ a b, R a b → p a = q b) :
    Option.Rel R (as.find? p) (bs.find? q) := by
  induction h with
  | nil => exact .none
  | @cons a b _ _ hab _ ih =>
    have hsame := hpq a b hab
    rw [List.find?_cons, List.find?_cons, hsame]
    cases q b with
    | true => exact .some hab
    | false => exact ih

theorem rel_findSome? {γ : Type} {f : γ → Option α} {g : γ → Option β} (cs : List γ)
    (h : ∀ c, Option.Rel R (f c) (g c)) : Option.Rel R (cs.findSome? f) (cs.findSome? g) := by
  induction cs with
  | nil => exact .none
  | cons c cs ih =>
    have hc := h c
    rw [List.findSome?_cons, List.findSome?_cons]
    cases hf : f c with
    | none =>
      cases hg : g c with
      | none => exact ih
      | some b =>
        rw [hf, hg] at hc
        cases hc
    | some a =>
      cases hg : g c with
      | none =>
        rw [hf, hg] at hc
        cases hc
      | some b =>
        rw [hf, hg] at hc
        exact hc

end Status

namespace ErrorRecord

variable {r t : ErrorRecord}

/-- The same kind of error decides. -/
theorem SameToCaller.decisive? (h : r.SameToCaller t) :
    Option.Rel ServiceError.SameToCaller r.decisive? t.decisive? := by
  refine rel_findSome? Category.all fun c => rel_find? h.errors ?_
  intro e f hef
  rw [hef.category]

/-- An error stands for its category by its code alone. -/
theorem statusOfError_eq {e f : ServiceError} (h : e.SameToCaller f) :
    statusOfError e = statusOfError f := by
  rw [statusOfError, statusOfError, h.category, h.code]

end ErrorRecord

theorem Response.SameToCaller.determineStatus {a b : Response} (h : a.SameToCaller b) :
    a.determineStatus = b.determineStatus := by
  rw [Response.determineStatus, Response.determineStatus, h.status, h.errors.status]
  have hdecisive := h.errors.decisive?
  cases ha : a.errors.decisive? with
  | none =>
    cases hb : b.errors.decisive? with
    | none => rfl
    | some f =>
      rw [ha, hb] at hdecisive
      cases hdecisive
  | some e =>
    cases hb : b.errors.decisive? with
    | none =>
      rw [ha, hb] at hdecisive
      cases hdecisive
    | some f =>
      rw [ha, hb, Option.rel_some_some] at hdecisive
      simp only [ErrorRecord.statusOfError_eq hdecisive]

/-! ## Concealing -/

namespace RenderingWriter

variable {general : String} {context context' : RequestContext}

theorem concealError_value_eq {e f : ServiceError} (h : e.SameToCaller f) :
    (concealError general context e).value = (concealError general context' f).value := by
  rw [concealError, concealError]
  by_cases he : e.category = .unexpected
  · have hf : f.category = .unexpected := h.category ▸ he
    rw [if_pos he, if_pos hf]
    simp only [Logged.value_bind, Logged.value_pure, h.category, h.code, h.field]
  · have hf : f.category ≠ .unexpected := h.category ▸ he
    rw [if_neg he, if_neg hf, Logged.value_pure, Logged.value_pure]
    cases e
    cases f
    simp only [ServiceError.mk.injEq]
    exact ⟨h.category, h.code, h.message he, h.field⟩

/-- Once concealed, errors that a caller cannot tell apart are equal. -/
theorem concealErrors_value_eq {es fs : List ServiceError}
    (h : List.Forall₂ ServiceError.SameToCaller es fs) :
    (concealErrors general context es).value = (concealErrors general context' fs).value := by
  induction h with
  | nil => rfl
  | @cons e f _ _ hef _ ih =>
    have hhead : (concealError general context e).value = (concealError general context' f).value :=
      concealError_value_eq hef
    simp only [concealErrors, Logged.value_bind, Logged.value_pure, hhead, ih]

theorem conceal_errors_eq {w : RenderingWriter} {r t : ErrorRecord} (h : r.SameToCaller t) :
    (w.conceal context r).value.errors = (w.conceal context' t).value.errors :=
  concealErrors_value_eq h.errors

/-! ## Writing -/

/-- A writer whose status and errors depend on no more than a caller may know. -/
structure Discreet (w : RenderingWriter) : Prop where
  status : ∀ a b, a.SameToCaller b → (w.statusOf a).value = (w.statusOf b).value
  format : ∀ r t, r.errors = t.errors → w.formatErrors r = w.formatErrors t

theorem json_discreet (book : MessageBook) (wrapping : Wrapping) (layout : Json.Layout)
    (defaults : Entries String) (common : Option HeaderBuilder) :
    { json book wrapping layout with
      defaultHeaders := defaults, commonHeaders := common }.Discreet where
  status _ _ h := by
    rw [json]
    exact congrArg Logged.value h.determineStatus
  format r t h := by
    cases r
    cases t
    obtain rfl := h
    rfl

variable {w : RenderingWriter} {sink : Sink}

/-- Setting headers depends on the headers and the sink alone. -/
theorem render_value_eq (hw : w.Discreet) {a b : Response} (h : a.SameToCaller b)
    {common : Option (Entries String)} :
    (w.render context a common sink).value = (w.render context' b common sink).value := by
  have hconcealed : (w.conceal context a.errors).value.errors =
      (w.conceal context' b.errors).value.errors := conceal_errors_eq h.errors
  have hempty : (w.conceal context a.errors).value.isEmpty =
      (w.conceal context' b.errors).value.isEmpty := by
    rw [ErrorRecord.isEmpty, ErrorRecord.isEmpty, hconcealed]
  have hformat := hw.format _ _ hconcealed
  simp only [render, Logged.value_bind, h.headers, h.body, hw.status a b h, hempty]
  split
  · rfl
  · rw [Logged.value_pure, Logged.value_pure, hformat]

/-- The responses that are written for states which a caller cannot tell apart are the same to
    the caller. -/
theorem responseFor_sameToCaller {s t : ProcessState} {outcome : Outcome}
    (h : s.SameToCaller t outcome) :
    (w.responseFor s outcome).SameToCaller (w.responseFor t outcome) := by
  cases outcome with
  | normal => exact h
  | error =>
    obtain ⟨hstatus, hheaders, herrors⟩ := h
    exact ⟨hstatus, hheaders, rfl, herrors⟩
  | abnormal =>
    have hstatus : s.status = t.status := h
    rw [responseFor, responseFor, hstatus]
    exact .refl _

theorem write_value_eq (hw : w.Discreet) {s t : ProcessState} {outcome : Outcome}
    (hsink : s.sink = t.sink)
    (hcommon : (w.commonHeaders.map fun build => build context s) =
      w.commonHeaders.map fun build => build context' t)
    (h : s.SameToCaller t outcome) :
    (w.write context s outcome).value = (w.write context' t outcome).value := by
  have hrender : ∀ common, (w.render context (w.responseFor s outcome) common t.sink).value =
      (w.render context' (w.responseFor t outcome) common t.sink).value :=
    fun common => render_value_eq hw (responseFor_sameToCaller h)
  have hbuilt : w.common context s = w.common context' t := by
    rw [common, common]
    cases hbuilder : w.commonHeaders with
    | none => rfl
    | some build =>
      rw [hbuilder, Option.map_some, Option.map_some, Option.some.injEq] at hcommon
      simp only [hcommon]
  rw [write, write, hsink, hbuilt]
  by_cases hsent : t.sink.dataSent = true
  · rw [if_pos hsent, if_pos hsent]
    simp only [Logged.value_bind, Logged.value_pure]
  · rw [if_neg hsent, if_neg hsent]
    split
    · rfl
    · simp only [Logged.value_bind, Logged.value_pure, hrender]

/-- A writer of JSON gives the same response for states that a caller cannot tell apart, as
    long as its builder of common headers gives the same for them.  So no caller learns the
    message of an unexpected error, the body of a response that ends in errors or abnormally, or
    the errors of a response when others are to be reported. -/
theorem json_write_reveals_only (book : MessageBook) (wrapping : Wrapping) (layout : Json.Layout)
    (defaults : Entries String) (common : Option HeaderBuilder) :
    let w := { json book wrapping layout with
      defaultHeaders := defaults, commonHeaders := common }
    let headersFor := fun context state => common.map fun build => build context state
    (∀ context context' s t outcome, s.sink = t.sink →
      headersFor context s = headersFor context' t → s.SameToCaller t outcome →
      (w.write context s outcome).value = (w.write context' t outcome).value) ∧
    (∀ context s outcome f, headersFor context (s.reword f) = headersFor context s →
      (w.write context (s.reword f) outcome).value = (w.write context s outcome).value) ∧
    (∀ context s outcome body, outcome ≠ .normal →
      headersFor context (s.withBody body) = headersFor context s →
      (w.write context (s.withBody body) outcome).value = (w.write context s outcome).value) ∧
    (∀ context s outcome errors,
      outcome = .abnormal ∨ (outcome = .error ∧ s.serviceErrors.isSome = true) →
      headersFor context (s.withErrors errors) = headersFor context s →
      (w.write context (s.withErrors errors) outcome).value =
        (w.write context s outcome).value) := by
  intro w headersFor
  have hw : w.Discreet := json_discreet book wrapping layout defaults common
  refine ⟨?_, ?_, ?_, ?_⟩
  · intro context context' s t outcome hsink hcommon hsame
    exact write_value_eq hw hsink hcommon hsame
  · intro context s outcome f hcommon
    exact write_value_eq hw rfl hcommon (s.reword_sameToCaller f outcome)
  · intro context s outcome body houtcome hcommon
    exact write_value_eq hw rfl hcommon (s.withBody_sameToCaller body houtcome)
  · intro context s outcome errors houtcome hcommon
    exact write_value_eq hw rfl hcommon (s.withErrors_sameToCaller errors houtcome)

end RenderingWriter

end Endpoint
