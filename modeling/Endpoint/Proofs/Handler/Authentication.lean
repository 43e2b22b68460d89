import Endpoint.Proofs.Error.Catalogue
import Endpoint.Proofs.Handler.Reporting

/-!
# Callers who are not authenticated

A handler that requires authentication refuses other callers before anything else is done for
them.  The error they are told is up to the application, which may define one for the code of
this case, and with the error the status is as well: it is 401 for an error of the category
Security, which the error of the handler itself belongs to.
-/

namespace Endpoint

/-- The status that an error of a category calls for if its code names none. -/
def Category.plainStatus : Category → Status
  | unexpected | http => Status.serverError
  | security => Status.unauthorized
  | client => Status.badRequest
  | logic => Status.conflict

theorem Category.plainStatus_eq_unauthorized_iff {c : Category} :
    c.plainStatus = Status.unauthorized ↔ c = .security := by
  cases c <;> decide

/-- An error that is reported alone, under a code that names no status. -/
theorem ErrorRecord.callsFor_plainStatus {r : ErrorRecord} {e : ServiceError}
    (hr : r.errors = [e]) (hcode : ∀ s : Status, ¬ s.NamedBy e.code) :
    r.CallsFor e.category e.category.plainStatus := by
  cases hcategory : e.category with
  | unexpected => exact .unexpected
  | http => exact .unnamed ⟨[], [], hr, by simp⟩ hcategory hcode
  | security => exact .security
  | client => exact .client
  | logic => exact .logic

/-- The status of a response to a request that was rejected with one error. -/
theorem RenderingWriter.errorResponse_plainStatus {state : ProcessState}
    {catalogue : Option Catalogue} {e : ServiceError} (hstatus : state.response.status = none)
    (heffective : state.effectiveErrors = (ErrorRecord.empty catalogue).add e)
    (hcode : ∀ s : Status, ¬ s.NamedBy e.code) :
    (errorResponse state).determineStatus.value = e.category.plainStatus := by
  have herrors : (errorResponse state).errors = (ErrorRecord.empty catalogue).add e := heffective
  have honly : ((ErrorRecord.empty catalogue).add e).errors = [e] := rfl
  rw [Response.determineStatus_value_iff]
  refine .ofCategory (c := e.category) hstatus ?_ ?_ ?_
  · rw [herrors]
    rfl
  · rw [herrors]
    refine .of_all (by simp [honly]) fun e' he' => ?_
    rw [List.mem_singleton.1 he']
  · rw [herrors]
    exact ErrorRecord.callsFor_plainStatus honly hcode

namespace Handler

variable {β : Type} {h : Handler β} {context : RequestContext} {p : Progress β}
  {head : RequestHead} {rawBody : List UInt8} {sink : Sink} {identity : Identity}
  {e : ServiceError}

/-- Who sends a request, as far as a handler can find out: nothing is known of a caller if it
    has no identifier. -/
def CallerIs (h : Handler β) (context : RequestContext) (head : RequestHead)
    (identity : Identity) : Prop :=
  match h.identifier with
  | none => identity = .unknown
  | some f => (f context head).value = .ok identity

/-- An error is defined for the case that a caller is not authenticated. -/
def DefinesRefusal (h : Handler β) (d : ErrorDefinition) : Prop :=
  ∃ c, h.catalogue = some c ∧ d ∈ c.definitions ∧ d.code = "UNAUTHENTICATED"

/-- The error that callers are told who are not authenticated: the one that is defined for the
    case, or that of the handler if none is. -/
inductive RefusesWith (h : Handler β) : ServiceError → Prop
  | defined {d : ErrorDefinition} : h.DefinesRefusal d → RefusesWith h d.toError
  | builtin : (∀ d, ¬ h.DefinesRefusal d) → RefusesWith h
      ⟨.security, "UNAUTHENTICATED", "Authentication is required to use this service", none⟩

theorem refusesWith_unauthenticatedError : h.RefusesWith h.unauthenticatedError := by
  unfold unauthenticatedError
  cases hcatalogue : h.catalogue with
  | none =>
    refine .builtin ?_
    rintro d ⟨c, hc, -⟩
    rw [hcatalogue] at hc
    cases hc
  | some c =>
    cases hfound : c.find? "UNAUTHENTICATED" with
    | some e =>
      obtain ⟨d, hd, hcode, rfl⟩ := Catalogue.find?_eq_some_iff.1 hfound
      simp only [Option.bind_some, hfound, Option.getD_some]
      exact .defined ⟨c, hcatalogue, hd, hcode⟩
    | none =>
      simp only [Option.bind_some, hfound, Option.getD_none]
      refine .builtin ?_
      rintro d ⟨c', hc', hd, hcode⟩
      obtain rfl := Option.some.inj (hcatalogue.symm.trans hc')
      exact Catalogue.find?_eq_none_iff.1 hfound d hd hcode

theorem RefusesWith.code (he : h.RefusesWith e) : e.code = "UNAUTHENTICATED" := by
  cases he with
  | defined hd => exact hd.choose_spec.2.2
  | builtin _ => rfl

theorem RefusesWith.field (he : h.RefusesWith e) : e.field = none := by
  cases he <;> rfl

/-- The code of this case is no integer, so it names no status. -/
theorem RefusesWith.not_namedBy (he : h.RefusesWith e) (s : Status) : ¬ s.NamedBy e.code := by
  rw [he.code, Status.NamedBy, show signedDigits? (trimText "UNAUTHENTICATED").toList = none by rfl]
  simp

theorem RefusesWith.security_of_none (he : h.RefusesWith e)
    (hnone : ∀ d, ¬ h.DefinesRefusal d) : e.category = .security := by
  cases he with
  | defined hd => exact absurd hd (hnone _)
  | builtin _ => rfl

/-- After it has been identified a request has the identity of its caller. -/
theorem CallerIs.identify_value (hcaller : h.CallerIs context p.request.head identity)
    (hunknown : p.request.identity = .unknown) :
    ∃ p', (h.stage context .identify p).value = (p', none) ∧ p'.request.identity = identity := by
  unfold CallerIs at hcaller
  rw [Handler.stage, identify]
  cases hf : h.identifier with
  | none =>
    simp only [hf] at hcaller
    exact ⟨p, rfl, hunknown.trans hcaller.symm⟩
  | some f =>
    simp only [hf] at hcaller
    simp only [Logged.value_bind, Progress.enter_request, hcaller]
    exact ⟨_, rfl, rfl⟩

/-- A request whose caller is not authenticated is rejected with one error. -/
theorem authenticate_value (hrequired : h.requireAuthentication = true)
    (hnot : p.request.identity.authenticated = false) :
    (h.stage context .authenticate p).value =
      ({ p with errors := (ErrorRecord.empty h.catalogue).add h.unauthenticatedError },
        some .rejected) := by
  rw [Handler.stage, authenticate, hrequired, hnot]
  rfl

/-- The run of a request whose caller is not authenticated. -/
theorem CallerIs.runStages_value (rawBody : List UInt8) (hrequired : h.requireAuthentication = true)
    (hcaller : h.CallerIs context head identity) (hnot : identity.authenticated = false) :
    ∃ p, (h.runStages context Stage.all (h.start head rawBody)).value = (p, some .rejected) ∧
      p.trace = (if h.identifier.isSome then [.identify] else []) ∧
      p.response = .empty h.catalogue ∧
      p.errors = (ErrorRecord.empty h.catalogue).add h.unauthenticatedError := by
  obtain ⟨q, hidentify, hidentity⟩ :=
    CallerIs.identify_value (p := h.start head rawBody) hcaller rfl
  have hq : h.Arrives context (h.start head rawBody) .authenticate q := .next .start hidentify
  have htrace : q.trace = h.entered (h.start head rawBody) .identify := trace_of_stage hidentify
  refine ⟨_, hq.run_of_stop (authenticate_value hrequired (hidentity ▸ hnot)), htrace, ?_, rfl⟩
  exact (passes_of_value hidentify).response

/-- A caller who is not authenticated is refused by a handler that requires it: after the
    identification no other phase is entered, and the writer is called with one error and
    nothing else.  The error is the one defined for this case, or that of the handler if none
    is, and its category decides about the status; that is 401 exactly for the category
    Security, so always if no error is defined for this case. -/
theorem serve_refuses_unauthenticated (h : Handler β) (book : MessageBook) (wrapping : Wrapping)
    (layout : Json.Layout) (defaults : Entries String)
    (common : Option (RequestContext → ProcessState → Entries String)) (context : RequestContext)
    (sink : Sink) (head : RequestHead) (rawBody : List UInt8) (nanoseconds : Nat)
    (identity : Identity) (hrequired : h.requireAuthentication = true)
    (hcaller : h.CallerIs (h.named context) head identity)
    (hnot : identity.authenticated = false) :
    let served := (h.serve context sink head rawBody nanoseconds).value
    served.trace = (if h.identifier.isSome then [.identify] else []) ++ [.write] ∧
    served.outcome = .error ∧
    ∃ refusal, h.RefusesWith refusal ∧
      (∃ state : ProcessState, state.sink = sink ∧ state.response = .empty h.catalogue ∧
        state.effectiveErrors = (ErrorRecord.empty h.catalogue).add refusal ∧
        (h.writer (h.named context) state .error).value = (served.sink, served.result)) ∧
      (h.writer = (RenderingWriter.jsonWith book wrapping layout defaults common).write →
        sink.Reachable → sink.dataSent = false →
        served.Reports book wrapping layout [refusal] ∧
        served.sink.status = some refusal.category.plainStatus ∧
        (served.sink.status = some Status.unauthorized ↔ refusal.category = .security) ∧
        ((∀ d, ¬ h.DefinesRefusal d) → served.sink.status = some Status.unauthorized)) := by
  intro served
  obtain ⟨p, hrun, htrace, hresponse, herrors⟩ := hcaller.runStages_value rawBody hrequired hnot
  have heffective : (h.stateOf p sink (some .rejected)).effectiveErrors =
      (ErrorRecord.empty h.catalogue).add h.unauthenticatedError := herrors
  have hserved := serve_sink_result h context sink head rawBody nanoseconds
  simp only [hrun] at hserved
  refine ⟨?_, ?_, h.unauthenticatedError, refusesWith_unauthenticatedError,
    ⟨h.stateOf p sink (some .rejected), stateOf_sink, hresponse, heffective, hserved.symm⟩, ?_⟩
  · rw [show served.trace = _ from serve_trace, finalTrace, hrun, htrace]
  · rw [show served.outcome = _ from serve_outcome, hrun]
    rfl
  · intro hwriter hsink hunsent
    obtain ⟨hreports, hstatus⟩ := serve_reports nanoseconds hwriter hsink hunsent hrun rfl
      (by rw [heffective]; exact List.cons_ne_nil _ _)
    rw [heffective] at hreports
    -- No status was set by then, so the category of the error decides.
    have hplain := RenderingWriter.errorResponse_plainStatus (congrArg Response.status hresponse)
      heffective refusesWith_unauthenticatedError.not_namedBy
    rw [hplain] at hstatus
    refine ⟨hreports, hstatus, ?_, ?_⟩
    · rw [hstatus, Option.some.injEq, Category.plainStatus_eq_unauthorized_iff]
    · intro hnone
      rw [hstatus, Option.some.injEq, Category.plainStatus_eq_unauthorized_iff]
      exact refusesWith_unauthenticatedError.security_of_none hnone

/-- A service for members, with errors that the application defines. -/
def membersOnly (catalogue : Option Catalogue) : HandlerSettings Unit :=
  { HandlerSettings.new "members"
      { process := fun _ request response => pure (request, .ok response)
        unmarshalTarget := none
        preValidate := none
        validate := none
        postProcess := none } with
    catalogue := catalogue
    identifier := some fun _ _ => pure (.ok ⟨false, false, "guest", []⟩)
    requireAuthentication := true }

/-- A guest is refused with status 401 if the application defines no errors. -/
theorem serve_refuses_unauthenticated_guest :
    let h := (membersOnly none).assemble none
    let context := RequestContext.new .nil
    let served := (h.serve context .empty ⟨"GET", ⟨"/", none⟩, []⟩ [] 0).value
    served.trace = [.identify, .write] ∧ served.sink.status = some Status.unauthorized ∧
      served.Reports .builtin .standard .compact
        [⟨.security, "UNAUTHENTICATED", "Authentication is required to use this service",
          none⟩] := by
  intro h context served
  have hnone : ∀ d, ¬ h.DefinesRefusal d := by
    rintro d ⟨c, hc, -⟩
    cases hc
  obtain ⟨htrace, -, refusal, hrefusal, -, hanswer⟩ := serve_refuses_unauthenticated h .builtin
    .standard .compact [] none context .empty ⟨"GET", ⟨"/", none⟩, []⟩ [] 0
    ⟨false, false, "guest", []⟩ rfl rfl rfl
  obtain ⟨hreports, -, -, hstatus⟩ := hanswer rfl .empty rfl
  refine ⟨htrace, hstatus hnone, ?_⟩
  cases hrefusal with
  | defined hd => exact absurd hd (hnone _)
  | builtin _ => exact hreports

/-- The errors of an application that takes a caller who has not signed in for a mistake of the
    client. -/
def signInFirst : Catalogue := ⟨[⟨.client, "UNAUTHENTICATED", "Sign in first"⟩], by simp⟩

/-- A guest is refused with status 400 and an error of the client if the application says so. -/
theorem serve_refuses_guest_as_client :
    let h := (membersOnly (some signInFirst)).assemble none
    let context := RequestContext.new .nil
    let head : RequestHead := ⟨"GET", ⟨"/", none⟩, []⟩
    let guest : Identity := ⟨false, false, "guest", []⟩
    let served := (h.serve context .empty head [] 0).value
    (membersOnly (some signInFirst)).build.value = .ok h ∧ h.requireAuthentication = true ∧
      h.CallerIs (h.named context) head guest ∧ guest.authenticated = false ∧
      served.sink.status = some Status.badRequest ∧
      served.sink.status ≠ some Status.unauthorized ∧
      served.sink.body = Utf8.encode ("\x7b\"errors\":\x7b\"general\":["
        ++ "\x7b\"code\":\"C-UNAUTHENTICATED\",\"message\":\"Sign in first\"\x7d]\x7d\x7d") := by
  refine ⟨rfl, rfl, rfl, rfl, ?_, ?_, ?_⟩
  · decide +kernel
  · decide +kernel
  · decide +kernel

end Handler

end Endpoint
