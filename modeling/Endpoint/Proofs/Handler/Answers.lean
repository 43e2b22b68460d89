import Endpoint.Handler.Serve

/-!
# What the hooks of a handler answer

All that a stage of a request may do is said here in terms of what the hooks of the handler
answer, without a look at the stage itself: when it ends the request (`Stops`, `Rejects`,
`Panics`), which phases it enters and what it measures (`entered`, `measured`), what it makes of
request, errors and response if the request goes on (`Gives`), and with what a request is left
that it rejects (`Leaves`).  The step of a request from one stage to the next is `Passes`.
-/

namespace Endpoint

namespace Handler

variable {β : Type}

/-- The phases that a handler has a hook or a setting for.  It always processes and writes. -/
def Uses (h : Handler β) : Phase → Prop
  | .identify => h.identifier.isSome
  | .access => h.accessChecker.isSome
  | .unmarshalTarget => h.logic.unmarshalTarget.isSome
  | .unmarshal => h.reader.isSome
  | .pathBind => h.path.isSome
  | .queryBind => h.query.isSome
  | .preValidate => h.logic.preValidate.isSome
  | .validate => h.subjectCheck.isSome ∨ h.logic.validate.isSome
  | .process => True
  | .postProcess => h.logic.postProcess.isSome
  | .write => True

/-- The phases entered at a stage. -/
def entered (h : Handler β) (p : Progress β) : Stage → List Phase
  | .identify => if h.identifier.isSome then [.identify] else []
  | .authenticate => []
  | .access => if h.accessChecker.isSome then [.access] else []
  | .makeTarget => if h.logic.unmarshalTarget.isSome then [.unmarshalTarget] else []
  | .unmarshal => if h.reader.isSome && p.request.body.isSome then [.unmarshal] else []
  | .bindPath => if h.path.isSome then [.pathBind] else []
  | .bindQuery => if h.query.isSome then [.queryBind] else []
  | .preValidate => if h.logic.preValidate.isSome then [.preValidate] else []
  | .beginValidate => if h.validates p then [.validate] else []
  | .checkRules => []
  | .checkLogic => []
  | .rejectInvalid =>
    if !p.errors.isEmpty && h.logic.postProcess.isSome then [.postProcess] else []
  | .process => [.process]
  | .postProcess => if h.logic.postProcess.isSome then [.postProcess] else []

/-- The logic panics while it finishes the response. -/
def FinishPanics (h : Handler β) (context : RequestContext) (p : Progress β) : Prop :=
  ∃ hook panic, h.logic.postProcess = some hook ∧
    (hook context h.name p.request p.response).value = .error panic

/-- A hook panics at a stage. -/
def Panics (h : Handler β) (context : RequestContext) (p : Progress β) : Stage → Prop
  | .identify =>
    ∃ f panic, h.identifier = some f ∧ (f context p.request.head).value = .error panic
  | .authenticate => False
  | .access => ∃ f panic, h.accessChecker = some f ∧
      (f context p.request.head p.request.identity).value = .error panic
  | .makeTarget => ∃ f panic, h.logic.unmarshalTarget = some f ∧ (f context).value = .error panic
  | .unmarshal => ∃ f target panic, h.reader = some f ∧ p.request.body = some target ∧
      (f context p.request.rawBody target).value = .error panic
  | .bindPath => ∃ path bind body panic, h.path = some path ∧ path.bind = some bind ∧
      p.request.body = some body ∧
      (bind (PathBinding.params path p.request.head.uri.path) body).value = .error panic
  | .bindQuery => ∃ bind body panic, h.query = some bind ∧ p.request.body = some body ∧
      (bind (Params.ofQuery (p.request.head.uri.query.getD "")) body).value = .error panic
  | .preValidate => ∃ f panic, h.logic.preValidate = some f ∧
      (f context p.request p.errors).value.2 = .error panic
  | .beginValidate => False
  | .checkRules => ∃ f body panic, h.subjectCheck = some f ∧ p.request.body = some body ∧
      (f body p.errors).value = .error panic
  | .checkLogic => ∃ f panic, h.logic.validate = some f ∧
      (f context p.request p.errors).value = .error panic
  | .rejectInvalid => p.errors.errors ≠ [] ∧ h.FinishPanics context p
  | .process => ∃ panic, (h.logic.process context p.request p.response).value.2 = .error panic
  | .postProcess => h.FinishPanics context p

/-- A request is stopped at a stage before its validation: the caller is not authenticated or
    is denied access, the body cannot be read, there are faults in the path or in the query, or
    the logic does not let the request go on. -/
def Stops (h : Handler β) (context : RequestContext) (p : Progress β) : Stage → Prop
  | .authenticate => h.requireAuthentication = true ∧ p.request.identity.authenticated = false
  | .access => ∃ f, h.accessChecker = some f ∧
      (f context p.request.head p.request.identity).value = .ok false
  | .unmarshal => ∃ f target reason, h.reader = some f ∧ p.request.body = some target ∧
      (f context p.request.rawBody target).value = .ok (.error reason)
  | .bindPath => ∃ path bind body bound faults, h.path = some path ∧ path.bind = some bind ∧
      p.request.body = some body ∧
      (bind (PathBinding.params path p.request.head.uri.path) body).value = .ok (bound, faults) ∧
      faults ≠ []
  | .bindQuery => ∃ bind body bound faults, h.query = some bind ∧ p.request.body = some body ∧
      (bind (Params.ofQuery (p.request.head.uri.query.getD "")) body).value =
        .ok (bound, faults) ∧ faults ≠ []
  | .preValidate => ∃ f errors, h.logic.preValidate = some f ∧
      (f context p.request p.errors).value.2 = .ok (false, errors)
  | _ => False

/-- A request is rejected at a stage: before its validation, or because errors were found by
    then and the logic has finished the response. -/
def Rejects (h : Handler β) (context : RequestContext) (p : Progress β) (stage : Stage) : Prop :=
  h.Stops context p stage ∨
    (stage = .rejectInvalid ∧ p.errors.errors ≠ [] ∧ ¬ h.FinishPanics context p)

/-- What a stage measures of a request. -/
def measured (h : Handler β) (p : Progress β) : Stage → List Measurement
  | .rejectInvalid => if p.errors.isEmpty then [] else [.validationFailed h.name]
  | _ => []

/-- The faults that are found at a stage: the body cannot be read, or some parameters of the path
    or of the query cannot be bound. -/
def FindsFaults (h : Handler β) (context : RequestContext) (p : Progress β) (faults : List Fault) :
    Stage → Prop
  | .unmarshal => ∃ reader target reason, h.reader = some reader ∧ p.request.body = some target ∧
      (reader context p.request.rawBody target).value = .ok (.error reason) ∧
      faults = [Fault.unmarshal (h.book.messageAndCode .unreadableRequest []).value.1
        (h.book.messageAndCode .unreadableRequest []).value.2]
  | .bindPath => ∃ path bind body bound, h.path = some path ∧ path.bind = some bind ∧
      p.request.body = some body ∧
      (bind (PathBinding.params path p.request.head.uri.path) body).value = .ok (bound, faults) ∧
      faults ≠ []
  | .bindQuery => ∃ bind body bound, h.query = some bind ∧ p.request.body = some body ∧
      (bind (Params.ofQuery (p.request.head.uri.query.getD "")) body).value =
        .ok (bound, faults) ∧ faults ≠ []
  | _ => False

/-- Parameters are bound to a body without faults, if there is a binder and a body. -/
def Binds (bind : Option (ParamBinder β)) (params : Params) (body bound : Option β) : Prop :=
  match bind, body with
  | some bind, some value => ∃ value', (bind params value).value = .ok (value', []) ∧
      bound = some value'
  | _, _ => bound = body

/-- The logic finishes a response of a request, if it has a hook for that. -/
def Finishes (h : Handler β) (context : RequestContext) (request : Request β)
    (made finished : Response) : Prop :=
  match h.logic.postProcess with
  | none => finished = made
  | some hook => (hook context h.name request made).value = .ok finished

/-- The request that the hooks leave at a stage from which it goes on. -/
def GivesRequest (h : Handler β) (context : RequestContext) (p : Progress β) :
    Stage → Request β → Prop
  | .identify, request =>
    match h.identifier with
    | none => request = p.request
    | some f => ∃ identity, (f context p.request.head).value = .ok identity ∧
        request = { p.request with identity := identity }
  | .makeTarget, request =>
    match h.logic.unmarshalTarget with
    | none => request = p.request
    | some f => ∃ body, (f context).value = .ok body ∧
        request = { p.request with body := some body }
  | .unmarshal, request =>
    match h.reader, p.request.body with
    | some f, some target => ∃ body,
        (f context p.request.rawBody target).value = .ok (.ok body) ∧
        request = { p.request with body := some body }
    | _, _ => request = p.request
  | .bindPath, request =>
    match h.path with
    | none => request = p.request
    | some path => ∃ bound,
        Binds path.bind (PathBinding.params path p.request.head.uri.path) p.request.body bound ∧
        request = { p.request with
          pathParams := PathBinding.params path p.request.head.uri.path, body := bound }
  | .bindQuery, request => ∃ bound,
      Binds h.query (Params.ofQuery (p.request.head.uri.query.getD "")) p.request.body bound ∧
      request = { p.request with
        queryParams := Params.ofQuery (p.request.head.uri.query.getD ""), body := bound }
  | .preValidate, request =>
    match h.logic.preValidate with
    | none => request = p.request
    | some f => (f context p.request p.errors).value.1 = request
  | .process, request => (h.logic.process context p.request p.response).value.1 = request
  | _, request => request = p.request

/-- The errors that the hooks leave at a stage from which a request goes on. -/
def GivesErrors (h : Handler β) (context : RequestContext) (p : Progress β) :
    Stage → ErrorRecord → Prop
  | .preValidate, errors =>
    match h.logic.preValidate with
    | none => errors = p.errors
    | some f => (f context p.request p.errors).value.2 = .ok (true, errors)
  | .checkRules, errors =>
    match h.subjectCheck, p.request.body with
    | some f, some body => (f body p.errors).value = .ok errors
    | _, _ => errors = p.errors
  | .checkLogic, errors =>
    match h.logic.validate with
    | none => errors = p.errors
    | some f => (f context p.request p.errors).value = .ok errors
  | _, errors => errors = p.errors

/-- The response that the hooks leave at a stage from which a request goes on. -/
def GivesResponse (h : Handler β) (context : RequestContext) (p : Progress β) :
    Stage → Response → Prop
  | .process, response => (h.logic.process context p.request p.response).value.2 = .ok response
  | .postProcess, response => h.Finishes context p.request p.response response
  | _, response => response = p.response

/-- The errors that a request is left with when it is rejected at a stage. -/
def LeavesErrors (h : Handler β) (context : RequestContext) (p : Progress β) :
    Stage → ErrorRecord → Prop
  | .authenticate, errors => errors = (ErrorRecord.empty h.catalogue).add h.unauthenticatedError
  | .access, errors =>
    errors = (ErrorRecord.empty h.catalogue).add (h.book.httpError Status.forbidden)
  | .preValidate, errors => ∃ f, h.logic.preValidate = some f ∧
      (f context p.request p.errors).value.2 = .ok (false, errors)
  | .rejectInvalid, errors => errors = p.errors
  | stage, errors => ∃ faults, h.FindsFaults context p faults stage ∧
      errors = (ErrorRecord.empty h.catalogue).addAll (faults.map Fault.toError)

/-- The response that a request is left with when it is rejected at a stage. -/
def LeavesResponse (h : Handler β) (context : RequestContext) (p : Progress β) :
    Stage → Response → Prop
  | .rejectInvalid, response => h.Finishes context p.request p.response response
  | _, response => response = p.response

/-- What becomes of a request that goes on from a stage. -/
structure Gives (h : Handler β) (context : RequestContext) (stage : Stage) (p p' : Progress β) :
    Prop where
  request : h.GivesRequest context p stage p'.request
  errors : h.GivesErrors context p stage p'.errors
  response : h.GivesResponse context p stage p'.response

/-- What becomes of a request that is rejected at a stage. -/
structure Leaves (h : Handler β) (context : RequestContext) (stage : Stage) (p p' : Progress β) :
    Prop where
  errors : h.LeavesErrors context p stage p'.errors
  response : h.LeavesResponse context p stage p'.response

/-- A request goes on from a stage. -/
structure Passes (h : Handler β) (context : RequestContext) (stage : Stage) (p p' : Progress β) :
    Prop extends h.Gives context stage p p' where
  not_rejects : ¬ h.Rejects context p stage
  not_panics : ¬ h.Panics context p stage
  trace : p'.trace = p.trace ++ h.entered p stage
  measurements : p'.measurements = p.measurements ++ h.measured p stage

end Handler

end Endpoint
