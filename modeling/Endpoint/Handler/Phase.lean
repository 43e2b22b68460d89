import Endpoint.Handler.Basic
import Endpoint.Telemetry.Measurement

/-!
# The phases of a request

A request goes through phases in a fixed order.  Each phase is a step on the progress made
so far, and may stop the request: because it is rejected with the errors recorded, or
because a hook panicked.  A phase that the handler has no use for does nothing.  Stages are
the steps in between as well: whether the caller is authenticated, and whether validation
has found errors.

The progress keeps a trace of the phases that were entered.
-/

namespace Endpoint

/-- The phases of a request in their order. -/
inductive Phase where
  | identify
  | access
  | unmarshalTarget
  | unmarshal
  | pathBind
  | queryBind
  | preValidate
  | validate
  | process
  | postProcess
  | write
  deriving DecidableEq, Repr

/-- What is done with a request before a response is written: the phases, and the checks
    between them. -/
inductive Stage where
  | identify
  | authenticate
  | access
  | makeTarget
  | unmarshal
  | bindPath
  | bindQuery
  | preValidate
  | beginValidate
  | checkRules
  | checkLogic
  | rejectInvalid
  | process
  | postProcess
  deriving DecidableEq, Repr

/-- The stages in their order. -/
def Stage.all : List Stage :=
  [identify, authenticate, access, makeTarget, unmarshal, bindPath, bindQuery, preValidate,
    beginValidate, checkRules, checkLogic, rejectInvalid, process, postProcess]

/-- Why a request went through no further phases. -/
inductive Stop where
  /-- with the errors recorded -/
  | rejected
  | panicked (p : Panic)
  deriving DecidableEq, Repr

/-- How far a request has come. -/
structure Progress (β : Type) where
  request : Request β
  response : Response
  errors : ErrorRecord
  trace : List Phase
  measurements : List Measurement

namespace Progress

variable {β : Type}

/-- Notes that a phase is entered. -/
def enter (p : Progress β) (phase : Phase) : Progress β := { p with trace := p.trace ++ [phase] }

def setBody (p : Progress β) (body : β) : Progress β :=
  { p with request := { p.request with body := some body } }

end Progress

/-- One step on the way of a request. -/
abbrev PhaseStep (β : Type) := Progress β → Logged (Progress β × Option Stop)

namespace Handler

variable {β : Type}

/-- Goes on to the next phase. -/
def proceed (p : Progress β) : Logged (Progress β × Option Stop) := pure (p, none)

/-- Rejects a request with errors. -/
def reject (p : Progress β) (errors : ErrorRecord) : Logged (Progress β × Option Stop) :=
  pure ({ p with errors := errors }, some .rejected)

/-- Stops a request in which a hook panicked. -/
def stopPanicked (p : Progress β) (panic : Panic) : Logged (Progress β × Option Stop) :=
  pure (p, some (.panicked panic))

/-- Rejects a request with a single error. -/
def rejectWith (h : Handler β) (p : Progress β) (e : ServiceError) :
    Logged (Progress β × Option Stop) :=
  reject p ((ErrorRecord.empty h.catalogue).add e)

/-- Finds out who the caller is. -/
def identify (h : Handler β) (context : RequestContext) : PhaseStep β := fun p =>
  match h.identifier with
  | none => proceed p
  | some identifier => do
    let p := p.enter .identify
    match ← identifier context p.request.head with
    | .error panic => stopPanicked p panic
    | .ok identity => proceed { p with request := { p.request with identity := identity } }

/-- Rejects callers who are not authenticated, where that is required. -/
def authenticate (h : Handler β) : PhaseStep β := fun p =>
  if h.requireAuthentication && !p.request.identity.authenticated then do
    h.logEvent .debug "Caller is not authenticated" []
    h.rejectWith p h.unauthenticatedError
  else proceed p

/-- Rejects callers who are denied access. -/
def access (h : Handler β) (context : RequestContext) : PhaseStep β := fun p =>
  match h.accessChecker with
  | none => proceed p
  | some checker => do
    let p := p.enter .access
    match ← checker context p.request.head p.request.identity with
    | .error panic => stopPanicked p panic
    | .ok true => proceed p
    | .ok false => do
      h.logEvent .debug "Access denied" [("user", .text p.request.identity.user)]
      h.rejectWith p (h.book.httpError Status.forbidden)

/-- Makes the value into which the body is read. -/
def makeTarget (h : Handler β) (context : RequestContext) : PhaseStep β := fun p =>
  match h.logic.unmarshalTarget with
  | none => proceed p
  | some make => do
    let p := p.enter .unmarshalTarget
    match ← make context with
    | .error panic => stopPanicked p panic
    | .ok body => proceed (p.setBody body)

/-- Logs faults one after another. -/
def logFaults (h : Handler β) : List Fault → Logged Unit
  | [] => pure ()
  | f :: rest => do
    h.logEvent .debug "Framework error" [("phase", .text f.phase.name),
      ("field", .text (f.clientField.getD "")), ("code", .text f.code)]
    h.logFaults rest

/-- Rejects a request in which there are faults, with one error for each. -/
def rejectFaults (h : Handler β) (p : Progress β) (faults : List Fault) :
    Logged (Progress β × Option Stop) :=
  if faults.isEmpty then proceed p
  else do
    h.logFaults faults
    reject p ((ErrorRecord.empty h.catalogue).addAll (faults.map Fault.toError))

/-- Reads the body. -/
def unmarshal (h : Handler β) (context : RequestContext) : PhaseStep β := fun p =>
  match h.reader, p.request.body with
  | some reader, some target => do
    let p := p.enter .unmarshal
    match ← reader context p.request.rawBody target with
    | .error panic => stopPanicked p panic
    | .ok (.ok body) => proceed (p.setBody body)
    | .ok (.error reason) => do
      h.logEvent .debug "Unable to parse request body" [("error", .text reason)]
      let (message, code) ← h.book.messageAndCode .unreadableRequest []
      h.rejectFaults p [Fault.unmarshal message code]
  | _, _ => proceed p

/-- The parameters captured from a path; a group without part in the match is empty. -/
def PathBinding.params (b : PathBinding β) (path : String) : Params :=
  match b.program.captures? path with
  | some groups => .ofPath b.targets (groups.map fun g => g.getD "")
  | none => .empty

/-- Binds parameters to the body; faults reject the request. -/
def bindParams (h : Handler β) (bind : ParamBinder β) (params : Params) (body : β) :
    PhaseStep β := fun p => do
  match ← bind params body with
  | .error panic => stopPanicked p panic
  | .ok (body, faults) => h.rejectFaults (p.setBody body) faults

/-- Binds the texts captured from the path. -/
def bindPath (h : Handler β) : PhaseStep β := fun p =>
  match h.path with
  | none => proceed p
  | some path =>
    let params := PathBinding.params path p.request.head.uri.path
    let p := { p.enter .pathBind with request := { p.request with pathParams := params } }
    match path.bind, p.request.body with
    | some bind, some body => h.bindParams bind params body p
    | _, _ => proceed p

/-- Reads the query and binds its parameters. -/
def bindQuery (h : Handler β) : PhaseStep β := fun p =>
  let params := Params.ofQuery (p.request.head.uri.query.getD "")
  let p := { p with request := { p.request with queryParams := params } }
  match h.query with
  | none => proceed p
  | some bind =>
    let p := p.enter .queryBind
    match p.request.body with
    | none => proceed p
    | some body => h.bindParams bind params body p

/-- Lets the logic look at the request before it is validated. -/
def preValidate (h : Handler β) (context : RequestContext) : PhaseStep β := fun p =>
  match h.logic.preValidate with
  | none => proceed p
  | some hook => do
    let p := p.enter .preValidate
    let (request, result) ← hook context p.request p.errors
    let p := { p with request := request }
    match result with
    | .error panic => stopPanicked p panic
    | .ok (true, errors) => proceed { p with errors := errors }
    | .ok (false, errors) => do
      if errors.isEmpty then
        h.logEvent .warn "Pre-validation stopped processing without recording an error" []
      else h.logEvent .debug "Pre-validation stopped processing" []
      reject p errors

/-- Lets the logic finish the response. -/
def postProcess (h : Handler β) (context : RequestContext) : PhaseStep β := fun p =>
  match h.logic.postProcess with
  | none => proceed p
  | some hook => do
    let p := p.enter .postProcess
    match ← hook context h.name p.request p.response with
    | .error panic => stopPanicked p panic
    | .ok response => proceed { p with response := response }

/-- Whether there is anything to validate a request with. -/
def validates (h : Handler β) (p : Progress β) : Bool :=
  (h.subjectCheck.isSome && p.request.body.isSome) || h.logic.validate.isSome

/-- Enters the validation of the request, which consists of rules and the logic's own. -/
def beginValidate (h : Handler β) : PhaseStep β := fun p =>
  proceed (if h.validates p then p.enter .validate else p)

/-- Runs the rules on the body, if there are rules and a body. -/
def checkRules (h : Handler β) : PhaseStep β := fun p =>
  match h.subjectCheck, p.request.body with
  | some check, some body => do
    match ← check body p.errors with
    | .error panic => stopPanicked p panic
    | .ok errors => proceed { p with errors := errors }
  | _, _ => proceed p

/-- Runs the validation of the logic. -/
def checkLogic (h : Handler β) (context : RequestContext) : PhaseStep β := fun p =>
  match h.logic.validate with
  | none => proceed p
  | some hook => do
    match ← hook context p.request p.errors with
    | .error panic => stopPanicked p panic
    | .ok errors => proceed { p with errors := errors }

/-- Rejects a request that has errors, after the logic has finished the response. -/
def rejectInvalid (h : Handler β) (context : RequestContext) : PhaseStep β := fun p =>
  if p.errors.isEmpty then proceed p
  else do
    h.logEvent .debug "Request failed validation" [("errors", .number p.errors.errors.length)]
    let p := { p with measurements := p.measurements ++ [.validationFailed h.name] }
    match ← h.postProcess context p with
    | (p, none) => pure (p, some .rejected)
    | (p, some stop) => pure (p, some stop)

/-- Lets the logic process the request. -/
def process (h : Handler β) (context : RequestContext) : PhaseStep β := fun p => do
  let p := p.enter .process
  let (request, result) ← h.logic.process context p.request p.response
  let p := { p with request := request }
  match result with
  | .error panic => stopPanicked p panic
  | .ok response => proceed { p with response := response }

/-- What is done at a stage of a request. -/
def stage (h : Handler β) (context : RequestContext) : Stage → PhaseStep β
  | .identify => h.identify context
  | .authenticate => h.authenticate
  | .access => h.access context
  | .makeTarget => h.makeTarget context
  | .unmarshal => h.unmarshal context
  | .bindPath => h.bindPath
  | .bindQuery => h.bindQuery
  | .preValidate => h.preValidate context
  | .beginValidate => h.beginValidate
  | .checkRules => h.checkRules
  | .checkLogic => h.checkLogic context
  | .rejectInvalid => h.rejectInvalid context
  | .process => h.process context
  | .postProcess => h.postProcess context

/-- Takes two steps, the second unless the first stops the request. -/
def andThen (first second : PhaseStep β) : PhaseStep β := fun p => do
  match ← first p with
  | (p, none) => second p
  | (p, some stop) => pure (p, some stop)

/-- Goes through stages up to the first that stops the request. -/
def runStages (h : Handler β) (context : RequestContext) : List Stage → PhaseStep β
  | [] => proceed
  | stage :: rest => andThen (h.stage context stage) (h.runStages context rest)

end Handler

end Endpoint
