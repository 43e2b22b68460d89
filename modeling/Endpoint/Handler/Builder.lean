import Endpoint.Handler.Serve
import Endpoint.Rule.Validator

/-!
# Building handlers

A handler is built from settings, most of which may be left out.  What can be wrong with
them is found here: after a handler has been built, its bindings name bindable fields only,
and every path target has a capture group of its own.
-/

namespace Endpoint

/-- Why a handler cannot be built. -/
inductive HandlerError where
  | missingName
  | unknownField (field : String)
  | invalidPattern (pattern : String)
  | tooManyTargets (targets groups : Nat)
  | targetsWithoutPattern
  deriving DecidableEq, Repr

namespace HandlerError

/-- The name of the kind of an error. -/
def kind : HandlerError → String
  | missingName => "MissingName"
  | unknownField _ => "UnknownBindField"
  | invalidPattern _ => "InvalidPathPattern"
  | tooManyTargets _ _ => "TooManyPathTargets"
  | targetsWithoutPattern => "PathTargetsWithoutPattern"

def message : HandlerError → String
  | missingName => "handler name must not be empty"
  | unknownField field => "'" ++ field ++ "' is not a bindable field of the request body"
  | invalidPattern pattern => "invalid path pattern '" ++ pattern ++ "'"
  | tooManyTargets targets groups =>
    toString targets ++ " path targets but the pattern has " ++ toString groups ++ " capture groups"
  | targetsWithoutPattern => "path targets require a path pattern"

end HandlerError

/-- The settings of a handler. -/
structure HandlerSettings (β : Type) where
  name : String
  logic : Logic β
  writer : Option ResponseWriter
  reader : Option (Unmarshaller β)
  book : Option MessageBook
  catalogue : Option Catalogue
  identifier : Option (RequestContext → RequestHead → Logged (Except Panic Identity))
  accessChecker : Option (RequestContext → RequestHead → Identity → Logged (Except Panic Bool))
  requireAuthentication : Bool
  pathPattern : Option String
  pathTargets : List String
  queryTargets : List (String × String)
  autoBindQuery : Bool
  binding : Option (BodyBinding β)
  subjectCheck : Option (β → ErrorRecord → Logged (Except Panic ErrorRecord))

namespace HandlerSettings

variable {β : Type}

/-- Settings with everything left out but a name and the logic. -/
def new (name : String) (logic : Logic β) : HandlerSettings β :=
  { name := name, logic := logic, writer := none, reader := none, book := none, catalogue := none,
    identifier := none, accessChecker := none, requireAuthentication := false,
    pathPattern := none, pathTargets := [], queryTargets := [], autoBindQuery := false,
    binding := none, subjectCheck := none }

/-- Binds texts captured from the path to fields. -/
def bindPath (s : HandlerSettings β) (binding : BodyBinding β) (fields : List String) :
    HandlerSettings β :=
  { s with binding := some binding, pathTargets := fields }

/-- Binds query parameters to fields: pairs of a field and a parameter. -/
def bindQuery (s : HandlerSettings β) (binding : BodyBinding β) (targets : List (String × String)) :
    HandlerSettings β :=
  { s with binding := some binding, queryTargets := targets }

/-- Binds every query parameter to the field of its name, or does not. -/
def bindQueryByName (s : HandlerSettings β) (binding : BodyBinding β) (enabled : Bool) :
    HandlerSettings β :=
  { s with binding := some binding, autoBindQuery := enabled }

/-- Reads bodies from JSON. -/
def jsonBody (s : HandlerSettings β) (decoder : Decoder β) : HandlerSettings β :=
  { s with reader := some fun _ raw target => pure (.ok (Endpoint.jsonBody decoder raw target)) }

/-- Finds out who the caller is by a function of the head of the request. -/
def identifyBy (s : HandlerSettings β) (f : RequestHead → Logged Identity) : HandlerSettings β :=
  { s with identifier := some fun _ head => do pure (.ok (← f head)) }

/-- Lets those callers in for whom a test holds. -/
def grantAccess (s : HandlerSettings β) (test : Identity → Logged Bool) : HandlerSettings β :=
  { s with accessChecker := some fun _ _ identity => do pure (.ok (← test identity)) }

/-- The names of the fields that can be bound, none unless binding is asked for. -/
def bindableFields (s : HandlerSettings β) : List String :=
  (s.binding.map BodyBinding.fields).getD []

/-- Adds a target for a field from the parameter of its own name, unless it has a target. -/
def addTargetByName (targets : List (String × String)) (field : String) :
    List (String × String) :=
  if targets.any fun (f, _) => f == field then targets else targets ++ [(field, field)]

/-- The query targets in effect: those given, then one for every other bindable field if
    parameters are bound by name. -/
def effectiveQueryTargets (s : HandlerSettings β) : List (String × String) :=
  if s.autoBindQuery then s.bindableFields.foldl addTargetByName s.queryTargets
  else s.queryTargets

/-- The first target that is no bindable field. -/
def unknownTarget? (s : HandlerSettings β) : Option String :=
  (s.pathTargets ++ s.queryTargets.map Prod.fst).find? fun f => !s.bindableFields.contains f

/-- The wordings of faults in effect. -/
def effectiveBook (s : HandlerSettings β) : MessageBook := s.book.getD .builtin

/-- The binding of the path, if there is a pattern. -/
def pathBinding (s : HandlerSettings β) : Except HandlerError (Option (PathBinding β)) :=
  match s.pathPattern with
  | none => if s.pathTargets.isEmpty then .ok none else .error .targetsWithoutPattern
  | some pattern =>
    match Program.ofText? pattern with
    | none => .error (.invalidPattern pattern)
    | some program =>
      if program.groups < s.pathTargets.length then
        .error (.tooManyTargets s.pathTargets.length program.groups)
      else
        let bind := s.binding.map fun binding params body => do
          pure (.ok (← binding.bindPath s.effectiveBook params body))
        .ok (some ⟨pattern, program, s.pathTargets, if s.pathTargets.isEmpty then none else bind⟩)

/-- The binding of the query, if anything is bound. -/
def queryBinding (s : HandlerSettings β) : Option (ParamBinder β) :=
  match s.binding with
  | some binding =>
    if s.effectiveQueryTargets.isEmpty then none
    else some fun params body => do
      pure (.ok (← binding.bindQuery s.effectiveBook params body s.effectiveQueryTargets))
  | none => none

/-- The handler that settings describe. -/
def assemble (s : HandlerSettings β) (path : Option (PathBinding β)) : Handler β :=
  { name := s.name
    logic := s.logic
    writer := s.writer.getD (RenderingWriter.json s.effectiveBook .standard .compact).write
    reader := s.reader
    book := s.effectiveBook
    catalogue := s.catalogue
    identifier := s.identifier
    accessChecker := s.accessChecker
    requireAuthentication := s.requireAuthentication
    path := path
    query := s.queryBinding
    subjectCheck := s.subjectCheck }

/-- Checks the settings and assembles the handler. -/
def check (s : HandlerSettings β) : Except HandlerError (Handler β) :=
  if isBlankText s.name then .error .missingName
  else
    match s.unknownTarget? with
    | some field => .error (.unknownField field)
    | none => s.pathBinding.map s.assemble

/-- Builds the handler. -/
def build (s : HandlerSettings β) : Logged (Except HandlerError (Handler β)) :=
  match s.check with
  | .error e => pure (.error e)
  | .ok h => do
    h.logEvent .debug "Built handler"
      (h.logic.capabilities.fields.map fun (name, b) => (name, .flag b))
    pure (.ok h)

end HandlerSettings

/-- The rules of a validator as a check of bodies; it never panics. -/
def Validator.subjectCheck {σ : Type} (v : Validator σ) :
    σ → ErrorRecord → Logged (Except Panic ErrorRecord) := fun body errors => do
  let (_, errors) ← v.validateInto body errors
  pure (.ok errors)

end Endpoint
