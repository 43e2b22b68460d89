import Endpoint.Fault.MessageBook
import Endpoint.Param.Binding

/-!
# Binding the parameters of a request

The texts captured from the path are bound by position, those of the query by name.  Every
binding is attempted; those that fail leave the body as it was, and each of them becomes a
fault in the order of the targets.
-/

namespace Endpoint

/-- How parameters are bound to a body: the names of its bindable fields, and a function
    that sets one of them from the values under a key. -/
structure BodyBinding (β : Type) where
  fields : List String
  bind : β → String → Params → String → Except BindError β

/-- The binding of records of a type. -/
def RecordType.bodyBinding (t : RecordType) : BodyBinding Datum := ⟨t.paramFields, t.bind⟩

namespace BodyBinding

variable {β : Type}

/-- What a path segment would have to be. -/
def expectedSegment : BindError → String
  | .wrongType _ expected => expected
  | .notAList => "a single value"
  | .noSuchField _ | .missing => "a bindable value"

/-- The fault of a path segment that cannot be bound. -/
def pathFault (book : MessageBook) (params : Params) (position : Nat) (field : String)
    (e : BindError) : Logged Fault := do
  let (message, code) ← book.messageAndCode .pathWrongType [field, expectedSegment e]
  let value := (params.string (toString position)).toOption.getD ""
  pure { Fault.pathBind message code field with value := some value, position := some position }

/-- Binds the path texts from a position on, one for each field. -/
def bindPathFrom (b : BodyBinding β) (book : MessageBook) (params : Params) (body : β)
    (position : Nat) : List String → Logged (β × List Fault)
  | [] => pure (body, [])
  | field :: rest =>
    match b.bind body field params (toString position) with
    | .ok body => bindPathFrom b book params body (position + 1) rest
    | .error e => do
      let fault ← pathFault book params position field e
      let (body, faults) ← bindPathFrom b book params body (position + 1) rest
      pure (body, fault :: faults)

/-- Binds the texts captured from a path to the fields they are named after. -/
def bindPath (b : BodyBinding β) (book : MessageBook) (params : Params) (body : β) :
    Logged (β × List Fault) :=
  b.bindPathFrom book params body 0 params.names

/-- The wording of a query parameter that cannot be bound; one without a value is no
    fault. -/
def queryFaultEvent? (param : String) : BindError → Option (FaultEvent × List String)
  | .missing => none
  | .noSuchField _ => some (.queryWithoutTarget, [param])
  | .notAList => some (.queryTargetNotList, [param])
  | .wrongType _ expected => some (.queryWrongType, [param, expected])

/-- The fault of a query parameter that cannot be bound. -/
def queryFault (book : MessageBook) (params : Params) (field param : String) (event : FaultEvent)
    (args : List String) : Logged Fault := do
  let (message, code) ← book.messageAndCode event args
  pure { Fault.queryBind message code param field with
    value := (params.valuesOf? param).map (",".intercalate ·) }

/-- Binds query parameters to fields; a target whose parameter is not given is passed over. -/
def bindQuery (b : BodyBinding β) (book : MessageBook) (params : Params) (body : β) :
    List (String × String) → Logged (β × List Fault)
  | [] => pure (body, [])
  | (field, param) :: rest =>
    if params.contains param then
      match b.bind body field params param with
      | .ok body => bindQuery b book params body rest
      | .error e =>
        match queryFaultEvent? param e with
        | none => bindQuery b book params body rest
        | some (event, args) => do
          let fault ← queryFault book params field param event args
          let (body, faults) ← bindQuery b book params body rest
          pure (body, fault :: faults)
    else bindQuery b book params body rest

/-- A target for every bindable field, from the parameter of its own name. -/
def autoTargets (b : BodyBinding β) : List (String × String) := b.fields.map fun f => (f, f)

end BodyBinding

end Endpoint
