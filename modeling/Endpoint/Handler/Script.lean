import Endpoint.Handler.Logic

/-!
# Scripted logic

Logic given as data: for each hook a list of actions, taken in order until one of them
panics or stops the request.  Every call of a hook is logged.
-/

namespace Endpoint

/-- One thing that a hook does. -/
inductive Action (β : Type) where
  /-- changes the errors: those recorded so far, or those of the response -/
  | errors (f : ErrorRecord → Logged ErrorRecord)
  | panic (p : Panic)
  /-- stops a request before it is validated if it meets a condition -/
  | stopIf (p : Request β → Bool)
  /-- changes a request before it is validated -/
  | request (f : Request β → Request β)
  /-- changes the response -/
  | respond (f : RequestContext → Request β → Response → Response)

namespace Action

variable {β : Type}

/-- Takes actions before validation; tells whether the request goes on. -/
def prepare : List (Action β) → Request β → ErrorRecord →
    Logged (Request β × Except Panic (Bool × ErrorRecord))
  | [], q, r => pure (q, .ok (true, r))
  | .errors f :: rest, q, r => do prepare rest q (← f r)
  | .panic p :: _, q, _ => pure (q, .error p)
  | .stopIf p :: rest, q, r => if p q then pure (q, .ok (false, r)) else prepare rest q r
  | .request f :: rest, q, r => prepare rest (f q) r
  | .respond _ :: rest, q, r => prepare rest q r

/-- Takes those actions that concern errors. -/
def check : List (Action β) → ErrorRecord → Logged (Except Panic ErrorRecord)
  | [], r => pure (.ok r)
  | .errors f :: rest, r => do check rest (← f r)
  | .panic p :: _, _ => pure (.error p)
  | _ :: rest, r => check rest r

/-- Takes those actions that concern the response. -/
def answer (context : RequestContext) (q : Request β) :
    List (Action β) → Response → Logged (Except Panic Response)
  | [], r => pure (.ok r)
  | .errors f :: rest, r => do answer context q rest { r with errors := ← f r.errors }
  | .panic p :: _, _ => pure (.error p)
  | .respond f :: rest, r => answer context q rest (f context q r)
  | _ :: rest, r => answer context q rest r

end Action

/-- Logic given by actions; a hook without a script is absent. -/
structure Script (β : Type) where
  target : Option β
  prepare : Option (List (Action β))
  validate : Option (List (Action β))
  process : List (Action β)
  finish : Option (List (Action β))

namespace Script

variable {β : Type}

/-- Where scripts log. -/
def logTarget : String := "script"

/-- Logs the call of a hook. -/
def note (what : String) : Logged Unit := Logged.event .trace logTarget what []

/-- The calls that a log tells of. -/
def calls (log : List LogEntry) : List String :=
  log.filterMap fun
    | .event e => if e.target = logTarget then some e.message else none
    | _ => none

/-- The logic of a script. -/
def logic (s : Script β) : Logic β :=
  { process := fun context q r => do
      note "process"
      let result ← Action.answer context q s.process r
      pure (q, result)
    unmarshalTarget := s.target.map fun body _ => do
      note "target"
      pure (.ok body)
    preValidate := s.prepare.map fun actions _ q r => do
      note "pre"
      Action.prepare actions q r
    validate := s.validate.map fun actions _ _ r => do
      note ("validate after " ++ toString r.errors.length)
      Action.check actions r
    postProcess := s.finish.map fun actions context name q r => do
      note ("post " ++ name)
      Action.answer context q actions r }

end Script

end Endpoint
