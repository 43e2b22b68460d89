/-!
# Log events

An operation that logs returns what it logged beside its value.  The log is a list of
entries in the order they were made: events, and the opening and closing of spans that the
events between them belong to.
-/

namespace Endpoint

/-- The severity of an event, from least to most verbose. -/
inductive Level where
  | error
  | warn
  | info
  | debug
  | trace
  deriving DecidableEq, Repr

namespace Level

/-- The name of a level in capitals. -/
def name : Level → String
  | error => "ERROR"
  | warn => "WARN"
  | info => "INFO"
  | debug => "DEBUG"
  | trace => "TRACE"

/-- Greater numbers are more verbose. -/
def rank : Level → Nat
  | error => 1
  | warn => 2
  | info => 3
  | debug => 4
  | trace => 5

end Level

/-- The value of an event's field. -/
inductive EventValue where
  | text (s : String)
  | number (i : Int)
  | flag (b : Bool)
  deriving DecidableEq, Repr

/-- One log event. -/
structure Event where
  level : Level
  target : String
  message : String
  fields : List (String × EventValue)
  deriving DecidableEq, Repr

/-- A span that events belong to while it is open. -/
structure Span where
  level : Level
  target : String
  name : String
  fields : List (String × EventValue)
  deriving DecidableEq, Repr

/-- An entry of a log. -/
inductive LogEntry where
  | event (e : Event)
  | opened (s : Span)
  | closed
  deriving DecidableEq, Repr

/-- A value together with what was logged while it was computed. -/
structure Logged (α : Type) where
  value : α
  log : List LogEntry

namespace Logged

variable {α β : Type}

/-- A value computed without logging. -/
def quiet (a : α) : Logged α := ⟨a, []⟩

/-- Logs one event. -/
def event (level : Level) (target message : String) (fields : List (String × EventValue)) :
    Logged Unit :=
  ⟨(), [.event ⟨level, target, message, fields⟩]⟩

/-- Continues with a value; the logs follow one another. -/
def andThen (x : Logged α) (f : α → Logged β) : Logged β :=
  ⟨(f x.value).value, x.log ++ (f x.value).log⟩

instance : Monad Logged where
  pure := quiet
  bind := andThen

/-- Runs a computation inside a span. -/
def inSpan (s : Span) (x : Logged α) : Logged α := ⟨x.value, .opened s :: (x.log ++ [.closed])⟩

@[simp] theorem value_pure (a : α) : (pure a : Logged α).value = a := rfl

@[simp] theorem log_pure (a : α) : (pure a : Logged α).log = [] := rfl

@[simp] theorem value_bind (x : Logged α) (f : α → Logged β) :
    (x >>= f).value = (f x.value).value := rfl

@[simp] theorem log_bind (x : Logged α) (f : α → Logged β) :
    (x >>= f).log = x.log ++ (f x.value).log := rfl

end Logged

end Endpoint
