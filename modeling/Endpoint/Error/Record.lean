import Endpoint.Error.Basic
import Endpoint.Http.Status
import Endpoint.Log.Event
import Endpoint.Text.Diagnostic

/-!
# Recorded errors

The errors recorded while one request is processed, in the order they were added, with an
optional status that overrides the one derived from them.
-/

namespace Endpoint

/-- The errors recorded so far. -/
structure ErrorRecord where
  errors : List ServiceError
  status : Option Status
  catalogue : Option Catalogue

namespace ErrorRecord

/-- Nothing recorded yet, with predefined errors looked up in a catalogue if there is one. -/
def empty (catalogue : Option Catalogue) : ErrorRecord := ⟨[], none, catalogue⟩

def add (r : ErrorRecord) (e : ServiceError) : ErrorRecord := { r with errors := r.errors ++ [e] }

def addAll (r : ErrorRecord) (es : List ServiceError) : ErrorRecord :=
  { r with errors := r.errors ++ es }

/-- Stands for a predefined error that is not defined. -/
def undefinedError : ServiceError :=
  ⟨.unexpected, "UNKNOWN_ERROR_CODE", "No error is defined for the requested code", none⟩

/-- The predefined error of a code; one that is not defined is logged. -/
def resolve (catalogue : Option Catalogue) (code : String) : Logged ServiceError :=
  match catalogue.bind (·.find? code) with
  | some e => pure e
  | none => do
    Logged.event .warn "hypatia::errors" "No predefined error found for code" [("code", .text code)]
    pure undefinedError

/-- Adds the predefined error of a code. -/
def addPredefined (r : ErrorRecord) (code : String) : Logged ErrorRecord := do
  let e ← resolve r.catalogue code
  pure (r.add e)

/-- Adds the predefined error of a code as an error about a field. -/
def addPredefinedFor (r : ErrorRecord) (code field : String) : Logged ErrorRecord := do
  let e ← resolve r.catalogue code
  pure (r.add { e with field := some field })

/-- Replaces the message of one recorded error, if there are that many. -/
def setMessage (r : ErrorRecord) (index : Nat) (message : String) : ErrorRecord :=
  { r with errors := r.errors.modify index fun e => { e with message := message } }

def setStatus (r : ErrorRecord) (status : Status) : ErrorRecord := { r with status := some status }

def isEmpty (r : ErrorRecord) : Bool := r.errors.isEmpty

def hasCategory (r : ErrorRecord) (c : Category) : Bool := r.errors.any fun e => e.category == c

/-- The first recorded error of a category. -/
def firstOf (r : ErrorRecord) (c : Category) : Option ServiceError :=
  r.errors.find? fun e => e.category == c

/-- What is shown of a record of errors: the errors, the status, and whether predefined errors
    are defined. -/
def diagnostic (r : ErrorRecord) : Diagnostic :=
  let shown (e : ServiceError) : Diagnostic :=
    .record "CategorisedError" [("category", .word e.category.title), ("code", .text e.code),
      ("message", .text e.message), ("field", .optionalText e.field)] false
  .record "ServiceErrors" [("errors", .list (r.errors.map shown)),
    ("http_status", .option (r.status.map fun s => .number s.code)),
    ("finder", .flag r.catalogue.isSome)] false

/-- Removes all errors and the status. -/
def clear (r : ErrorRecord) : ErrorRecord := empty r.catalogue

end ErrorRecord

end Endpoint
