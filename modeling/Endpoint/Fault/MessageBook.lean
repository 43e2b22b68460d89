import Endpoint.Fault.Basic
import Endpoint.Http.Status
import Endpoint.Log.Event

/-!
# Message books

The wording of the errors that the library itself reports: a code and a template for each
kind of fault, and a message for HTTP statuses.  The pairs of braces of a template are
replaced by arguments from left to right; arguments are never searched for braces.
-/

namespace Endpoint

/-- The kinds of faults that have a wording. -/
inductive FaultEvent where
  | unreadableRequest
  | queryTargetNotList
  | queryWrongType
  | pathWrongType
  | queryWithoutTarget
  deriving DecidableEq, Repr

namespace FaultEvent

def all : List FaultEvent :=
  [unreadableRequest, queryTargetNotList, queryWrongType, pathWrongType, queryWithoutTarget]

/-- The name of an event in configuration. -/
def name : FaultEvent → String
  | unreadableRequest => "unable_to_parse_request"
  | queryTargetNotList => "query_target_not_array"
  | queryWrongType => "query_wrong_type"
  | pathWrongType => "path_wrong_type"
  | queryWithoutTarget => "query_no_target_field"

/-- The name of an event in logs. -/
def logName : FaultEvent → String
  | unreadableRequest => "UnableToParseRequest"
  | queryTargetNotList => "QueryTargetNotArray"
  | queryWrongType => "QueryWrongType"
  | pathWrongType => "PathWrongType"
  | queryWithoutTarget => "QueryNoTargetField"

def ofName? (s : String) : Option FaultEvent := all.find? fun e => e.name == s

end FaultEvent

/-- A code and the template of a message. -/
structure Wording where
  code : String
  template : String
  deriving DecidableEq, Repr

namespace Wording

/-- Reads a wording from a list of its code and its template. -/
def decode : Decoder Wording
  | .arr [code, template] => do
    some ⟨← Decoder.string code, ← Decoder.string template⟩
  | _ => none

def toJson (w : Wording) : Json := .strings [w.code, w.template]

/-- The built-in wording of an event. -/
def builtin : FaultEvent → Wording
  | .unreadableRequest => ⟨"FRAMEWORK_UNPARSEABLE", "The request body could not be parsed."⟩
  | .queryTargetNotList =>
    ⟨"FRAMEWORK_QUERY_NOT_ARRAY",
      "Parameter \x7b\x7d was supplied more than once but only accepts a single value."⟩
  | .queryWrongType =>
    ⟨"FRAMEWORK_QUERY_WRONG_TYPE", "Parameter \x7b\x7d could not be interpreted as \x7b\x7d."⟩
  | .pathWrongType =>
    ⟨"FRAMEWORK_PATH_WRONG_TYPE", "Path segment \x7b\x7d could not be interpreted as \x7b\x7d."⟩
  | .queryWithoutTarget =>
    ⟨"FRAMEWORK_QUERY_NO_TARGET", "Parameter \x7b\x7d cannot be accepted by this service."⟩

/-- Stands for the wording of an event that has none. -/
def undefined : Wording := ⟨"UNKNOWN", "No error message defined for this error"⟩

/-- Replaces pairs of braces by arguments from left to right; those left over stay. -/
def fillChars : List Char → List (List Char) → List Char
  | [], _ => []
  | [c], _ => [c]
  | c :: c' :: rest, args =>
    if c = '\x7b' ∧ c' = '\x7d' then
      match args with
      | [] => c :: c' :: fillChars rest []
      | a :: args => a ++ fillChars rest args
    else c :: fillChars (c' :: rest) args

/-- Fills a template with arguments. -/
def fill (template : String) (args : List String) : String :=
  String.ofList (fillChars template.toList (args.map String.toList))

end Wording

/-- The wordings in use. -/
structure MessageBook where
  wordings : List (FaultEvent × Wording)
  httpMessages : List (Status × String)

namespace MessageBook

/-- A book without any wording. -/
def empty : MessageBook := ⟨[], []⟩

/-- The book of built-in wordings. -/
def builtin : MessageBook := ⟨FaultEvent.all.map fun e => (e, Wording.builtin e), []⟩

def withWording (b : MessageBook) (e : FaultEvent) (w : Wording) : MessageBook :=
  { b with wordings := (e, w) :: b.wordings }

def withHttpMessage (b : MessageBook) (s : Status) (message : String) : MessageBook :=
  { b with httpMessages := (s, message) :: b.httpMessages }

/-- The wording of an event, the one set last. -/
def wording? (b : MessageBook) (e : FaultEvent) : Option Wording :=
  (b.wordings.find? fun (e', _) => e' == e).map Prod.snd

/-- The message set last for a status. -/
def httpMessage? (b : MessageBook) (s : Status) : Option String :=
  (b.httpMessages.find? fun (s', _) => s' == s).map Prod.snd

/-- The message and the code of an event; one without a wording is logged. -/
def messageAndCode (b : MessageBook) (e : FaultEvent) (args : List String) :
    Logged (String × String) :=
  match b.wording? e with
  | some w => pure (Wording.fill w.template args, w.code)
  | none => do
    Logged.event .warn "hypatia::framework"
      "No framework error message defined, returning a default message"
      [("event", .text e.logName)]
    pure (Wording.undefined.template, Wording.undefined.code)

/-- An error worded by the book. -/
def error (b : MessageBook) (e : FaultEvent) (category : Category) (args : List String) :
    Logged ServiceError := do
  let (message, code) ← b.messageAndCode e args
  pure ⟨category, code, message, none⟩

/-- The error that reports a status: its number is the code, and the message is the one set
    for it or `HTTP` and the number. -/
def httpError (b : MessageBook) (s : Status) : ServiceError :=
  ⟨.http, s.text, (b.httpMessage? s).getD ("HTTP " ++ s.text), none⟩

end MessageBook

end Endpoint
