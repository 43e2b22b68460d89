import Endpoint.Json.Text
import Endpoint.Response.Basic

/-!
# The form of a response body

Errors are grouped by the fields they are about, the result is put beside the body of the
response, and the whole is written as JSON.
-/

namespace Endpoint

namespace ServiceError

/-- What a caller is shown of an error. -/
def entry (e : ServiceError) : Json :=
  .object [("code", .str e.displayCode), ("message", .str e.message)]

end ServiceError

namespace ErrorRecord

/-- The errors about no field, in order. -/
def general (r : ErrorRecord) : List ServiceError := r.errors.filter fun e => e.field.isNone

/-- The errors about one field, in order. -/
def about (r : ErrorRecord) (field : String) : List ServiceError :=
  r.errors.filter fun e => e.field == some field

/-- The errors of each field that any are about. -/
def byField (r : ErrorRecord) : Entries (List ServiceError) :=
  Entries.ofList ((r.errors.filterMap ServiceError.field).map fun f => (f, r.about f))

/-- The errors as JSON, if there are any: those about no field under `general`, the others
    under `by_field` and the name of the field. -/
def format (r : ErrorRecord) : Option Json :=
  let entries (es : List ServiceError) : Json := .arr (es.map ServiceError.entry)
  if r.isEmpty then none
  else some (.object (
    (if r.general.isEmpty then [] else [("general", entries r.general)])
      ++ (if r.byField.isEmpty then []
        else [("by_field", .obj (Entries.mapValues entries r.byField))])))

end ErrorRecord

/-- How the body of a response and its formatted errors become one value. -/
inductive Wrapping where
  /-- an object with one field for each of the two; if both have the same name, the errors
      win -/
  | fields (body errors : String)
  /-- the errors if there are any, else the body -/
  | bodyOrErrors
  deriving DecidableEq, Repr

namespace Wrapping

/-- The usual names of the two fields. -/
def standard : Wrapping := fields "response" "errors"

def apply (w : Wrapping) (body errors : Option Json) : Json :=
  match w with
  | fields bodyField errorsField =>
    .object ((body.map fun b => (bodyField, b)).toList
      ++ (errors.map fun e => (errorsField, e)).toList)
  | bodyOrErrors => errors.getD (body.getD .null)

end Wrapping

/-- Why a response cannot be written. -/
inductive WriteError where
  | marshal (reason : String)
  | sink (reason : String)
  deriving DecidableEq, Repr

/-- The name of the kind of an error. -/
def WriteError.kind : WriteError → String
  | marshal _ => "Marshal"
  | sink _ => "Sink"

def WriteError.message : WriteError → String
  | marshal reason => "failed to marshal response: " ++ reason
  | sink reason => "failed to write response: " ++ reason

/-- The content type of a JSON body. -/
def jsonContentType : String := "application/json; charset=utf-8"

/-- Writes a value to a sink as JSON; the content type is set unless the sink has one. -/
def writeJson (layout : Json.Layout) (data : Json) (sink : Sink) : Sink × Except WriteError Unit :=
  let sink :=
    if (sink.header? "content-type").isSome then sink
    else (sink.setHeader "content-type" jsonContentType).2
  (sink.write (Utf8.encode (data.write layout)), .ok ())

end Endpoint
