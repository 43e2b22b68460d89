import Endpoint.Error.Category
import Endpoint.Json.Decoder

/-!
# Service errors

A service error has a category, a code and a message, and may be about one field of the
request.  A `Catalogue` holds predefined errors by code; each code is defined once.
-/

namespace Endpoint

/-- An error to be reported to the caller of a service. -/
structure ServiceError where
  category : Category
  code : String
  message : String
  field : Option String
  deriving DecidableEq, Repr

namespace ServiceError

/-- The code shown to callers: the letter of the category and the code. -/
def displayCode (e : ServiceError) : String := String.ofList [e.category.letter, '-'] ++ e.code

/-- The error on one line. -/
def describe (e : ServiceError) : String := e.displayCode ++ ": " ++ e.message

/-- Reads a category from a document. -/
def decodeCategory : Decoder Category := fun d => (Decoder.string d).bind Category.ofText?

/-- Reads an error from a document. -/
def decode : Decoder ServiceError := fun d => do
  match ← Decoder.fields false ["category", "code", "message", "field"] d with
  | [category, code, message, field] =>
    some {
      category := ← Decoder.required decodeCategory category
      code := ← Decoder.required Decoder.string code
      message := ← Decoder.required Decoder.string message
      field := ← Decoder.withDefault none (Decoder.nullable Decoder.string) field }
  | _ => none

/-- The JSON form of an error; the field is left out when there is none. -/
def toJson (e : ServiceError) : Json :=
  .object ([("category", .str e.category.name), ("code", .str e.code), ("message", .str e.message)]
    ++ (e.field.map fun f => ("field", Json.str f)).toList)

end ServiceError

/-- A predefined error as it is configured. -/
structure ErrorDefinition where
  category : Category
  code : String
  message : String
  deriving DecidableEq, Repr

namespace ErrorDefinition

/-- The error that a definition gives, about no particular field. -/
def toError (d : ErrorDefinition) : ServiceError := ⟨d.category, d.code, d.message, none⟩

/-- Reads a definition from a document; other fields are refused. -/
def decode : Decoder ErrorDefinition := fun d => do
  match ← Decoder.fields true ["category", "code", "message"] d with
  | [category, code, message] =>
    some {
      category := ← Decoder.required ServiceError.decodeCategory category
      code := ← Decoder.required Decoder.string code
      message := ← Decoder.required Decoder.string message }
  | _ => none

def toJson (d : ErrorDefinition) : Json :=
  .object [("category", .str d.category.name), ("code", .str d.code), ("message", .str d.message)]

end ErrorDefinition

/-- Predefined errors, at most one for each code.  What looks errors up by their code is taken to
    be such a table: for a code it gives the same error every time, of that code and about no
    field, and it does not panic. -/
structure Catalogue where
  definitions : List ErrorDefinition
  nodup : (definitions.map ErrorDefinition.code).Nodup

namespace Catalogue

def empty : Catalogue := ⟨[], by simp⟩

/-- The first code that occurs earlier in a list of definitions. -/
def repeated? (seen : List String) : List ErrorDefinition → Option String
  | [] => none
  | d :: rest => if d.code ∈ seen then some d.code else repeated? (d.code :: seen) rest

theorem nodup_of_repeated? {seen : List String} {ds : List ErrorDefinition}
    (h : repeated? seen ds = none) :
    (ds.map ErrorDefinition.code).Nodup ∧ ∀ d ∈ ds, d.code ∉ seen := by
  induction ds generalizing seen with
  | nil => simp
  | cons d rest ih =>
    simp only [repeated?] at h
    split at h
    · simp at h
    · rename_i hd
      obtain ⟨hn, hs⟩ := ih h
      refine ⟨?_, ?_⟩
      · simp only [List.map_cons, List.nodup_cons, List.mem_map, not_exists, not_and]
        exact ⟨fun e he hc => hs e he (by simp [hc]), hn⟩
      · intro e he
        rcases List.mem_cons.1 he with rfl | he
        · exact hd
        · exact fun hc => hs e he (by simp [hc])

/-- The catalogue of some definitions, or the first code that is defined again. -/
def ofDefinitions (ds : List ErrorDefinition) : Except String Catalogue :=
  match h : repeated? [] ds with
  | none => .ok ⟨ds, (nodup_of_repeated? h).1⟩
  | some code => .error code

/-- What is said of a code that is defined again. -/
def repeatedMessage (code : String) : String :=
  "service error code '" ++ code ++ "' is defined more than once"

/-- The error defined for a code. -/
def find? (c : Catalogue) (code : String) : Option ServiceError :=
  (c.definitions.find? fun d => d.code == code).map ErrorDefinition.toError

def size (c : Catalogue) : Nat := c.definitions.length

end Catalogue

end Endpoint
