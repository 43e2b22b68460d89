import Endpoint.Json.Basic
import Endpoint.Json.Decoder

/-!
# Identities

Who is calling: whether the caller is authenticated or anonymous, the name to put into
logs, and any attributes attached to the caller.
-/

namespace Endpoint

/-- The identity of a caller. -/
structure Identity where
  authenticated : Bool
  anonymous : Bool
  user : String
  attributes : Entries Json

namespace Identity

/-- A caller of whom nothing is known. -/
def unknown : Identity := ⟨false, true, "-", []⟩

/-- A caller known by name. -/
def known (user : String) : Identity := ⟨true, false, user, []⟩

def setAttribute (i : Identity) (key : String) (value : Json) : Identity :=
  { i with attributes := i.attributes.insert key value }

def attribute? (i : Identity) (key : String) : Option Json := i.attributes.get? key

/-- The JSON form of an identity, with its fields in order; attributes are left out when
    there are none. -/
def entries (i : Identity) : List (String × Json) :=
  [("authenticated", .bool i.authenticated), ("anonymous", .bool i.anonymous),
    ("loggable_user_id", .str i.user)]
    ++ (if i.attributes.isEmpty then [] else [("attributes", .obj i.attributes)])

/-- Reads an identity from a document. -/
def decode : Decoder Identity := fun d => do
  let names := ["authenticated", "anonymous", "loggable_user_id", "attributes"]
  match ← Decoder.fields false names d with
  | [authenticated, anonymous, user, attributes] =>
    some {
      authenticated := ← Decoder.required Decoder.bool authenticated
      anonymous := ← Decoder.required Decoder.bool anonymous
      user := ← Decoder.required Decoder.string user
      attributes := ← Decoder.withDefault [] (Decoder.entries Decoder.json) attributes }
  | _ => none

end Identity

end Endpoint
