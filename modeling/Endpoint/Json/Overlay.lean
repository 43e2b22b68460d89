import Endpoint.Json.Basic

/-!
# Laying one value over another

Where two objects meet, their entries are laid over one another key by key; anywhere else the
upper value replaces the lower one.
-/

namespace Endpoint

mutual

/-- Lays a value over another. -/
def Json.overlay (base : Json) (layer : Json) : Json :=
  match base, layer with
  | .obj lower, .obj upper => .obj (Entries.overlay lower upper)
  | _, layer => layer

/-- Lays entries over others, one after another. -/
def Entries.overlay (lower : Entries Json) : List (String × Json) → Entries Json
  | [] => lower
  | (key, value) :: rest =>
    let merged :=
      match Entries.get? key lower with
      | some below => Json.overlay below value
      | none => value
    Entries.overlay (Entries.insert key merged lower) rest

end

end Endpoint
