import Endpoint.Json.Basic
import Endpoint.Text.Blank

/-!
# Merging headers

The headers of a response are put together from three sources.  Names are compared without
regard to case; the response's own headers win over the common ones, and those over the
defaults.
-/

namespace Endpoint

/-- Adds headers to others under their names in lower case, in order; later ones win. -/
def fileHeaders (filed : Entries String) (headers : Entries String) : Entries String :=
  headers.foldl (fun filed (name, value) => Entries.insert (asciiLower name) value filed) filed

/-- The headers of a response, from its own headers, the common ones if there are any, and
    the defaults. -/
def mergeHeaders (response : Entries String) (common : Option (Entries String))
    (defaults : Entries String) : Entries String :=
  fileHeaders (fileHeaders (fileHeaders [] defaults) (common.getD [])) response

end Endpoint
