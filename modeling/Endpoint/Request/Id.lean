import Endpoint.Number.Hexadecimal

/-!
# Request identifiers

A request identifier is a UUID, a number of 128 bits.  It is written in lower-case
hexadecimal in groups of 8, 4, 4, 4 and 12 digits joined by hyphens.  It is read in that
form, which may stand in braces or after `urn:uuid:`, or as 32 digits without hyphens.
-/

namespace Endpoint

/-- The identifier of a request. -/
structure RequestId where
  value : Nat
  deriving DecidableEq, Repr

namespace RequestId

/-- The identifier with all bits zero. -/
def nil : RequestId := ⟨0⟩

/-- Reads 32 digits without hyphens. -/
def readSimple? (s : List Char) : Option Nat :=
  if s.length = 32 then Hexadecimal.number? s else none

/-- Reads 36 characters with hyphens after the 8th, 12th, 16th and 20th digit. -/
def readHyphenated? (s : List Char) : Option Nat :=
  let hyphens := [8, 13, 18, 23]
  if s.length = 36 ∧ hyphens.all (fun i => s[i]? == some '-') then
    readSimple? ((s.zipIdx.filter fun (_, i) => !hyphens.contains i).map Prod.fst)
  else none

/-- Reads an identifier. -/
def ofText? (text : String) : Option RequestId :=
  let s := text.toList
  let urn := "urn:uuid:".toList
  let found :=
    if s.length = 32 then readSimple? s
    else if s.length = 36 then readHyphenated? s
    else if s.length = 38 ∧ s.head? = some '\x7b' ∧ s.getLast? = some '\x7d' then
      readHyphenated? ((s.drop 1).take 36)
    else if s.length = 45 ∧ urn.isPrefixOf s then readHyphenated? (s.drop urn.length)
    else none
  found.map RequestId.mk

/-- The text of an identifier. -/
def text (id : RequestId) : String :=
  let v := id.value
  let hex := Hexadecimal.digits
  String.ofList (hex 8 (v >>> 96) ++ '-' :: hex 4 (v >>> 80) ++ '-' :: hex 4 (v >>> 64)
    ++ '-' :: hex 4 (v >>> 48) ++ '-' :: hex 12 v)

/-- The version number that an identifier states. -/
def version (id : RequestId) : Nat := (id.value >>> 76) % 16

/-- An identifier of version 7: milliseconds of time, then 74 further bits. -/
def ofTime (milliseconds further : Nat) : RequestId :=
  ⟨((milliseconds % (1 <<< 48)) <<< 80) + (7 <<< 76) + (((further >>> 62) % (1 <<< 12)) <<< 64)
    + (1 <<< 63) + further % (1 <<< 62)⟩

end RequestId

/-- What identifies a request while it is processed. -/
structure RequestContext where
  id : RequestId
  handlerName : Option String
  traceId : Option String
  deriving DecidableEq, Repr

namespace RequestContext

def new (id : RequestId) : RequestContext := ⟨id, none, none⟩

end RequestContext

end Endpoint
