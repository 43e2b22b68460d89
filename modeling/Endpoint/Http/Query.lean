import Endpoint.Number.Hexadecimal
import Endpoint.Text.Utf8
import Endpoint.Field.Path

/-!
# URL-encoded queries

A query is a list of pairs separated by ampersands; empty pieces are skipped, and a piece
without an equals sign is a name with an empty value.  In names and values a plus sign is a
space, and a percent sign with two hexadecimal digits is a byte.
-/

namespace Endpoint.Query

/-- The byte given by two hexadecimal digits at the front. -/
def escaped? : List UInt8 → Option UInt8
  | h :: l :: _ =>
    (Hexadecimal.number? [Char.ofNat h.toNat, Char.ofNat l.toNat]).map UInt8.ofNat
  | _ => none

/-- Decodes plus signs and percent escapes; `skip` bytes belong to an escape already read. -/
def unescapeFrom : Nat → List UInt8 → List UInt8
  | _, [] => []
  | skip + 1, _ :: rest => unescapeFrom skip rest
  | 0, b :: rest =>
    if b = 0x2B then 0x20 :: unescapeFrom 0 rest
    else if b = 0x25 then
      match escaped? rest with
      | some x => x :: unescapeFrom 2 rest
      | none => b :: unescapeFrom 0 rest
    else b :: unescapeFrom 0 rest

/-- Decodes plus signs and percent escapes. -/
def unescape (s : List UInt8) : List UInt8 := unescapeFrom 0 s

/-- The text of one encoded name or value. -/
def component (s : List Char) : String := Utf8.decode (unescape (Utf8.encode (String.ofList s)))

/-- The pairs of a query, in order. -/
def pairs (query : String) : List (String × String) :=
  ((FieldPath.splitAt '&' query.toList).filter (!·.isEmpty)).map fun piece =>
    (component (piece.takeWhile (· != '=')), component ((piece.dropWhile (· != '=')).drop 1))

end Endpoint.Query
