/-!
# Bounds

The bounds of a range are written `least-greatest`, where either may be left out.  The
hyphen between them is the first one that can be neither the sign of a number nor the sign
of an exponent: it is not the first character, and the character before it is not `e`, `E`
or a hyphen.
-/

namespace Endpoint.Bounds

/-- Splits at the first hyphen that follows something other than `e`, `E` or a hyphen. -/
def splitAfter (previous : Char) : List Char → Option (List Char × List Char)
  | [] => none
  | c :: rest =>
    if c = '-' ∧ previous ≠ 'e' ∧ previous ≠ 'E' ∧ previous ≠ '-' then some ([], rest)
    else (splitAfter c rest).map fun (lo, hi) => (c :: lo, hi)

/-- Splits bounds into two parts.  A text that starts with a hyphen and has no other place
    to split has only an upper bound; one without any place to split has none. -/
def splitChars : List Char → Option (List Char × List Char)
  | [] => none
  | c :: rest =>
    match splitAfter c rest with
    | some (lo, hi) => some (c :: lo, hi)
    | none => if c = '-' ∧ rest ≠ [] then some ([], rest) else none

/-- Splits bounds into the texts of the lower and the upper one, not both of them empty. -/
def split (s : String) : Option (String × String) :=
  (splitChars s.toList).map fun (lo, hi) => (String.ofList lo, String.ofList hi)

end Endpoint.Bounds
