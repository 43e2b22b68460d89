import Endpoint.Text.Blank

/-!
# Header names and values

A header name is a token; its letters have no case, so headers are filed under names in
lower case.  A header value is text without control characters other than the tab.
-/

namespace Endpoint.Header

/-- Whether a character may stand in a token. -/
def isTokenChar (c : Char) : Bool :=
  c.isAlphanum || "!#$%&'*+-.^_`|~".toList.contains c

/-- The greatest length of a header name. -/
def nameLimit : Nat := 65535

/-- Whether a text is a header name. -/
def isName (s : String) : Bool :=
  !s.isEmpty && s.toList.all isTokenChar && decide (s.length ≤ nameLimit)

/-- Whether a character may stand in a header value. -/
def isValueChar (c : Char) : Bool :=
  c == '\t' || (decide (0x20 ≤ c.toNat) && c.toNat != 0x7F)

/-- Whether a text is a header value. -/
def isValue (s : String) : Bool := s.toList.all isValueChar

end Endpoint.Header
