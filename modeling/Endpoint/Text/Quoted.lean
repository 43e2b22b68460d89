import Endpoint.Unicode.Category
import Endpoint.Unicode.Property

/-!
# Quoted diagnostic text

Text shown in diagnostics stands in double quotes.  Quotes and backslashes are escaped, the
common control characters have short forms, and every other character that does not print
on its own (controls, format and private characters, unassigned code points, separators
other than the space, and combining characters) is written as its code point in braces.
-/

namespace Endpoint

/-- Characters that print on their own. -/
def printable : Unicode.CharSet :=
  ((Unicode.categories ["Cc", "Cf", "Co", "Zl", "Zp", "Zs"]).union Unicode.unassigned).diff
    (.single 0x20) |>.complement

/-- Characters that extend the character before them. -/
def combining : Unicode.CharSet := Unicode.propertySet "Grapheme_Extend"

/-- The escaped form of one character. -/
def quoteChar (c : Char) : List Char :=
  match c with
  | '"' => ['\\', '"']
  | '\\' => ['\\', '\\']
  | '\n' => ['\\', 'n']
  | '\r' => ['\\', 'r']
  | '\t' => ['\\', 't']
  | '\x00' => ['\\', '0']
  | c =>
    if 0x20 ≤ c.toNat ∧ c.toNat < 0x7F then [c]
    else if printable.contains c.toNat && !combining.contains c.toNat then [c]
    else "\\u\x7b".toList ++ Nat.toDigits 16 c.toNat ++ ['\x7d']

/-- A text in double quotes with its special characters escaped. -/
def quoted (s : String) : String :=
  String.ofList ('"' :: s.toList.flatMap quoteChar ++ ['"'])

end Endpoint
