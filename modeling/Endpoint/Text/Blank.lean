/-!
# White space

The characters with the Unicode property White_Space, and trimming by it.
-/

namespace Endpoint

/-- Whether a character is white space. -/
def isBlank (c : Char) : Bool :=
  let n := c.toNat
  (decide (9 ≤ n) && decide (n ≤ 13)) || n == 0x20 || n == 0x85 || n == 0xA0 || n == 0x1680
    || (decide (0x2000 ≤ n) && decide (n ≤ 0x200A))
    || n == 0x2028 || n == 0x2029 || n == 0x202F || n == 0x205F || n == 0x3000

/-- Drops white space from both ends of a list of characters. -/
def trimChars (s : List Char) : List Char :=
  ((s.dropWhile isBlank).reverse.dropWhile isBlank).reverse

/-- Drops white space from both ends of a text. -/
def trimText (s : String) : String := String.ofList (trimChars s.toList)

/-- Whether a text holds nothing but white space. -/
def isBlankText (s : String) : Bool := s.toList.all isBlank

/-- A text with its ASCII letters in lower case and all else unchanged. -/
def asciiLower (s : String) : String := String.ofList (s.toList.map Char.toLower)

end Endpoint
