import Endpoint.Unicode.Category
import Endpoint.Unicode.Property

/-!
# Letters and numbers of any script
-/

namespace Endpoint.Unicode

/-- Letters. -/
def letterSet : CharSet := propertySet "Alphabetic"

/-- Digits and other numbers. -/
def numericSet : CharSet := categories ["Nd", "Nl", "No"]

def isLetter (c : Char) : Bool :=
  if c.toNat < 0x80 then c.isAlpha else letterSet.contains c.toNat

def isAlphanumeric (c : Char) : Bool :=
  if c.toNat < 0x80 then c.isAlphanum
  else letterSet.contains c.toNat || numericSet.contains c.toNat

end Endpoint.Unicode
