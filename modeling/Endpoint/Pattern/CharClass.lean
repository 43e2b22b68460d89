import Endpoint.Unicode.Case
import Endpoint.Unicode.Category
import Endpoint.Unicode.Property

/-!
# Classes of characters

The classes that patterns have short names for, and the sets that arise when case is
ignored.
-/

namespace Endpoint.CharClass

open Unicode

/-- Decimal digits of all scripts. -/
def digits : CharSet := categories ["Nd"]

def spaces : CharSet := propertySet "White_Space"

/-- Letters, marks, decimal digits, connectors and joiners. -/
def words : CharSet :=
  ((propertySet "Alphabetic").union (categories ["Mn", "Mc", "Me", "Nd", "Pc"])).union
    (propertySet "Join_Control")

def asciiDigits : CharSet := ⟨[(0x30, 0x39)]⟩

def asciiSpaces : CharSet := ⟨[(0x09, 0x0D), (0x20, 0x20)]⟩

def asciiWords : CharSet := ⟨[(0x30, 0x39), (0x41, 0x5A), (0x5F, 0x5F), (0x61, 0x7A)]⟩

def isWord (unicode : Bool) (c : Char) : Bool :=
  if unicode then words.contains c.toNat else asciiWords.contains c.toNat

/-- The classes that may be named inside a bracketed set. -/
def named : List (String × CharSet) := [
  ("alnum", ⟨[(0x30, 0x39), (0x41, 0x5A), (0x61, 0x7A)]⟩),
  ("alpha", ⟨[(0x41, 0x5A), (0x61, 0x7A)]⟩),
  ("ascii", ⟨[(0x00, 0x7F)]⟩),
  ("blank", ⟨[(0x09, 0x09), (0x20, 0x20)]⟩),
  ("cntrl", ⟨[(0x00, 0x1F), (0x7F, 0x7F)]⟩),
  ("digit", asciiDigits),
  ("graph", ⟨[(0x21, 0x7E)]⟩),
  ("lower", ⟨[(0x61, 0x7A)]⟩),
  ("print", ⟨[(0x20, 0x7E)]⟩),
  ("punct", ⟨[(0x21, 0x2F), (0x3A, 0x40), (0x5B, 0x60), (0x7B, 0x7E)]⟩),
  ("space", asciiSpaces),
  ("upper", ⟨[(0x41, 0x5A)]⟩),
  ("word", asciiWords),
  ("xdigit", ⟨[(0x30, 0x39), (0x41, 0x46), (0x61, 0x66)]⟩)]

/-- Adds the characters that differ from those of a set by case only. -/
def fold (s : CharSet) : CharSet :=
  let pairs := foldRuns.flatMap fun (first, last, step, shift) =>
    (List.range ((last - first) / step + 1)).map fun i =>
      let c := first + i * step
      (c, ((c : Int) + shift).toNat)
  let bases := CharSet.ofRanges (s.ranges ++ pairs.filterMap fun (c, base) =>
    if s.contains c then some (base, base) else none)
  CharSet.ofRanges (bases.ranges ++ pairs.filterMap fun (c, base) =>
    if bases.contains base then some (c, c) else none)

/-- Adds the ASCII letters that differ from those of a set by case only. -/
def foldAscii (s : CharSet) : CharSet :=
  let lower := (List.range 26).map (· + 0x61)
  CharSet.ofRanges (s.ranges ++ lower.flatMap fun c =>
    (if s.contains c then [(c - 32, c - 32)] else [])
      ++ (if s.contains (c - 32) then [(c, c)] else []))

/-- The characters equal to one when case is ignored. -/
def foldChar (c : Nat) : CharSet :=
  CharSet.ofRanges ((c :: caseVariants c).map fun v => (v, v))

end Endpoint.CharClass
