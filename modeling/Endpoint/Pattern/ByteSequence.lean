import Endpoint.Unicode.CharSet

/-!
# Characters as sequences of bytes

A range of characters is a list of sequences of byte ranges: a character lies in the range
if and only if its UTF-8 bytes lie in the ranges of one of the sequences.
-/

namespace Endpoint

/-- The UTF-8 bytes of a code point. -/
def utf8Bytes (c : Nat) : List Nat :=
  if c < 0x80 then [c]
  else if c < 0x800 then [0xC0 + c / 0x40, 0x80 + c % 0x40]
  else if c < 0x10000 then [0xE0 + c / 0x1000, 0x80 + c / 0x40 % 0x40, 0x80 + c % 0x40]
  else
    [0xF0 + c / 0x40000, 0x80 + c / 0x1000 % 0x40, 0x80 + c / 0x40 % 0x40, 0x80 + c % 0x40]

/-- Byte ranges with inclusive ends, one after the other. -/
abbrev ByteSequence := List (Nat × Nat)

namespace ByteSequence

/-- Where a range has to be split because its characters begin with different bytes and
    their last bytes, `size` being their number of values, are not all possible ones. -/
def unevenEnd? (lo hi size : Nat) : Option Nat :=
  if lo / size = hi / size then none
  else if lo % size ≠ 0 then some (lo / size * size + (size - 1))
  else if hi % size ≠ size - 1 then some (hi / size * size - 1)
  else none

/-- The last character of the first part of a range that is more than one sequence. -/
def splitPoint? (lo hi : Nat) : Option Nat :=
  match [0x7F, 0x7FF, 0xFFFF].find? fun m => decide (lo ≤ m) && decide (m < hi) with
  | some m => some m
  | none =>
    if hi < 0x80 then none
    else [0x40, 0x1000, 0x40000].findSome? fun size => unevenEnd? lo hi size

/-- The sequences of a range of characters, in increasing order. -/
def ofRange (lo hi : Nat) : List ByteSequence :=
  match splitPoint? lo hi with
  | some m =>
    if _h : lo ≤ m ∧ m < hi then ofRange lo m ++ ofRange (m + 1) hi else []
  | none => [(utf8Bytes lo).zip (utf8Bytes hi)]
termination_by hi - lo
decreasing_by all_goals omega

/-- The sequences of a set of characters, in increasing order. -/
def ofSet (s : Unicode.CharSet) : List ByteSequence :=
  s.characters.ranges.flatMap fun (lo, hi) => ofRange lo hi

end ByteSequence

end Endpoint
