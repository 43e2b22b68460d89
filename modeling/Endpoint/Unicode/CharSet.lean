import Endpoint.Number.Hexadecimal

/-!
# Sets of code points

A set is a list of ranges in increasing order that neither overlap nor touch.
`CharSet.ofRanges` brings any list of ranges into this form, and the set operations are
built on it and on `complement`.
-/

namespace Endpoint.Unicode

/-- A set of code points as separated increasing ranges with inclusive ends. -/
structure CharSet where
  ranges : List (Nat × Nat)
  deriving DecidableEq, Repr

namespace CharSet

/-- The greatest code point. -/
def last : Nat := 0x10FFFF

def empty : CharSet := ⟨[]⟩

def any : CharSet := ⟨[(0, last)]⟩

def isEmpty (s : CharSet) : Bool := s.ranges.isEmpty

def contains (s : CharSet) (c : Nat) : Bool :=
  s.ranges.any fun (lo, hi) => decide (lo ≤ c) && decide (c ≤ hi)

/-- Joins one range with the joined ranges after it as far as they touch. -/
def absorb (lo hi : Nat) : List (Nat × Nat) → List (Nat × Nat)
  | [] => [(lo, hi)]
  | (lo', hi') :: rest =>
    if lo' ≤ hi + 1 then absorb lo (max hi hi') rest else (lo, hi) :: absorb lo' hi' rest

/-- The set of all code points in some ranges. -/
def ofRanges (rs : List (Nat × Nat)) : CharSet :=
  match (rs.filter fun (lo, hi) => decide (lo ≤ hi)).mergeSort fun a b => decide (a.1 ≤ b.1) with
  | [] => ⟨[]⟩
  | (lo, hi) :: rest => ⟨absorb lo hi rest⟩

def single (c : Nat) : CharSet := ⟨[(c, c)]⟩

/-- The gaps of sorted ranges from `start` on. -/
def gaps (start : Nat) : List (Nat × Nat) → List (Nat × Nat)
  | [] => if start ≤ last then [(start, last)] else []
  | (lo, hi) :: rest =>
    if start < lo then (start, lo - 1) :: gaps (hi + 1) rest else gaps (hi + 1) rest

def complement (s : CharSet) : CharSet := ⟨gaps 0 s.ranges⟩

def union (s t : CharSet) : CharSet := ofRanges (s.ranges ++ t.ranges)

def inter (s t : CharSet) : CharSet := (s.complement.union t.complement).complement

def diff (s t : CharSet) : CharSet := s.inter t.complement

def symmDiff (s t : CharSet) : CharSet := (s.diff t).union (t.diff s)

/-- The code points of a set that are characters: all but the surrogates. -/
def characters (s : CharSet) : CharSet :=
  ⟨s.ranges.flatMap fun (lo, hi) =>
    (if lo < 0xD800 then [(lo, min hi 0xD7FF)] else [])
      ++ (if 0xDFFF < hi then [(max lo 0xE000, hi)] else [])⟩

/-- Whether a set holds ASCII characters only. -/
def isAscii (s : CharSet) : Bool := s.ranges.all fun (_, hi) => decide (hi < 0x80)

/-- Reads one range such as `41-5A` or `AA`. -/
def rangeOfText (s : List Char) : Nat × Nat :=
  let value (ds : List Char) : Nat := (Hexadecimal.number? ds).getD 0
  let lo := value (s.takeWhile (· != '-'))
  match s.dropWhile (· != '-') with
  | [] => (lo, lo)
  | _ :: hi => (lo, value hi)

/-- The words of a table entry, separated by spaces and line feeds. -/
def entryWords (s : String) : List String :=
  ((s.splitOn "\n").flatMap fun line => line.splitOn " ").filter (· != "")

/-- Reads ranges in increasing order, separated by spaces and line feeds. -/
def ofText (s : String) : CharSet := ⟨(entryWords s).map fun w => rangeOfText w.toList⟩

end CharSet

end Endpoint.Unicode
