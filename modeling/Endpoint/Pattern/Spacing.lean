import Endpoint.Text.Blank

/-!
# Blanks inside patterns

With the flag for spaced patterns, white space does not count, and a number sign begins a
comment that ends with its line.  `spanSpaced` reads characters between which such space is
skipped; what it leaves is never longer than what it was given.
-/

namespace Endpoint

/-- Skips white space and comments; the flag says whether a comment has begun. -/
def dropSpace (comment : Bool) : List Char → List Char
  | [] => []
  | c :: rest =>
    if comment then dropSpace (c != '\n') rest
    else if isBlank c then dropSpace false rest
    else if c = '#' then dropSpace true rest
    else c :: rest

theorem length_dropSpace_le (comment : Bool) (s : List Char) :
    (dropSpace comment s).length ≤ s.length := by
  induction s generalizing comment with
  | nil => exact Nat.le_refl 0
  | cons c rest ih =>
    unfold dropSpace
    split
    · exact Nat.le_succ_of_le (ih _)
    · split
      · exact Nat.le_succ_of_le (ih _)
      · split
        · exact Nat.le_succ_of_le (ih _)
        · exact Nat.le_refl _

/-- Skips white space and comments where they do not count. -/
def skipSpace (spaced : Bool) (s : List Char) : List Char :=
  if spaced then dropSpace false s else s

theorem length_skipSpace_le (spaced : Bool) (s : List Char) :
    (skipSpace spaced s).length ≤ s.length := by
  unfold skipSpace
  split
  · exact length_dropSpace_le _ _
  · exact Nat.le_refl _

/-- Drops a character and the space after it. -/
def dropChar (spaced : Bool) (s : List Char) : List Char := skipSpace spaced (s.drop 1)

/-- The characters at the front that meet a condition, without the space after each of
    them, and what follows. -/
def spanSpaced (spaced : Bool) (p : Char → Bool) : List Char → List Char × List Char
  | [] => ([], [])
  | c :: rest =>
    if p c then
      let (cs, after) := spanSpaced spaced p (skipSpace spaced rest)
      (c :: cs, after)
    else ([], c :: rest)
termination_by s => s.length
decreasing_by exact Nat.lt_succ_of_le (length_skipSpace_le spaced rest)

/-- The first character after one that is to be looked at only.  A number sign and the
    white space after it are passed over, but not the comment that it begins. -/
def peekAfter (spaced : Bool) (s : List Char) : Option Char :=
  if !spaced then s.head?
  else
    match s.dropWhile isBlank with
    | '#' :: rest => (rest.dropWhile isBlank).head?
    | rest => rest.head?

end Endpoint
