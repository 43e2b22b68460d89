import Endpoint.Number.Reading

/-!
# Field paths

A path names a field of a structured value: names joined by points, each name followed by
any number of indices in brackets, as in `tracks[2].title`.
-/

namespace Endpoint

/-- One step of a path. -/
inductive Segment where
  | name (s : String)
  | index (n : Nat)
  deriving DecidableEq, Repr

/-- Why a text is not a path. -/
inductive PathError where
  | emptyPath
  | emptyName
  | unclosedIndex
  | badIndex
  | textAfterIndex
  deriving DecidableEq, Repr

namespace PathError

def reason : PathError → String
  | emptyPath => "path is empty"
  | emptyName => "empty field name"
  | unclosedIndex => "unclosed index"
  | badIndex => "index is not a number"
  | textAfterIndex => "unexpected text after index"

/-- What is said of a text that is not a path. -/
def message (path : String) (e : PathError) : String :=
  "invalid field path '" ++ path ++ "': " ++ e.reason

end PathError

/-- A path as it was written, with its steps. -/
structure FieldPath where
  text : String
  segments : List Segment
  deriving DecidableEq, Repr

namespace FieldPath

/-- Reads an index: an unsigned number of 64 bits. -/
def readIndex? (s : List Char) : Option Nat :=
  (unsignedDigits? s).filter fun n => decide (n < 1 <<< 64)

/-- Reads the indices after a name, each of them in brackets. -/
def readIndices : List Char → Except PathError (List Segment)
  | [] => .ok []
  | c :: rest =>
    if c = '[' then
      if rest.contains ']' then
        match readIndex? (rest.takeWhile (· != ']')) with
        | none => .error .badIndex
        | some n => (readIndices ((rest.dropWhile (· != ']')).drop 1)).map (.index n :: ·)
      else .error .unclosedIndex
    else .error .textAfterIndex
termination_by s => s.length
decreasing_by
  have := (List.dropWhile_sublist (l := rest) (· != ']')).length_le
  simp only [List.length_drop, List.length_cons]
  omega

/-- Reads a name with its indices. -/
def readPart (part : List Char) : Except PathError (List Segment) :=
  let name := part.takeWhile (· != '[')
  if name.isEmpty then .error .emptyName
  else (readIndices (part.dropWhile (· != '['))).map
    (.name (String.ofList name) :: ·)

/-- Splits a text at every occurrence of a character. -/
def splitAt (sep : Char) : List Char → List (List Char)
  | [] => [[]]
  | c :: rest =>
    if c = sep then [] :: splitAt sep rest
    else
      match splitAt sep rest with
      | [] => [[c]]
      | part :: parts => (c :: part) :: parts

/-- Reads the parts of a path one after another. -/
def readParts : List (List Char) → Except PathError (List Segment)
  | [] => .ok []
  | part :: rest => do
    let here ← readPart part
    let others ← readParts rest
    pure (here ++ others)

/-- Reads a path. -/
def parse (text : String) : Except PathError FieldPath :=
  if text.isEmpty then .error .emptyPath
  else (readParts (splitAt '.' text.toList)).map fun segments => ⟨text, segments⟩

/-- The text of the steps after the first. -/
def renderRest : List Segment → List Char
  | [] => []
  | .name s :: rest => '.' :: (s.toList ++ renderRest rest)
  | .index n :: rest => '[' :: (Nat.toDigits 10 n ++ ']' :: renderRest rest)

/-- The text of some steps: names joined by points, indices in brackets. -/
def render : List Segment → List Char
  | [] => []
  | .name s :: rest => s.toList ++ renderRest rest
  | .index n :: rest => '[' :: (Nat.toDigits 10 n ++ ']' :: renderRest rest)

end FieldPath

end Endpoint
