import Endpoint.Pattern.Property

/-!
# Patterns as they are written

The tree of a pattern's text, before the flags in it are applied: sets in brackets with
their operators, repetitions, groups, sequences and choices.  Every tree has a depth, and
`Layered` keeps a tree together with a depth that is not beyond the limit.
-/

namespace Endpoint

/-- What a flag letter changes. -/
inductive Flag where
  | ignoreCase
  | multiLine
  | dotAll
  | swapGreed
  | unicode
  | crlf
  | spaced
  deriving DecidableEq, Repr

/-- The flag of a letter. -/
def Flag.ofChar? : Char → Option Flag
  | 'i' => some .ignoreCase
  | 'm' => some .multiLine
  | 's' => some .dotAll
  | 'U' => some .swapGreed
  | 'u' => some .unicode
  | 'R' => some .crlf
  | 'x' => some .spaced
  | _ => none

/-- Flags that are switched on or off, in the order in which they are written. -/
abbrev FlagChanges := List (Flag × Bool)

/-- The value that some changes give to a flag, if they mention it. -/
def FlagChanges.value? (changes : FlagChanges) (flag : Flag) : Option Bool :=
  (changes.find? fun (f, _) => f == flag).map Prod.snd

/-- A character of a pattern that stands for itself. -/
structure WrittenChar where
  char : Char
  /-- written with two hexadecimal digits, so that it may stand for a byte -/
  twoDigits : Bool := false
  deriving DecidableEq, Repr

/-- What the class letters `d`, `s` and `w` stand for. -/
inductive ClassLetter where
  | digit
  | space
  | word
  deriving DecidableEq, Repr

/-- Operators between the sets inside brackets. -/
inductive SetOperator where
  | inter
  | diff
  | symmDiff
  deriving DecidableEq, Repr

/-- A set of characters as it is written. -/
inductive SetTree where
  | char (c : WrittenChar)
  | range (first last : WrittenChar)
  /-- a named ASCII class such as `[:alpha:]`, by its members -/
  | ascii (negated : Bool) (members : Unicode.CharSet)
  | letter (negated : Bool) (kind : ClassLetter)
  | property (negated : Bool) (name : PropertyName)
  | bracket (negated : Bool) (inner : SetTree)
  | union (items : List SetTree)
  | combine (op : SetOperator) (left right : SetTree)

/-- A sign for a condition on a place in the text. -/
inductive PlaceSign where
  | caret
  | dollar
  | textStart
  | textEnd
  | word
  | notWord
  | wordStart
  | wordEnd
  | wordStartHalf
  | wordEndHalf
  deriving DecidableEq, Repr

/-- A pattern as it is written. -/
inductive PatternTree where
  | empty
  | flags (changes : FlagChanges)
  | char (c : WrittenChar)
  | dot
  | place (sign : PlaceSign)
  | set (s : SetTree)
  | repeat (least : Nat) (most : Option Nat) (lazy : Bool) (t : PatternTree)
  | capture (index : Nat) (t : PatternTree)
  | group (changes : FlagChanges) (t : PatternTree)
  | concat (ts : List PatternTree)
  | alt (ts : List PatternTree)

/-- A tree with its depth: how many brackets, repetitions, groups, sequences and choices
    stand inside each other at most. -/
structure Layered (α : Type) where
  tree : α
  depth : Nat

namespace Layered

variable {α β : Type}

/-- How deep a pattern may nest. -/
def limit : Nat := 250

/-- A tree without parts. -/
def leaf (a : α) : Layered α := ⟨a, 0⟩

/-- Puts one more layer around a tree, within the limit. -/
def wrap (f : α → β) (t : Layered α) : Option (Layered β) :=
  if t.depth < limit then some ⟨f t.tree, t.depth + 1⟩ else none

/-- Joins trees under one more layer; one tree alone stays as it is. -/
def join (nothing : α) (f : List α → α) : List (Layered α) → Option (Layered α)
  | [] => some (leaf nothing)
  | [t] => some t
  | ts =>
    let deepest := ts.foldl (fun d t => max d t.depth) 0
    if deepest < limit then some ⟨f (ts.map tree), deepest + 1⟩ else none

end Layered

end Endpoint
