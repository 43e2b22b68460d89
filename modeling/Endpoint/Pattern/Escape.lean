import Endpoint.Number.Hexadecimal
import Endpoint.Pattern.Spacing
import Endpoint.Pattern.Tree

/-!
# Escape sequences of patterns

What may follow a backslash: a sign that loses its special meaning, a control character, a
character by its hexadecimal number, a class or property, or a condition on a place.
-/

namespace Endpoint

/-- What an escape sequence stands for. -/
inductive Escape where
  | char (c : WrittenChar)
  | set (s : SetTree)
  | place (sign : PlaceSign)

namespace Escape

/-- The character of a code point, if there is one. -/
def scalarChar? (n : Nat) : Option Char :=
  if n < 0xD800 ∨ (0xDFFF < n ∧ n ≤ 0x10FFFF) then some (Char.ofNat n) else none

/-- Reads exactly `count` hexadecimal digits, with skipped space after each. -/
def hexDigits? (spaced : Bool) : Nat → List Char → Option (List Char × List Char)
  | 0, s => some ([], s)
  | _ + 1, [] => none
  | count + 1, c :: rest =>
    if Hexadecimal.isDigit c then
      (hexDigits? spaced count (skipSpace spaced rest)).map fun (ds, after) => (c :: ds, after)
    else none

/-- The character that hexadecimal digits give. -/
def hexChar? (ds : List Char) : Option Char := (Hexadecimal.number? ds).bind scalarChar?

/-- Reads the rest of a hexadecimal escape: a fixed number of digits, or any number of them
    in braces. -/
def readHex (spaced : Bool) (count : Nat) (s : List Char) : Option (Escape × List Char) :=
  match s with
  | '\x7b' :: rest =>
    let (ds, after) := spanSpaced spaced (· != '\x7d') (skipSpace spaced rest)
    if after.isEmpty then none
    else (hexChar? ds).map fun c => (.char ⟨c, false⟩, dropChar spaced after)
  | s =>
    (hexDigits? spaced count s).bind fun (ds, after) =>
      (hexChar? ds).map fun c => (.char ⟨c, count == 2⟩, after)

/-- Reads the name of a property: one character, or a text in braces. -/
def readProperty (spaced negated : Bool) (s : List Char) : Option (Escape × List Char) :=
  match s with
  | [] | '\\' :: _ => none
  | '\x7b' :: rest =>
    let (name, after) := spanSpaced spaced (· != '\x7d') (skipSpace spaced rest)
    if after.isEmpty then none
    else some (.set (.property negated (.ofChars name)), after.drop 1)
  | c :: rest => some (.set (.property negated (.plain (String.singleton c))), rest)

/-- Whether a character stands for itself after a backslash: ASCII signs do, but for the
    angle brackets. -/
def isEscapable (c : Char) : Bool :=
  decide (c.toNat < 0x80) && !c.isAlphanum && c != '<' && c != '>'

/-- The names of word conditions that stand in braces. -/
def namedPlaces : List (String × PlaceSign) :=
  [("start", .wordStart), ("end", .wordEnd), ("start-half", .wordStartHalf),
    ("end-half", .wordEndHalf)]

/-- Reads what follows the sign for a word boundary: a name in braces makes it another
    condition, while braces that hold no name are left for a repetition. -/
def readBoundary (spaced : Bool) (s : List Char) : Option (Escape × List Char) :=
  match s with
  | '\x7b' :: rest =>
    let isNameChar (c : Char) : Bool := c.isAlpha || c == '-'
    match skipSpace spaced rest with
    | [] => none
    | c :: inner =>
      if !isNameChar c then some (.place .word, s)
      else
        match spanSpaced spaced isNameChar (c :: inner) with
        | (name, '\x7d' :: after) =>
          (namedPlaces.find? fun (n, _) => n == String.ofList name).map
            fun (_, sign) => (.place sign, after)
        | _ => none
  | s => some (.place .word, s)

/-- The letters that stand for one character or one place. -/
def ofLetter? : Char → Option Escape
  | 'a' => some (.char ⟨'\x07', false⟩)
  | 'f' => some (.char ⟨'\x0c', false⟩)
  | 't' => some (.char ⟨'\t', false⟩)
  | 'n' => some (.char ⟨'\n', false⟩)
  | 'r' => some (.char ⟨'\r', false⟩)
  | 'v' => some (.char ⟨'\x0b', false⟩)
  | 'd' => some (.set (.letter false .digit))
  | 's' => some (.set (.letter false .space))
  | 'w' => some (.set (.letter false .word))
  | 'D' => some (.set (.letter true .digit))
  | 'S' => some (.set (.letter true .space))
  | 'W' => some (.set (.letter true .word))
  | 'A' => some (.place .textStart)
  | 'z' => some (.place .textEnd)
  | 'B' => some (.place .notWord)
  | '<' => some (.place .wordStart)
  | '>' => some (.place .wordEnd)
  | _ => none

/-- Reads an escape sequence from after the backslash. -/
def read? (spaced : Bool) : List Char → Option (Escape × List Char)
  | [] => none
  | c :: rest =>
    match c with
    | 'x' => readHex spaced 2 (skipSpace spaced rest)
    | 'u' => readHex spaced 4 (skipSpace spaced rest)
    | 'U' => readHex spaced 8 (skipSpace spaced rest)
    | 'p' => readProperty spaced false (skipSpace spaced rest)
    | 'P' => readProperty spaced true (skipSpace spaced rest)
    | 'b' => readBoundary spaced rest
    | c =>
      if isEscapable c then some (.char ⟨c, false⟩, rest)
      else (ofLetter? c).map fun e => (e, rest)

end Escape

end Endpoint
