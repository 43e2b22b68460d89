import Endpoint.Json.Syntax

/-!
# The small parts of TOML

White space, comments, strings and keys.  A reader takes the characters at the front and
gives what it read together with those that follow.
-/

namespace Endpoint.Toml

/-- Reads something at the front of a list of characters. -/
abbrev Reader (α : Type) := List Char → Option (α × List Char)

def isSpace (c : Char) : Bool := c == ' ' || c == '\t'

def skipSpace (s : List Char) : List Char := s.dropWhile isSpace

/-- Whether a character may stand in a comment or a literal string. -/
def isText (c : Char) : Bool := c == '\t' || (decide (0x20 ≤ c.toNat) && c.toNat != 0x7F)

/-- What follows a line break. -/
def newline? : List Char → Option (List Char)
  | '\n' :: rest => some rest
  | '\r' :: '\n' :: rest => some rest
  | _ => none

/-- Drops a comment, if there is one. -/
def skipComment : List Char → List Char
  | '#' :: rest => rest.dropWhile isText
  | s => s

/-- Drops white space, comments and line breaks. -/
def skipLines : Nat → List Char → List Char
  | 0, s => s
  | fuel + 1, s =>
    let s := skipComment (skipSpace s)
    match newline? s with
    | some rest => skipLines fuel rest
    | none => s

/-- The end of a line: white space, perhaps a comment, and a line break or the end. -/
def lineEnd? (s : List Char) : Option (List Char) :=
  let s := skipComment (skipSpace s)
  if s.isEmpty then some [] else newline? s

/-- The character whose code point `count` hexadecimal digits give. -/
def readCodePoint : Nat → Nat → Reader Char
  | 0, n, s => if n < 0xD800 ∨ (0xDFFF < n ∧ n < 0x110000) then some (Char.ofNat n, s) else none
  | _ + 1, _, [] => none
  | count + 1, n, c :: rest =>
    (Hexadecimal.digit? c).bind fun d => readCodePoint count (16 * n + d) rest

/-- The character of an escape, from after its backslash. -/
def readEscape : Reader Char
  | [] => none
  | c :: rest =>
    match c with
    | 'b' => some ('\x08', rest)
    | 't' => some ('\t', rest)
    | 'n' => some ('\n', rest)
    | 'f' => some ('\x0c', rest)
    | 'r' => some ('\r', rest)
    | '"' => some ('"', rest)
    | '\\' => some ('\\', rest)
    | 'u' => readCodePoint 4 0 rest
    | 'U' => readCodePoint 8 0 rest
    | _ => none

/-- A string on one line, from after its opening quote. -/
def readBasic : Nat → Reader (List Char)
  | 0, _ => none
  | _ + 1, [] => none
  | fuel + 1, c :: rest =>
    if c = '"' then some ([], rest)
    else if c = '\\' then
      (readEscape rest).bind fun (x, rest) => (readBasic fuel rest).map fun (xs, r) => (x :: xs, r)
    else if isText c then (readBasic fuel rest).map fun (xs, r) => (c :: xs, r)
    else none

/-- A string without escapes on one line, from after its opening apostrophe. -/
def readLiteral (s : List Char) : Option (List Char × List Char) :=
  let text := s.takeWhile fun c => isText c && c != '\''
  match s.drop text.length with
  | '\'' :: rest => some (text, rest)
  | _ => none

/-- Drops white space and line breaks. -/
def skipBlankLines : Nat → List Char → List Char
  | 0, s => s
  | fuel + 1, s =>
    match newline? (skipSpace s) with
    | some rest => skipBlankLines fuel rest
    | none => skipSpace s

/-- What follows a backslash at the end of a line: white space and line breaks are dropped. -/
def skipContinuation (s : List Char) : Option (List Char) :=
  (newline? (skipSpace s)).map fun rest => skipBlankLines (rest.length + 1) rest

/-- A string over several lines, from after its opening quotes.  Up to two quotes may stand
    before the three that close it. -/
def readMultiline (quote : Char) : Nat → Reader (List Char)
  | 0, _ => none
  | _ + 1, [] => none
  | fuel + 1, c :: rest =>
    if c = quote then
      let quotes := (c :: rest).takeWhile (· == quote)
      if 6 ≤ quotes.length then none
      else if 3 ≤ quotes.length then
        some (List.replicate (quotes.length - 3) quote, (c :: rest).drop quotes.length)
      else (readMultiline quote fuel rest).map fun (xs, r) => (c :: xs, r)
    else if quote = '"' ∧ c = '\\' then
      match skipContinuation rest with
      | some rest => readMultiline quote fuel rest
      | none =>
        (readEscape rest).bind fun (x, rest) =>
          (readMultiline quote fuel rest).map fun (xs, r) => (x :: xs, r)
    else
      match newline? (c :: rest) with
      | some rest => (readMultiline quote fuel rest).map fun (xs, r) => ('\n' :: xs, r)
      | none =>
        if isText c then (readMultiline quote fuel rest).map fun (xs, r) => (c :: xs, r) else none

/-- Drops a line break at the front. -/
def trimNewline (s : List Char) : List Char := (newline? s).getD s

/-- A string of any form. -/
def readString (s : List Char) : Option (List Char × List Char) :=
  match s with
  | '"' :: '"' :: '"' :: rest => readMultiline '"' (rest.length + 1) (trimNewline rest)
  | '\'' :: '\'' :: '\'' :: rest => readMultiline '\'' (rest.length + 1) (trimNewline rest)
  | '"' :: rest => readBasic (rest.length + 1) rest
  | '\'' :: rest => readLiteral rest
  | _ => none

def isBareKey (c : Char) : Bool := c.isAlphanum || c == '_' || c == '-'

/-- One part of a key. -/
def readKeyPart (s : List Char) : Option (String × List Char) :=
  match s with
  | '"' :: rest => (readBasic (rest.length + 1) rest).map fun (xs, r) => (String.ofList xs, r)
  | '\'' :: rest => (readLiteral rest).map fun (xs, r) => (String.ofList xs, r)
  | s =>
    let key := s.takeWhile isBareKey
    if key.isEmpty then none else some (String.ofList key, s.drop key.length)

/-- How many parts a key may have, and how deep arrays and inline tables may stand inside one
    another. -/
def depthLimit : Nat := 79

/-- The parts of a key, joined by points, of which there may be so many. -/
def readParts : Nat → Reader (List String)
  | 0, _ => none
  | room + 1, s =>
    match readKeyPart (skipSpace s) with
    | none => none
    | some (part, rest) =>
      match skipSpace rest with
      | '.' :: rest => (readParts room rest).map fun (parts, r) => (part :: parts, r)
      | rest => some ([part], rest)

/-- A key in parts. -/
def readKey : Reader (List String) := readParts depthLimit

end Endpoint.Toml
