import Endpoint.Json.Basic
import Endpoint.Text.Blank
import Endpoint.Text.Utf8
import Endpoint.Unicode.Alphanumeric

/-!
# Files of environment variables

Such a file sets variables line by line, `name=value`, with an optional `export` before the
name.  A value may be quoted, may hold escapes outside of single quotes, and may refer to
variables with a dollar sign; a quoted value may go over several lines.  A number sign after
white space starts a comment.
-/

namespace Endpoint.Dotenv

/-- A line that cannot be understood, and the place that is to blame; or bytes that are not
    text. -/
inductive LineError where
  | line (text : String) (index : Nat)
  | notText
  deriving DecidableEq, Repr

def LineError.message : LineError → String
  | line text index =>
    "Error parsing line: '" ++ text ++ "', error at line index: " ++ toString index
  | notText => "stream did not contain valid UTF-8"

/-- What is open at a place in a file. -/
inductive Scan where
  | complete
  | space
  | escape
  | weak
  | weakEscape
  | strong
  | strongEscape
  deriving DecidableEq, Repr

namespace Scan

/-- What a quote or a backslash opens. -/
def open? (c : Char) : Option Scan :=
  if c = '\\' then some escape
  else if c = '"' then some weak
  else if c = '\'' then some strong
  else none

/-- What is open after one more character. -/
def next (s : Scan) (c : Char) : Scan :=
  match s with
  | complete =>
    if isBlank c ∧ c ≠ '\n' ∧ c ≠ '\r' then space else (open? c).getD complete
  | space => (open? c).getD complete
  | escape => complete
  | weak => if c = '\\' then weakEscape else if c = '"' then complete else weak
  | weakEscape => weak
  | strong => if c = '\\' then strongEscape else if c = '\'' then complete else strong
  | strongEscape => strong

/-- Goes over the characters of a line.  If a comment starts there, gives what stands before
    it; else what is open in the end. -/
def scanLine (before : List Char) (s : Scan) : List Char → List Char ⊕ Scan
  | [] => .inr s
  | c :: rest =>
    if s = space ∧ c = '#' then .inl before.reverse else scanLine (c :: before) (s.next c) rest

end Scan

/-- The lines of a file with their line feeds. -/
def physicalLines : List UInt8 → List (List UInt8)
  | [] => []
  | b :: rest =>
    if b = 0x0A then [0x0A] :: physicalLines rest
    else
      match physicalLines rest with
      | [] => [[b]]
      | line :: lines => (b :: line) :: lines

/-- A line without its line feed, and without a carriage return before that. -/
def dropLineFeed (line : List Char) : List Char :=
  match line.reverse with
  | '\n' :: '\r' :: rest => rest.reverse
  | '\n' :: rest => rest.reverse
  | _ => line

/-- Joins lines while something is open; `buffer` holds those joined so far. -/
def joinLines (buffer : List Char) (s : Scan) :
    List (List UInt8) → List (Except LineError (List Char))
  | [] =>
    if s = .complete then []
    else
      let text := String.ofList buffer
      [.error (.line text text.utf8ByteSize)]
  | bytes :: rest =>
    match Utf8.decode? ⟨bytes.toArray⟩ with
    | none => [.error .notText]
    | some text =>
      let whole := buffer ++ text.toList
      if (whole.dropWhile isBlank).head? = some '#' then .ok [] :: joinLines [] .complete rest
      else
        match Scan.scanLine [] s text.toList with
        | .inl before => .ok (buffer ++ before) :: joinLines [] .complete rest
        | .inr .complete => .ok (dropLineFeed whole) :: joinLines [] .complete rest
        | .inr s => joinLines whole s rest

/-- What is read of a value beside its text: how variables are looked up. -/
abbrev Lookup := String → String

/-- How a reference to a variable is being read. -/
inductive Reference where
  | absent
  | bare
  | braced
  deriving DecidableEq, Repr

/-- How far a value has been read. -/
structure ValueState where
  output : List Char
  strong : Bool
  weak : Bool
  escaped : Bool
  ending : Bool
  reference : Reference
  name : List Char

namespace ValueState

/-- Nothing read yet. -/
def start : ValueState := ⟨[], false, false, false, false, .absent, []⟩

/-- Appends a character. -/
def push (v : ValueState) (c : Char) : ValueState := { v with output := v.output ++ [c] }

/-- Appends the value of the variable referred to. -/
def resolve (v : ValueState) (lookup : Lookup) : ValueState :=
  { v with
    output := v.output ++ (lookup (String.ofList v.name)).toList
    name := []
    reference := .absent }

/-- The character that an escape stands for. -/
def escapeChar? (c : Char) : Option Char :=
  if c = 'n' then some '\n'
  else if ['\\', '\'', '"', '$', ' '].contains c then some c
  else none

/-- Takes a character of a reference. -/
def stepReference (v : ValueState) (lookup : Lookup) (c : Char) : ValueState :=
  if Unicode.isAlphanumeric c then { v with name := v.name ++ [c] }
  else
    match v.reference with
    | .braced => if c = '\x7d' then v.resolve lookup else { v with name := v.name ++ [c] }
    | _ =>
      if c = '\x7b' ∧ v.name = [] then { v with reference := .braced }
      else if c = '$' then { v.resolve lookup with reference := .bare }
      else (v.resolve lookup).push c

/-- Takes a character outside of quotes. -/
def stepPlain (v : ValueState) (c : Char) : ValueState :=
  if c = '\'' then { v with strong := true }
  else if c = '"' then { v with weak := true }
  else if c = '\\' then { v with escaped := true }
  else if c = ' ' ∨ c = '\t' then { v with ending := true }
  else v.push c

/-- Takes a character; none if it may not stand there. -/
def step (v : ValueState) (lookup : Lookup) (c : Char) : Option ValueState :=
  if v.ending then if c = ' ' ∨ c = '\t' then some v else none
  else if v.escaped then (escapeChar? c).map fun x => { v.push x with escaped := false }
  else if v.strong then some (if c = '\'' then { v with strong := false } else v.push c)
  else if v.reference ≠ .absent then some (v.stepReference lookup c)
  else if c = '$' then some { v with reference := .bare }
  else if v.weak then
    some (if c = '"' then { v with weak := false }
      else if c = '\\' then { v with escaped := true }
      else v.push c)
  else some (v.stepPlain c)

end ValueState

/-- Reads the characters of a value from an index on. -/
def readValueFrom (input : String) (lookup : Lookup) (index : Nat) (v : ValueState) :
    List Char → Except LineError ValueState
  | [] => .ok v
  | c :: rest =>
    if v.ending ∧ c = '#' then .ok v
    else
      match v.step lookup c with
      | some v => readValueFrom input lookup (index + 1) v rest
      | none => .error (.line input index)

/-- Reads a value. -/
def readValue (lookup : Lookup) (s : List Char) : Except LineError String := do
  let input := String.ofList s
  let v ← readValueFrom input lookup 0 .start s
  if v.reference = .braced ∨ v.strong ∨ v.weak then throw (.line input (input.utf8ByteSize - 1))
  else pure (String.ofList (v.resolve lookup).output)

def isNameStart (c : Char) : Bool := c.isAlpha || c == '_'

def isNameChar (c : Char) : Bool := c.isAlphanum || c == '_' || c == '.'

/-- How many bytes a line has before a rest of it. -/
def placeOf (line rest : List Char) : Nat :=
  (String.ofList (line.take (line.length - rest.length))).utf8ByteSize

/-- Reads a name and the white space after it. -/
def readName (written : String) (line s : List Char) : Except LineError (String × List Char) :=
  match s with
  | [] => .error (.line written (placeOf line s))
  | c :: _ =>
    if isNameStart c then
      .ok (String.ofList (s.takeWhile isNameChar), (s.dropWhile isNameChar).dropWhile isBlank)
    else .error (.line written (placeOf line s))

/-- Reads an equals sign. -/
def readEquals (written : String) (line s : List Char) : Except LineError (List Char) :=
  match s with
  | '=' :: rest => .ok rest
  | s => .error (.line written (placeOf line s))

/-- Reads the name of a line with its equals sign; `export` may stand before it. -/
def readHead (written : String) (line s : List Char) : Except LineError (String × List Char) := do
  let (name, rest) ← readName written line s
  match name, rest with
  | name, '=' :: rest => pure (name, rest)
  | "export", rest => do
    let (name, rest) ← readName written line rest
    let rest ← readEquals written line rest
    pure (name, rest)
  | _, rest => throw (.line written (placeOf line rest))

/-- Reads a line: a name and a value, or nothing. -/
def readLine (lookup : Lookup) (line : List Char) : Except LineError (Option (String × String)) :=
  let trimmed := (line.reverse.dropWhile isBlank).reverse
  let s := trimmed.dropWhile isBlank
  if s = [] ∨ s.head? = some '#' then .ok none
  else do
    let (name, rest) ← readHead (String.ofList line) trimmed s
    let rest := rest.dropWhile isBlank
    if rest = [] ∨ rest.head? = some '#' then pure (some (name, ""))
    else
      let value ← readValue lookup rest
      pure (some (name, value))

/-- Sets variables line by line; those that are set already stay as they are.  A reference is
    to a variable of the environment, else to one of an earlier line. -/
def loadLines (environment earlier : Entries String) :
    List (Except LineError (List Char)) → Except LineError (Entries String)
  | [] => .ok environment
  | .error e :: _ => .error e
  | .ok line :: rest => do
    let lookup : Lookup := fun name =>
      ((Entries.get? name environment).orElse fun _ => Entries.get? name earlier).getD ""
    match ← readLine lookup line with
    | none => loadLines environment earlier rest
    | some (name, value) =>
      let environment :=
        if (Entries.get? name environment).isSome then environment
        else Entries.insert name value environment
      loadLines environment (Entries.insert name value earlier) rest

/-- The bytes of a file without a mark of their order at the front. -/
def dropMark (bytes : List UInt8) : List UInt8 :=
  match bytes with
  | 0xEF :: 0xBB :: 0xBF :: rest => rest
  | bytes => bytes

/-- Adds the variables of a file to an environment. -/
def load (file : List UInt8) (environment : Entries String) : Except LineError (Entries String) :=
  loadLines environment [] (joinLines [] .complete (physicalLines (dropMark file)))

end Endpoint.Dotenv
