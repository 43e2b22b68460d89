import Endpoint.Json.Basic
import Endpoint.Number.Hexadecimal
import Endpoint.Number.Digits

/-!
# Writing JSON

Two layouts of one value: compact, and indented with one line per item or entry.  They
differ only by line feeds, indents and the space after a colon.  Strings escape quotes,
backslashes and control characters and nothing else; numbers that are not finite are
written as `null`.
-/

namespace Endpoint.Json

/-- One character of a string. -/
def escapeChar (c : Char) : List Char :=
  match c with
  | '"' => ['\\', '"']
  | '\\' => ['\\', '\\']
  | '\x08' => ['\\', 'b']
  | '\x0c' => ['\\', 'f']
  | '\n' => ['\\', 'n']
  | '\r' => ['\\', 'r']
  | '\t' => ['\\', 't']
  | c => if c.toNat < 0x20 then '\\' :: 'u' :: Hexadecimal.digits 4 c.toNat else [c]

/-- A string with its quotes. -/
def writeString (s : String) : List Char :=
  '"' :: (s.toList.flatMap escapeChar ++ ['"'])

/-- The text of an integer. -/
def writeInt (i : Int) : List Char :=
  if i < 0 then '-' :: Nat.toDigits 10 i.natAbs else Nat.toDigits 10 i.natAbs

/-- The text of a float, `null` for one that is not finite. -/
def writeFloat (x : Binary64) : List Char := (FloatLayout.json.write x).toList

/-- How the parts of arrays and objects are set apart. -/
structure Layout where
  /-- what stands before each item and before the closing bracket, by nesting level -/
  lineBreak : Nat → List Char
  /-- what stands between a key and its value -/
  colon : List Char

/-- Everything on one line. -/
def Layout.compact : Layout := ⟨fun _ => [], [':']⟩

/-- One line per item, indented by its nesting level. -/
def Layout.indented (indent : String) : Layout :=
  ⟨fun level => '\n' :: (List.replicate level indent.toList).flatten, [':', ' ']⟩

mutual

/-- The text of a value whose enclosing brackets number `level`. -/
def writeAt (l : Layout) (level : Nat) : Json → List Char
  | null => "null".toList
  | bool true => "true".toList
  | bool false => "false".toList
  | int i => writeInt i
  | float x => writeFloat x
  | str s => writeString s
  | arr [] => ['[', ']']
  | arr (item :: rest) =>
    '[' :: (l.lineBreak (level + 1) ++ writeAt l (level + 1) item ++ writeItems l (level + 1) rest
      ++ l.lineBreak level ++ [']'])
  | obj [] => ['\x7b', '\x7d']
  | obj ((key, value) :: rest) =>
    '\x7b' :: (l.lineBreak (level + 1) ++ writeString key ++ l.colon ++ writeAt l (level + 1) value
      ++ writeEntries l (level + 1) rest ++ l.lineBreak level ++ ['\x7d'])

/-- The items after the first. -/
def writeItems (l : Layout) (level : Nat) : List Json → List Char
  | [] => []
  | item :: rest => ',' :: (l.lineBreak level ++ writeAt l level item ++ writeItems l level rest)

/-- The entries after the first. -/
def writeEntries (l : Layout) (level : Nat) : List (String × Json) → List Char
  | [] => []
  | (key, value) :: rest =>
    ',' :: (l.lineBreak level ++ writeString key ++ l.colon ++ writeAt l level value
      ++ writeEntries l level rest)

end

/-- The text of a value in a layout. -/
def write (l : Layout) (j : Json) : String := String.ofList (writeAt l 0 j)

/-- The text of a value on one line. -/
def compact (j : Json) : String := j.write .compact

end Endpoint.Json
