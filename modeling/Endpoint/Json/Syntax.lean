import Endpoint.Json.Basic
import Endpoint.Number.Hexadecimal
import Endpoint.Number.Reading

/-!
# JSON text

`Document.read?` reads one JSON text from bytes.  Its result is a syntax tree that still
shows repeated keys, because some readers of a document refuse them and others do not.

Some texts are well formed but have no value: numbers out of range, strings that are not
well-formed Unicode, and arrays or objects nested deeper than `depthLimit`.  They stay in
the tree as `Document.novalue`, so that a reader may skip over them where the value does
not matter.  What numbers stand for and how deep values may be nested is no part of the
grammar: a `Dialect` says it.
-/

namespace Endpoint

/-- The syntax tree of a JSON text. -/
inductive Document where
  | null
  | bool (b : Bool)
  | int (i : Int)
  | float (x : Binary64)
  | str (s : String)
  | arr (items : List Document)
  | obj (entries : List (Option String × Document))
  | novalue

namespace Document

/-- How many arrays and objects may stand inside one another. -/
def depthLimit : Nat := 127

/-- A piece of a string: a byte of the text, or a 16-bit unit written as an escape. -/
inductive Piece where
  | byte (b : UInt8)
  | unit (n : Nat)

/-- The UTF-8 bytes of a code point. -/
def encodePoint (n : Nat) : List UInt8 :=
  if n < 0x80 then [UInt8.ofNat n]
  else if n < 0x800 then [UInt8.ofNat (0xC0 + n / 64), UInt8.ofNat (0x80 + n % 64)]
  else if n < 0x10000 then
    [UInt8.ofNat (0xE0 + n / 4096), UInt8.ofNat (0x80 + n / 64 % 64), UInt8.ofNat (0x80 + n % 64)]
  else
    [UInt8.ofNat (0xF0 + n / 262144), UInt8.ofNat (0x80 + n / 4096 % 64),
      UInt8.ofNat (0x80 + n / 64 % 64), UInt8.ofNat (0x80 + n % 64)]

/-- The bytes of a string; none when a surrogate stands alone. -/
def pieceBytes? : List Piece → Option (List UInt8)
  | [] => some []
  | .byte b :: rest => (pieceBytes? rest).map (b :: ·)
  | .unit n :: rest =>
    if n < 0xD800 ∨ 0xDFFF < n then (pieceBytes? rest).map (encodePoint n ++ ·)
    else if n ≤ 0xDBFF then
      match rest with
      | .unit m :: rest' =>
        if 0xDC00 ≤ m ∧ m ≤ 0xDFFF then
          (pieceBytes? rest').map
            (encodePoint (0x10000 + (n - 0xD800) * 0x400 + (m - 0xDC00)) ++ ·)
        else none
      | _ => none
    else none

/-- The text of a string; none when it is not well-formed Unicode. -/
def pieceText? (ps : List Piece) : Option String :=
  (pieceBytes? ps).bind fun bs => String.fromUTF8? ⟨bs.toArray⟩

def isBlankByte (b : UInt8) : Bool := b == 0x20 || b == 0x0A || b == 0x0D || b == 0x09

def skipBlanks (s : List UInt8) : List UInt8 := s.dropWhile isBlankByte

def isDigitByte (b : UInt8) : Bool := 0x30 ≤ b && b ≤ 0x39

def byteChars (bs : List UInt8) : List Char := bs.map fun b => Char.ofNat b.toNat

/-- The byte that a one-letter escape stands for. -/
def shortEscape? (b : UInt8) : Option UInt8 :=
  match Char.ofNat b.toNat with
  | '"' => some 0x22
  | '\\' => some 0x5C
  | '/' => some 0x2F
  | 'b' => some 0x08
  | 'f' => some 0x0C
  | 'n' => some 0x0A
  | 'r' => some 0x0D
  | 't' => some 0x09
  | _ => none

/-- The pieces of a string and what follows it, from after the opening quote. -/
def lexString : List UInt8 → Option (List Piece × List UInt8)
  | [] => none
  | b :: rest =>
    if b = 0x22 then some ([], rest)
    else if b = 0x5C then
      match rest with
      | [] => none
      | e :: rest =>
        if e = 0x75 then
          match rest with
          | a :: b :: c :: d :: rest =>
            (Hexadecimal.number? (byteChars [a, b, c, d])).bind fun n =>
              (lexString rest).map fun (ps, r) => (.unit n :: ps, r)
          | _ => none
        else
          match shortEscape? e with
          | some x => (lexString rest).map fun (ps, r) => (.byte x :: ps, r)
          | none => none
    else if b < 0x20 then none
    else (lexString rest).map fun (ps, r) => (.byte b :: ps, r)

/-- The text of a number, split into its parts. -/
structure NumberText where
  negative : Bool
  whole : List Char
  places : Option (List Char)
  power : Option (Bool × List Char)

/-- One or more digits and what follows them. -/
def lexDigits (s : List UInt8) : Option (List Char × List UInt8) :=
  let ds := s.takeWhile isDigitByte
  if ds.isEmpty then none else some (byteChars ds, s.dropWhile isDigitByte)

/-- The whole part of a number: a zero alone, or digits that start with another one. -/
def lexWhole (s : List UInt8) : Option (List Char × List UInt8) :=
  (lexDigits s).bind fun (ds, rest) =>
    if ds.head? = some '0' ∧ ds.length ≠ 1 then none else some (ds, rest)

/-- The digits after a point, if there is a point. -/
def lexPlaces (s : List UInt8) : Option (Option (List Char) × List UInt8) :=
  match s with
  | 0x2E :: rest => (lexDigits rest).map fun (ds, r) => (some ds, r)
  | _ => some (none, s)

/-- The exponent, if there is one; the flag says whether it is negative. -/
def lexPower (s : List UInt8) : Option (Option (Bool × List Char) × List UInt8) :=
  match s with
  | [] => some (none, [])
  | b :: rest =>
    if b = 0x65 ∨ b = 0x45 then
      let (negative, rest) : Bool × List UInt8 :=
        match rest with
        | 0x2B :: r => (false, r)
        | 0x2D :: r => (true, r)
        | r => (false, r)
      (lexDigits rest).map fun (ds, r) => (some (negative, ds), r)
    else some (none, s)

/-- A number and what follows it, from after its sign. -/
def lexNumber (negative : Bool) (s : List UInt8) : Option (NumberText × List UInt8) := do
  let (whole, s) ← lexWhole s
  let (places, s) ← lexPlaces s
  let (power, s) ← lexPower s
  some (⟨negative, whole, places, power⟩, s)

namespace NumberText

/-- Appends digits to a significand while it fits 64 bits; gives the digits left over. -/
def gather (significand : Nat) : List Char → Nat × List Char
  | [] => (significand, [])
  | c :: rest =>
    let next := 10 * significand + (c.toNat - 48)
    if next < 1 <<< 64 then gather next rest else (significand, c :: rest)

/-- The value of a number with a point or an exponent, or with more than 64 bits, by
    rounded scaling of the leading digits.  Exponents beyond 31 bits give zero or nothing. -/
def scaled? (t : NumberText) : Option Binary64 :=
  let (s, skipped) := gather 0 t.whole
  let places := t.places.getD []
  let (s', rest) := gather s places
  let start : Int := (skipped.length : Int) - ((places.length - rest.length : Nat) : Int)
  match t.power with
  | none => Scaled.read? t.negative s' start
  | some (negative, ds) =>
    let e := digitsValue 0 ds
    if 1 <<< 31 ≤ e then
      if s' = 0 ∨ negative then some ⟨t.negative, 0⟩ else none
    else Scaled.read? t.negative s' (if negative then start - e else start + e)

/-- The value of a number: an integer if it is written as one and fits 64 bits, except that
    minus zero is a float; otherwise a float, unless it is out of range. -/
def value (t : NumberText) : Document :=
  let n := digitsValue 0 t.whole
  if t.places.isNone && t.power.isNone && decide (n < 1 <<< 64) then
    if !t.negative then .int n
    else if 0 < n ∧ n ≤ 1 <<< 63 then .int (-(n : Int))
    else .float (Binary64.ofNat n).negate
  else
    match t.scaled? with
    | some x => .float x
    | none => .novalue

end NumberText

/-- What the grammar of JSON leaves to its readers. -/
structure Dialect where
  /-- the value of a number -/
  number : NumberText → Document
  /-- whether a value may stand inside so many arrays and objects -/
  admits : Nat → Bool

/-- Integers of at most 64 bits, rounded scaling of other numbers, and limited nesting. -/
def Dialect.bounded : Dialect := ⟨NumberText.value, fun level => decide (level < depthLimit)⟩

/-- Replaces a value by `novalue` when it is nested too deeply. -/
def Dialect.limited (l : Dialect) (level : Nat) (d : Document) : Document :=
  if l.admits level then d else .novalue

def stringValue (ps : List Piece) : Document :=
  match pieceText? ps with
  | some s => .str s
  | none => .novalue

/-- Drops an expected word from the front. -/
def dropWord (word : List UInt8) (s : List UInt8) : Option (List UInt8) :=
  if word.isPrefixOf s then some (s.drop word.length) else none

mutual

/-- Reads one value; `level` arrays and objects are open around it. -/
def readValue (l : Dialect) : Nat → Nat → List UInt8 → Option (Document × List UInt8)
  | 0, _, _ => none
  | fuel + 1, level, s =>
    match skipBlanks s with
    | [] => none
    | b :: rest =>
      if b = 0x22 then (lexString rest).map fun (ps, r) => (stringValue ps, r)
      else if b = 0x7B then
        match skipBlanks rest with
        | 0x7D :: r => some (l.limited level (.obj []), r)
        | r => (readEntries l fuel (level + 1) r).map fun (es, r) => (l.limited level (.obj es), r)
      else if b = 0x5B then
        match skipBlanks rest with
        | 0x5D :: r => some (l.limited level (.arr []), r)
        | r => (readItems l fuel (level + 1) r).map fun (ds, r) => (l.limited level (.arr ds), r)
      else if b = 0x2D then (lexNumber true rest).map fun (t, r) => (l.number t, r)
      else if isDigitByte b then (lexNumber false (b :: rest)).map fun (t, r) => (l.number t, r)
      else if b = 0x74 then (dropWord [0x72, 0x75, 0x65] rest).map fun r => (.bool true, r)
      else if b = 0x66 then (dropWord [0x61, 0x6C, 0x73, 0x65] rest).map fun r => (.bool false, r)
      else if b = 0x6E then (dropWord [0x75, 0x6C, 0x6C] rest).map fun r => (.null, r)
      else none

/-- Reads the values of an array up to its closing bracket. -/
def readItems (l : Dialect) : Nat → Nat → List UInt8 → Option (List Document × List UInt8)
  | 0, _, _ => none
  | fuel + 1, level, s =>
    match readValue l fuel level s with
    | none => none
    | some (d, s) =>
      match skipBlanks s with
      | 0x5D :: r => some ([d], r)
      | 0x2C :: r => (readItems l fuel level r).map fun (ds, r) => (d :: ds, r)
      | _ => none

/-- Reads the entries of an object up to its closing brace. -/
def readEntries (l : Dialect) : Nat → Nat → List UInt8 →
    Option (List (Option String × Document) × List UInt8)
  | 0, _, _ => none
  | fuel + 1, level, s =>
    match skipBlanks s with
    | 0x22 :: s =>
      match lexString s with
      | none => none
      | some (ps, s) =>
        match skipBlanks s with
        | 0x3A :: s =>
          match readValue l fuel level s with
          | none => none
          | some (d, s) =>
            match skipBlanks s with
            | 0x7D :: r => some ([(pieceText? ps, d)], r)
            | 0x2C :: r =>
              (readEntries l fuel level r).map fun (es, r) => ((pieceText? ps, d) :: es, r)
            | _ => none
        | _ => none
    | _ => none

end

/-- Reads a whole JSON text, with white space around it. -/
def readAs? (l : Dialect) (bytes : List UInt8) : Option Document :=
  match readValue l (bytes.length + 1) 0 bytes with
  | some (d, rest) => if (skipBlanks rest).isEmpty then some d else none
  | none => none

/-- Reads a whole JSON text within the usual limits. -/
def read? (bytes : List UInt8) : Option Document := readAs? .bounded bytes

mutual

/-- The value of a document; a later entry of an object replaces an earlier one of its key.
    None when a part that has no value is met. -/
def toJson? : Document → Option Json
  | null => some .null
  | bool b => some (.bool b)
  | int i => some (.int i)
  | float x => some (.float x)
  | str s => some (.str s)
  | arr items => (itemsToJson? items).map .arr
  | obj entries => (entriesToJson? entries).map .object
  | novalue => none

/-- The values of the items of an array. -/
def itemsToJson? : List Document → Option (List Json)
  | [] => some []
  | d :: rest =>
    match toJson? d, itemsToJson? rest with
    | some j, some js => some (j :: js)
    | _, _ => none

/-- The keys and values of the entries of an object. -/
def entriesToJson? : List (Option String × Document) → Option (List (String × Json))
  | [] => some []
  | (key, d) :: rest =>
    match key, toJson? d, entriesToJson? rest with
    | some k, some j, some es => some ((k, j) :: es)
    | _, _, _ => none

end

mutual

/-- A value as a document. -/
def ofJson : Json → Document
  | .null => null
  | .bool b => bool b
  | .int i => int i
  | .float x => if x.isFinite then float x else null
  | .str s => str s
  | .arr items => arr (ofItems items)
  | .obj entries => obj (ofEntries entries)

def ofItems : List Json → List Document
  | [] => []
  | j :: rest => ofJson j :: ofItems rest

def ofEntries : List (String × Json) → List (Option String × Document)
  | [] => []
  | (k, j) :: rest => (some k, ofJson j) :: ofEntries rest

end

end Document

/-- Reads the value of a whole JSON text. -/
def Json.read? (bytes : List UInt8) : Option Json := (Document.read? bytes).bind Document.toJson?

/-- Reads the value of a whole JSON text. -/
def Json.readText? (s : String) : Option Json := Json.read? s.toUTF8.toList

end Endpoint
