import Endpoint.Number.Reading
import Endpoint.Toml.Text

/-!
# TOML numbers and times

Integers have a sign or a base, and fit 64 bits.  Floats have a point or an exponent, or are
`inf` or `nan`.  Underscores may stand between two digits.  Dates and times have no JSON
value of their own; they become an object with one reserved key.
-/

namespace Endpoint.Toml

/-- One or more digits with single underscores between them, without the underscores. -/
def readDigits (isDigit : Char → Bool) : Nat → Reader (List Char)
  | 0, _ => none
  | _ + 1, [] => none
  | fuel + 1, c :: rest =>
    if isDigit c then
      match rest with
      | '_' :: rest => (readDigits isDigit fuel rest).map fun (ds, r) => (c :: ds, r)
      | d :: _ =>
        if isDigit d then (readDigits isDigit fuel rest).map fun (ds, r) => (c :: ds, r)
        else some ([c], rest)
      | [] => some ([c], [])
    else none

def decimalDigits (s : List Char) : Option (List Char × List Char) :=
  readDigits Char.isDigit (s.length + 1) s

/-- The digits of a whole number: a zero alone, or digits that start with another one. -/
def wholeDigits (s : List Char) : Option (List Char × List Char) :=
  match s with
  | '0' :: rest =>
    match rest with
    | c :: _ => if c.isDigit ∨ c = '_' then none else some (['0'], rest)
    | [] => some (['0'], [])
  | s => decimalDigits s

/-- An integer, if it fits 64 bits. -/
def integerValue (n : Int) : Option Json := if fitsSigned 64 n then some (.int n) else none

/-- An integer in another base, from after its mark. -/
def readBased (base : Nat) (s : List Char) : Option (Json × List Char) :=
  let isDigit (c : Char) : Bool :=
    ((Hexadecimal.digit? c).map fun d => decide (d < base)).getD false
  (readDigits isDigit (s.length + 1) s).bind fun (ds, r) =>
    let n := ds.foldl (fun n c => base * n + (Hexadecimal.digit? c).getD 0) 0
    (integerValue n).map fun j => (j, r)

/-- The value of a float: those that are not finite have none in JSON, and one that rounds
    to infinity without a minus sign is refused. -/
def floatValue (negative : Bool) (digits : List Char) (power : Int) : Option Json :=
  let x := Binary64.ofDecimal .double negative (digitsValue 0 digits) power
  if x.isInfinite then if negative then some .null else none else some (.float x)

/-- The exponent of a float, from after its letter. -/
def readExponent (s : List Char) : Option (Int × List Char) :=
  let (negative, s) := splitSign s
  (decimalDigits s).map fun (ds, r) =>
    let n : Int := digitsValue 0 ds
    (if negative then -n else n, r)

/-- A decimal integer or a float, from after its sign. -/
def readDecimal (negative : Bool) (s : List Char) : Option (Json × List Char) := do
  let (whole, rest) ← wholeDigits s
  let (places, rest') ←
    match rest with
    | '.' :: r => decimalDigits r
    | r => some ([], r)
  match rest' with
  | c :: r =>
    if c = 'e' ∨ c = 'E' then do
      let (power, r) ← readExponent r
      let j ← floatValue negative (whole ++ places) (power - (places.length : Int))
      some (j, r)
    else finish whole places rest'
  | [] => finish whole places []
where
  finish (whole places rest : List Char) : Option (Json × List Char) :=
    if places.isEmpty then
      let n : Int := digitsValue 0 whole
      (integerValue (if negative then -n else n)).map fun j => (j, rest)
    else (floatValue negative (whole ++ places) (-(places.length : Int))).map fun j => (j, rest)

/-- Drops a word from the front. -/
def dropWord? (word : String) (s : List Char) : Option (List Char) :=
  if word.toList.isPrefixOf s then some (s.drop word.length) else none

/-- A number of any form. -/
def readNumber (s : List Char) : Option (Json × List Char) :=
  match s with
  | '0' :: 'x' :: rest => readBased 16 rest
  | '0' :: 'o' :: rest => readBased 8 rest
  | '0' :: 'b' :: rest => readBased 2 rest
  | s =>
    let (negative, rest) := splitSign s
    match dropWord? "inf" rest <|> dropWord? "nan" rest with
    | some r => some (.null, r)
    | none => readDecimal negative rest

/-- A number of exactly `count` digits. -/
def readFixed (count : Nat) (s : List Char) : Option (Nat × List Char) :=
  let ds := s.take count
  if ds.length = count ∧ ds.all Char.isDigit then some (digitsValue 0 ds, s.drop count) else none

/-- A number of two digits within bounds. -/
def readPair (least greatest : Nat) (s : List Char) : Option (Nat × List Char) :=
  (readFixed 2 s).filter fun (n, _) => decide (least ≤ n) && decide (n ≤ greatest)

/-- Drops one character. -/
def dropChar? (c : Char) : List Char → Option (List Char)
  | d :: rest => if d = c then some rest else none
  | [] => none

/-- The number of days of a month. -/
def daysIn (year month : Nat) : Nat :=
  if month = 2 then
    if year % 4 = 0 ∧ (year % 100 ≠ 0 ∨ year % 400 = 0) then 29 else 28
  else if [4, 6, 9, 11].contains month then 30
  else 31

/-- A date. -/
def readDate (s : List Char) : Option (List Char × List Char) := do
  let (year, r) ← readFixed 4 s
  let (month, r) ← readPair 1 12 (← dropChar? '-' r)
  let (_, r) ← readPair 1 (daysIn year month) (← dropChar? '-' r)
  some (s.take 10, r)

/-- The fraction of a second, if there is one: at most nine places, without zeros at the
    end. -/
def readFraction (s : List Char) : Option (List Char × List Char) :=
  match s with
  | '.' :: rest =>
    let places := rest.takeWhile Char.isDigit
    let kept := ((places.take 9).reverse.dropWhile (· == '0')).reverse
    if places.isEmpty then none
    else some (if kept.isEmpty then [] else '.' :: kept, rest.drop places.length)
  | s => some ([], s)

/-- A time of day. -/
def readTimeOfDay (s : List Char) : Option (List Char × List Char) := do
  let (_, r) ← readPair 0 23 s
  let (_, r) ← readPair 0 59 (← dropChar? ':' r)
  let (_, r) ← readPair 0 60 (← dropChar? ':' r)
  let (fraction, r) ← readFraction r
  some (s.take 8 ++ fraction, r)

/-- The offset of a time, if it has one.  An offset of nothing has a plus sign. -/
def readOffset (s : List Char) : Option (List Char × List Char) :=
  match s with
  | c :: rest =>
    if c = 'Z' ∨ c = 'z' then some (['Z'], rest)
    else if c = '+' ∨ c = '-' then do
      let (hours, r) ← readPair 0 23 rest
      let (minutes, r) ← readPair 0 59 (← dropChar? ':' r)
      some ((if hours = 0 ∧ minutes = 0 then '+' else c) :: rest.take 5, r)
    else some ([], s)
  | [] => some ([], [])

/-- The time that follows a date, if there is one. -/
def readTimeOfDate (s : List Char) : Option (List Char × List Char) :=
  match s with
  | c :: rest =>
    let hour := rest.take 2
    if c = 'T' ∨ c = 't' ∨ (c = ' ' ∧ hour.length = 2 ∧ hour.all Char.isDigit) then do
      let (time, r) ← readTimeOfDay rest
      let (offset, r) ← readOffset r
      some ('T' :: time ++ offset, r)
    else some ([], s)
  | [] => some ([], [])

/-- Whether a date or a time stands at the front: four digits and a hyphen, or two and a
    colon. -/
def startsTime (s : List Char) : Bool :=
  (decide ((s.takeWhile Char.isDigit).length = 4) && s[4]? == some '-')
    || (decide ((s.takeWhile Char.isDigit).length = 2) && s[2]? == some ':')

/-- The key of the object that stands for a date or a time. -/
def timeKey : String := "$__toml_private_datetime"

/-- The object that stands for a date or a time of a text. -/
def timeValue (text : List Char) : Json := .object [(timeKey, .str (String.ofList text))]

/-- A date, a time of day, or both, in its one form: a capital `T` stands between the two, and
    a capital `Z` for universal time. -/
def readTimeText (s : List Char) : Option (List Char × List Char) :=
  if s[2]? == some ':' then readTimeOfDay s
  else do
    let (date, r) ← readDate s
    let (time, r) ← readTimeOfDate r
    some (date ++ time, r)

/-- A date, a time of day, or both. -/
def readTime (s : List Char) : Option (Json × List Char) :=
  (readTimeText s).map fun (text, r) => (timeValue text, r)

end Endpoint.Toml
