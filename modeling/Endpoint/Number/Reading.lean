import Endpoint.Number.Digits

/-!
# Numbers read from text

Integers are an optional sign and one or more ASCII digits, with the value inside a stated
range.  Floating point numbers are an optional sign and either a decimal with at least one
digit, an optional point and an optional exponent, or one of the words `inf`, `infinity`
and `nan` in any case; the result is the nearest number of a grid.

`Scaled` is the other way to read a decimal: its digits are first rounded to a number and
then multiplied or divided by a power of ten, which is itself rounded.
-/

namespace Endpoint

/-- The value of a list of ASCII digits after `start`. -/
def digitsValue (start : Nat) (ds : List Char) : Nat :=
  ds.foldl (fun n c => 10 * n + (c.toNat - 48)) start

/-- The value of one or more ASCII digits. -/
def digits? (s : List Char) : Option Nat :=
  if s.isEmpty then none
  else if s.all Char.isDigit then some (digitsValue 0 s) else none

/-- Splits off a sign; the flag says whether it was a minus. -/
def splitSign : List Char → Bool × List Char
  | '+' :: rest => (false, rest)
  | '-' :: rest => (true, rest)
  | s => (false, s)

/-- An integer with an optional sign. -/
def signedDigits? (s : List Char) : Option Int :=
  let (negative, rest) := splitSign s
  (digits? rest).map fun n => if negative then -(n : Int) else n

/-- A natural number with an optional plus sign. -/
def unsignedDigits? (s : List Char) : Option Nat :=
  match s with
  | '+' :: rest => digits? rest
  | rest => digits? rest

/-- The least and greatest integer of `bits` bits in two's complement. -/
def signedRange (bits : Nat) : Int × Int :=
  let limit : Nat := 1 <<< (bits - 1)
  (-limit, limit - 1)

/-- Whether an integer fits `bits` bits in two's complement. -/
def fitsSigned (bits : Nat) (i : Int) : Bool :=
  decide ((signedRange bits).1 ≤ i) && decide (i ≤ (signedRange bits).2)

/-- The text of an integer that fits `bits` bits with sign. -/
def readSigned? (bits : Nat) (s : String) : Option Int :=
  (signedDigits? s.toList).filter (fitsSigned bits)

/-- The text of a natural number that fits `bits` bits. -/
def readUnsigned? (bits : Nat) (s : String) : Option Nat :=
  (unsignedDigits? s.toList).filter (fun n => decide (n < 1 <<< bits))

namespace Binary64

/-- The exponent part after `e`: an optional sign and at least one digit. -/
def exponent? (s : List Char) : Option Int := signedDigits? s

/-- A decimal without a sign as its digits and power of ten. -/
def decimal? (s : List Char) : Option (Nat × Int) :=
  let whole := s.takeWhile Char.isDigit
  let rest := s.dropWhile Char.isDigit
  let (places, rest) :=
    match rest with
    | '.' :: r => (r.takeWhile Char.isDigit, r.dropWhile Char.isDigit)
    | r => ([], r)
  let power : Option Int :=
    match rest with
    | [] => some 0
    | c :: r => if c = 'e' ∨ c = 'E' then exponent? r else none
  if whole.isEmpty && places.isEmpty then none
  else power.map fun p => (digitsValue 0 (whole ++ places), p - (places.length : Int))

/-- The text of a floating point number, rounded to a grid. -/
def ofText? (grid : Precision) (s : String) : Option Binary64 :=
  let (negative, rest) := splitSign s.toList
  let word := String.ofList (rest.map Char.toLower)
  if word == "inf" || word == "infinity" then some (infinity negative)
  else if word == "nan" then some nan
  else (decimal? rest).map fun (m, e) => ofDecimal grid negative m e

end Binary64

namespace Scaled

/-- The power `10 ^ n` rounded to a number. -/
def power (n : Nat) : Binary64 := .ofDecimal .double false 1 n

/-- Divides by `1e308` while the exponent is out of the range of one division. -/
def shrink : Nat → Binary64 → Int → Binary64
  | 0, x, _ => x
  | fuel + 1, x, e =>
    if -308 ≤ e then x.div (power (-e).toNat)
    else if x.isZero then x
    else shrink fuel (x.div (power 308)) (e + 308)

/-- The number `significand * 10 ^ e` by rounded scaling; none when it overflows. -/
def read? (negative : Bool) (significand : Nat) (e : Int) : Option Binary64 :=
  let x := Binary64.ofNat significand
  let y : Option Binary64 :=
    if 0 ≤ e then
      if 308 < e then if x.isZero then some x else none
      else
        let y := x.mul (power e.toNat)
        if y.isInfinite then none else some y
    else some (shrink ((-e).toNat / 308 + 1) x e)
  y.map fun y => if negative then y.negate else y

end Scaled

end Endpoint
