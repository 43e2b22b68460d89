import Endpoint.Number.Binary64

/-!
# Decimal digits of binary64 numbers

`Binary64.shortest` gives the fewest decimal digits that read back as the same number, and
among those the ones nearest to it.  A number owns the interval of reals that round to it,
whose ends belong to it exactly when its significand is even.  For one digit, two digits
and so on, the two neighbours of the number on the decimal grid of that many digits are
tested against this interval in exact arithmetic; the first grid with a hit wins.

The layouts at the end arrange such digits: `plain` never uses an exponent, `scientific`
switches to one outside a range of powers of ten.
-/

namespace Endpoint

/-- A positive decimal number `digits * 10 ^ exponent`. -/
structure Decimal where
  digits : Nat
  exponent : Int
  deriving DecidableEq, Repr

namespace Decimal

/-- The decimal digits of a natural number, most significant first. -/
def digitsOf (n : Nat) : List Char := (Nat.toDigits 10 n)

/-- Drops trailing zeros of the digits, at most `fuel` of them. -/
def trim : Nat → Decimal → Decimal
  | 0, d => d
  | fuel + 1, d =>
    if d.digits ≠ 0 ∧ d.digits % 10 = 0 then trim fuel ⟨d.digits / 10, d.exponent + 1⟩ else d

end Decimal

namespace Binary64

/-- Reals that round to a number, scaled by a common factor: the number itself, both ends
    and whether the ends belong to the interval. -/
structure Interval where
  value : Nat
  lower : Nat
  upper : Nat
  scale : Nat
  closed : Bool

/-- The interval of reals that round to a finite positive number; `value / scale` is the
    number. -/
def interval (x : Binary64) : Interval :=
  let (m, e) := x.parts
  let boundary := decide (m = 1 <<< 52 ∧ -1074 < e)
  let up := if 0 ≤ e then 1 <<< e.toNat else 1
  let scale := if 0 ≤ e then 4 else 4 * (1 <<< (-e).toNat)
  { value := 4 * m * up
    lower := (if boundary then 4 * m - 1 else 4 * m - 2) * up
    upper := (4 * m + 2) * up
    scale := scale
    closed := m % 2 = 0 }

/-- Whether the decimal `digits * 10 ^ exponent` lies in the interval. -/
def Interval.contains (i : Interval) (d : Decimal) : Bool :=
  let (num, den) :=
    if 0 ≤ d.exponent then (d.digits * Nat.pow 10 d.exponent.toNat, 1)
    else (d.digits, Nat.pow 10 (-d.exponent).toNat)
  let x := num * i.scale
  if i.closed then decide (i.lower * den ≤ x) && decide (x ≤ i.upper * den)
  else decide (i.lower * den < x) && decide (x < i.upper * den)

/-- The power of ten of the leading decimal digit of a positive fraction. -/
def leadingPower (num den : Nat) : Int :=
  let size (n : Nat) : Int := (Decimal.digitsOf n).length
  let guess := size num - size den
  let reached :=
    if 0 ≤ guess then decide (den * Nat.pow 10 guess.toNat ≤ num)
    else decide (den ≤ num * Nat.pow 10 (-guess).toNat)
  if reached then guess else guess - 1

/-- The better of the two neighbours of the number on the grid of `10 ^ power`. -/
def Interval.nearest? (i : Interval) (power : Int) : Option Decimal :=
  let (num, den) :=
    if 0 ≤ power then (i.value, i.scale * Nat.pow 10 power.toNat)
    else (i.value * Nat.pow 10 (-power).toNat, i.scale)
  let below : Decimal := ⟨num / den, power⟩
  let above : Decimal := ⟨num / den + 1, power⟩
  match i.contains below && below.digits != 0, i.contains above with
  | true, true =>
    let r := num % den
    if 2 * r < den then some below
    else if den < 2 * r then some above
    else if below.digits % 2 = 0 then some below else some above
  | true, false => some below
  | false, true => some above
  | false, false => none

/-- Looks for a hit on the grids from `count` digits on; `fuel` bounds the digits tried. -/
def Interval.shortestFrom (i : Interval) (lead : Int) : Nat → Nat → Decimal
  | 0, _ => ⟨i.value, 0⟩
  | fuel + 1, count =>
    match i.nearest? (lead - (count : Int) + 1) with
    | some d => d.trim 20
    | none => i.shortestFrom lead fuel (count + 1)

/-- The fewest decimal digits that read back as the number, which must be finite and not
    zero; its sign is ignored. -/
def shortest (x : Binary64) : Decimal :=
  let i := x.interval
  i.shortestFrom (leadingPower i.value i.scale) 18 1

end Binary64

namespace Decimal

/-- The power of ten of the leading digit. -/
def lead (d : Decimal) : Int := d.exponent + ((digitsOf d.digits).length : Int) - 1

/-- The digits in positional form; `keepPoint` writes a whole number with `.0`. -/
def plain (keepPoint : Bool) (d : Decimal) : List Char :=
  let ds := digitsOf d.digits
  let whole := d.exponent + (ds.length : Int)
  if 0 ≤ d.exponent then
    ds ++ List.replicate d.exponent.toNat '0' ++ (if keepPoint then ['.', '0'] else [])
  else if 0 < whole then ds.take whole.toNat ++ '.' :: ds.drop whole.toNat
  else '0' :: '.' :: List.replicate (-whole).toNat '0' ++ ds

/-- The digits with one digit before the point and an exponent of ten; `plus` writes the
    sign of a positive exponent. -/
def scientific (plus : Bool) (d : Decimal) : List Char :=
  let power := d.lead
  let mantissa :=
    match digitsOf d.digits with
    | [] => []
    | [c] => [c]
    | c :: rest => c :: '.' :: rest
  let sign := if power < 0 then ['-'] else if plus then ['+'] else []
  mantissa ++ 'e' :: sign ++ digitsOf power.natAbs

end Decimal

/-- How floating point numbers are written in one kind of text. -/
structure FloatLayout where
  /-- the least power of ten of the leading digit written positionally, if bounded -/
  smallest : Option Int
  /-- the first power of ten written with an exponent, if bounded -/
  largest : Option Int
  /-- whether whole numbers are written with `.0` -/
  keepPoint : Bool
  /-- whether positive exponents carry a sign -/
  plus : Bool
  notANumber : String
  infinite : String

namespace FloatLayout

/-- Numbers in JSON text: exponents below `1e-5` and from `1e+16`; what is not a number
    has no JSON form. -/
def json : FloatLayout := ⟨some (-5), some 16, true, true, "null", "null"⟩

/-- Numbers in diagnostic text: exponents below `1e-4` and from `1e16`. -/
def diagnostic : FloatLayout := ⟨some (-4), some 16, true, false, "NaN", "inf"⟩

/-- Numbers in metric samples: always positional, whole numbers without a point. -/
def sample : FloatLayout := ⟨none, none, false, false, "NaN", "inf"⟩

/-- The text of a number. -/
def write (l : FloatLayout) (x : Binary64) : String :=
  let sign := if x.negative then ['-'] else []
  if x.isNaN then l.notANumber
  else if x.isInfinite then
    if l.infinite == "null" then l.infinite else String.ofList (sign ++ l.infinite.toList)
  else if x.isZero then String.ofList (sign ++ (if l.keepPoint then ['0', '.', '0'] else ['0']))
  else
    let d := x.shortest
    let tooSmall := l.smallest.any (fun b => d.lead < b)
    let tooLarge := l.largest.any (fun b => b ≤ d.lead)
    let digits := if tooSmall || tooLarge then d.scientific l.plus else d.plain l.keepPoint
    String.ofList (sign ++ digits)

end FloatLayout

end Endpoint
