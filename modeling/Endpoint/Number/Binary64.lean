/-!
# Binary floating point numbers

A binary64 number is kept as its sign and its magnitude field (the exponent and fraction
bits read as one number).  Among numbers other than NaN the magnitude field grows with the
absolute value, so comparison is comparison of signed magnitudes, and both zeros compare
equal.  Arithmetic is exact rational arithmetic followed by one rounding to the nearest
representable number, ties to an even significand.  A binary32 number is a binary64 number
that happens to lie on the coarser grid `Precision.single`.
-/

namespace Endpoint

/-- A binary64 number: its sign bit and its 63 exponent and fraction bits. -/
structure Binary64 where
  negative : Bool
  magnitude : Nat
  deriving DecidableEq, Repr

/-- A grid of binary floating point numbers: `m * 2 ^ e` with `m < 2 ^ digits` and
    `least ≤ e ≤ greatest`. -/
structure Precision where
  digits : Nat
  least : Int
  greatest : Int

namespace Precision

/-- The grid of binary64 numbers. -/
def double : Precision := ⟨53, -1074, 971⟩

/-- The grid of binary32 numbers. -/
def single : Precision := ⟨24, -149, 104⟩

end Precision

namespace Binary64

/-- The magnitude field of the infinities; larger fields are NaN. -/
def infiniteMagnitude : Nat := 0x7FF0000000000000

/-- The zero without a sign. -/
def zero : Binary64 := ⟨false, 0⟩

/-- An infinity. -/
def infinity (negative : Bool) : Binary64 := ⟨negative, infiniteMagnitude⟩

/-- The one NaN in use. -/
def nan : Binary64 := ⟨false, 0x7FF8000000000000⟩

def isNaN (x : Binary64) : Bool := decide (infiniteMagnitude < x.magnitude)

def isInfinite (x : Binary64) : Bool := x.magnitude == infiniteMagnitude

def isFinite (x : Binary64) : Bool := decide (x.magnitude < infiniteMagnitude)

/-- Either zero. -/
def isZero (x : Binary64) : Bool := x.magnitude == 0

/-- The magnitude field with the sign applied; the order key of numbers other than NaN. -/
def key (x : Binary64) : Int := if x.negative then -(x.magnitude : Int) else x.magnitude

/-- The order of two numbers, undefined when one is NaN. -/
def compare? (x y : Binary64) : Option Ordering :=
  if x.isNaN || y.isNaN then none else some (compare x.key y.key)

/-- Numerical equality: NaN equals nothing and the zeros are equal. -/
def equal (x y : Binary64) : Bool := x.compare? y == some .eq

/-- Numerical order, false when one number is NaN. -/
def less (x y : Binary64) : Bool := x.compare? y == some .lt

/-- The number with its sign flipped. -/
def negate (x : Binary64) : Binary64 := ⟨!x.negative, x.magnitude⟩

/-- The number as its 64 bits. -/
def toBits (x : Binary64) : Nat := (if x.negative then 1 <<< 63 else 0) + x.magnitude

/-- The significand and binary exponent of a finite number: its absolute value is
    `m * 2 ^ e`. -/
def parts (x : Binary64) : Nat × Int :=
  let exponent : Nat := x.magnitude >>> 52
  let fraction : Nat := x.magnitude % (1 <<< 52)
  if exponent = 0 then (fraction, -1074) else ((1 <<< 52) + fraction, (exponent : Int) - 1075)

/-- The magnitude field of `m * 2 ^ e`, which must lie on the binary64 grid. -/
def fieldOf (m : Nat) (e : Int) : Nat :=
  if m = 0 then 0
  else
    let top := e + (Nat.log2 m : Int)
    if -1022 ≤ top then
      let fraction := if Nat.log2 m ≤ 52 then m <<< (52 - Nat.log2 m) else m >>> (Nat.log2 m - 52)
      (top + 1023).toNat * (1 <<< 52) + (fraction - (1 <<< 52))
    else m <<< (e + 1074).toNat

/-- `num / den` rounded to a natural number, a half going to the even neighbour. -/
def roundDiv (num den : Nat) : Nat :=
  let q := num / den
  let r := num % den
  if 2 * r < den then q
  else if den < 2 * r then q + 1
  else if q % 2 = 0 then q else q + 1

/-- The exponent of the leading binary digit of the positive fraction `num / den`. -/
def leadingExponent (num den : Nat) : Int :=
  let guess := (Nat.log2 num : Int) - (Nat.log2 den : Int)
  let reached :=
    if 0 ≤ guess then decide (den <<< guess.toNat ≤ num)
    else decide (den ≤ num <<< (-guess).toNat)
  if reached then guess else guess - 1

/-- The fraction `num / den`, with a sign, rounded to the nearest number of a grid. -/
def ofFraction (grid : Precision) (negative : Bool) (num den : Nat) : Binary64 :=
  if num = 0 ∨ den = 0 then ⟨negative, 0⟩
  else
    let e := max (leadingExponent num den - ((grid.digits : Int) - 1)) grid.least
    let m := if 0 ≤ e then roundDiv num (den <<< e.toNat) else roundDiv (num <<< (-e).toNat) den
    let (m, e) := if m = 1 <<< grid.digits then (1 <<< (grid.digits - 1), e + 1) else (m, e)
    if grid.greatest < e then infinity negative else ⟨negative, fieldOf m e⟩

/-- The fraction `m * 10 ^ e`, with a sign, rounded to the nearest number of a grid.
    Far outside the range of the grid the power of ten is never formed. -/
def ofDecimal (grid : Precision) (negative : Bool) (m : Nat) (e : Int) : Binary64 :=
  let size : Int := (Nat.log2 m : Int) / 3 + 1
  if m = 0 then ⟨negative, 0⟩
  else if 400 < e then infinity negative
  else if e + size < -400 then ⟨negative, 0⟩
  else if 0 ≤ e then ofFraction grid negative (m * Nat.pow 10 e.toNat) 1
  else ofFraction grid negative m (Nat.pow 10 (-e).toNat)

/-- The nearest binary64 number to an integer. -/
def ofInt (i : Int) : Binary64 := ofFraction .double (decide (i < 0)) i.natAbs 1

def ofNat (n : Nat) : Binary64 := ofFraction .double false n 1

/-- A finite number as `num / den` without its sign. -/
def fraction (x : Binary64) : Nat × Nat :=
  let (m, e) := x.parts
  if 0 ≤ e then (m <<< e.toNat, 1) else (m, 1 <<< (-e).toNat)

/-- The rounded product. -/
def mul (x y : Binary64) : Binary64 :=
  let sign := x.negative != y.negative
  if x.isNaN || y.isNaN then nan
  else if x.isInfinite || y.isInfinite then
    if x.isZero || y.isZero then nan else infinity sign
  else
    let (a, b) := x.fraction
    let (c, d) := y.fraction
    ofFraction .double sign (a * c) (b * d)

/-- The rounded quotient. -/
def div (x y : Binary64) : Binary64 :=
  let sign := x.negative != y.negative
  if x.isNaN || y.isNaN then nan
  else if x.isInfinite then if y.isInfinite then nan else infinity sign
  else if y.isInfinite then ⟨sign, 0⟩
  else if y.isZero then if x.isZero then nan else infinity sign
  else
    let (a, b) := x.fraction
    let (c, d) := y.fraction
    ofFraction .double sign (a * d) (b * c)

/-- The rounded sum; an exact zero from numbers of opposite sign is positive. -/
def add (x y : Binary64) : Binary64 :=
  if x.isNaN || y.isNaN then nan
  else if x.isInfinite then
    if y.isInfinite && x.negative != y.negative then nan else x
  else if y.isInfinite then y
  else if x.isZero && y.isZero then ⟨x.negative && y.negative, 0⟩
  else
    let (a, b) := x.fraction
    let (c, d) := y.fraction
    let left : Int := (if x.negative then -1 else 1) * ((a * d : Nat) : Int)
    let right : Int := (if y.negative then -1 else 1) * ((c * b : Nat) : Int)
    let total := left + right
    ofFraction .double (decide (total < 0)) total.natAbs (b * d)

theorem compare?_self {x : Binary64} (h : x.isNaN = false) : x.compare? x = some .eq := by
  simp [compare?, h]

end Binary64

end Endpoint
