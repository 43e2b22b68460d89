/-!
# Hexadecimal digits

Digits are read in either case and written in lower case.  `digits` has a fixed count, so
that a number is filled up with zeros and loses what stands before its lowest digits.
-/

namespace Endpoint.Hexadecimal

/-- The value of a digit. -/
def digit? (c : Char) : Option Nat :=
  if '0' ≤ c ∧ c ≤ '9' then some (c.toNat - 48)
  else if 'a' ≤ c ∧ c ≤ 'f' then some (c.toNat - 87)
  else if 'A' ≤ c ∧ c ≤ 'F' then some (c.toNat - 55)
  else none

def isDigit (c : Char) : Bool := (digit? c).isSome

/-- The number after `start` if only digits follow. -/
def numberFrom? (start : Nat) : List Char → Option Nat
  | [] => some start
  | c :: rest => (digit? c).bind fun d => numberFrom? (16 * start + d) rest

/-- The number that one or more digits give. -/
def number? (s : List Char) : Option Nat := if s.isEmpty then none else numberFrom? 0 s

/-- The lowest `count` digits of a number, most significant first. -/
def digits (count n : Nat) : List Char :=
  (List.range count).reverse.map fun i =>
    let d := (n >>> (4 * i)) % 16
    Char.ofNat (if d < 10 then 48 + d else 87 + d)

end Endpoint.Hexadecimal
