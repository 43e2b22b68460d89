import Endpoint.Proofs.Number.Reading
import Mathlib

/-!
# Integers as texts

An integer is written with decimal digits, perhaps after a sign; zeros may lead.  What is read from
a text is the number that its digits stand for, provided that it fits the number of bits asked for.
-/

namespace Endpoint

/-- Some digits, and the number that they stand for in the decimal system. -/
structure DigitsFor (ds : List Char) (n : Nat) : Prop where
  nonempty : ds ≠ []
  digits : ∀ c ∈ ds, c.isDigit = true
  value : Nat.ofDigitChars 10 ds 0 = n

/-- A natural number as text: digits for it, perhaps after a plus sign. -/
inductive NaturalText : List Char → Nat → Prop
  | bare {ds : List Char} {n : Nat} : DigitsFor ds n → NaturalText ds n
  | plus {ds : List Char} {n : Nat} : DigitsFor ds n → NaturalText ('+' :: ds) n

/-- An integer as text: a natural number, or digits after a minus sign. -/
inductive IntegerText : List Char → Int → Prop
  | natural {cs : List Char} {n : Nat} : NaturalText cs n → IntegerText cs n
  | minus {ds : List Char} {n : Nat} : DigitsFor ds n → IntegerText ('-' :: ds) (-n)

variable {cs ds : List Char} {n bits : Nat} {i : Int} {s : String}

theorem DigitsFor.head_isDigit {c : Char} (h : DigitsFor (c :: ds) n) : c.isDigit = true :=
  h.digits c List.mem_cons_self

/-- Digits are written for every number. -/
theorem digitsFor_toDigits (n : Nat) : DigitsFor (Nat.toDigits 10 n) n where
  nonempty := Nat.toDigits_ne_nil
  digits _ hc := Nat.isDigit_of_mem_toDigits (by decide) (by decide) hc
  value := Nat.ofDigitChars_ten_toDigits

theorem digits?_eq_some_iff_digitsFor : digits? ds = some n ↔ DigitsFor ds n := by
  rw [digits?_eq_some_iff]
  constructor
  · rintro ⟨hne, hdigits, hvalue⟩
    exact ⟨hne, hdigits, hvalue⟩
  · intro h
    exact ⟨h.nonempty, h.digits, h.value⟩

theorem unsignedDigits?_eq_some_iff : unsignedDigits? cs = some n ↔ NaturalText cs n := by
  rw [unsignedDigits?.eq_def]
  split
  · rw [digits?_eq_some_iff_digitsFor]
    constructor
    · exact .plus
    · intro h
      cases h with
      | bare h => exact absurd h.head_isDigit (by decide)
      | plus h => exact h
  · rename_i hplus
    rw [digits?_eq_some_iff_digitsFor]
    constructor
    · exact .bare
    · intro h
      cases h with
      | bare h => exact h
      | plus h => exact absurd rfl (hplus _)

/-- Without a minus sign an integer is read as a natural number. -/
theorem signedDigits?_of_not_minus (h : ∀ rest, cs ≠ '-' :: rest) :
    signedDigits? cs = (unsignedDigits? cs).map Int.ofNat := by
  rcases splitSign_cases cs with ⟨rest, rfl, hsplit⟩ | ⟨rest, rfl, -⟩ | hsplit
  · rw [signedDigits?_of_splitSign hsplit, unsignedDigits?_of_splitSign hsplit]
  · exact absurd rfl (h rest)
  · rw [signedDigits?_of_splitSign hsplit, unsignedDigits?_of_splitSign hsplit]

theorem signedDigits?_eq_some_iff : signedDigits? cs = some i ↔ IntegerText cs i := by
  by_cases hminus : ∃ rest, cs = '-' :: rest
  · obtain ⟨rest, rfl⟩ := hminus
    rw [signedDigits?_cons_minus, Option.map_eq_some_iff]
    constructor
    · rintro ⟨n, hn, rfl⟩
      rw [Int.negOfNat_eq]
      exact .minus (digits?_eq_some_iff_digitsFor.1 hn)
    · intro h
      cases h with
      | natural h =>
        cases h with
        | bare h => exact absurd h.head_isDigit (by decide)
      | minus h => exact ⟨_, digits?_eq_some_iff_digitsFor.2 h, Int.negOfNat_eq⟩
  · rw [signedDigits?_of_not_minus fun rest hrest => hminus ⟨rest, hrest⟩,
      Option.map_eq_some_iff]
    constructor
    · rintro ⟨n, hn, rfl⟩
      exact .natural (unsignedDigits?_eq_some_iff.1 hn)
    · intro h
      cases h with
      | natural hn => exact ⟨_, unsignedDigits?_eq_some_iff.2 hn, rfl⟩
      | minus _ => exact absurd ⟨_, rfl⟩ hminus

/-- What is read is the number of the text, if it has at most as many bits as asked for. -/
theorem readUnsigned?_eq_some_iff :
    readUnsigned? bits s = some n ↔ NaturalText s.toList n ∧ n < 2 ^ bits := by
  rw [readUnsigned?, Option.filter_eq_some_iff, unsignedDigits?_eq_some_iff, decide_eq_true_eq,
    Nat.one_shiftLeft]

theorem fitsSigned_iff :
    fitsSigned bits i = true ↔ -2 ^ (bits - 1) ≤ i ∧ i ≤ 2 ^ (bits - 1) - 1 := by
  rw [fitsSigned, Bool.and_eq_true, decide_eq_true_eq, decide_eq_true_eq, signedRange,
    Nat.one_shiftLeft]
  push_cast
  rfl

theorem readSigned?_eq_some_iff :
    readSigned? bits s = some i ↔
      IntegerText s.toList i ∧ -2 ^ (bits - 1) ≤ i ∧ i ≤ 2 ^ (bits - 1) - 1 := by
  rw [readSigned?, Option.filter_eq_some_iff, signedDigits?_eq_some_iff, fitsSigned_iff]

end Endpoint
