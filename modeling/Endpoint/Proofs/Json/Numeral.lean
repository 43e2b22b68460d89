import Endpoint.Proofs.Json.Lexing
import Endpoint.Proofs.Number.Shortest
import Mathlib

/-!
# What the numbers of JSON text stand for

A number without point and exponent stands for an integer of any size, and any other number for the
binary64 number nearest to it.  Under this reading whatever is written for an integer or a finite
number is read as the same integer or number.
-/

namespace Endpoint

open Document (IsDigits)

/-! ## Digits -/

theorem digitsValue_append (start : Nat) (ds ds' : List Char) :
    digitsValue start (ds ++ ds') = digitsValue (digitsValue start ds) ds' :=
  List.foldl_append

theorem digitsValue_zeros (start count : Nat) :
    digitsValue start (List.replicate count '0') = start * 10 ^ count := by
  induction count generalizing start with
  | zero => rw [pow_zero, Nat.mul_one]; rfl
  | succ count ih =>
    rw [List.replicate_succ]
    show digitsValue (10 * start + 0) (List.replicate count '0') = _
    rw [ih, pow_succ]
    ring

theorem digitsValue_toDigits (n : Nat) : digitsValue 0 (Nat.toDigits 10 n) = n :=
  Nat.ofDigitChars_ten_toDigits

theorem isDigits_toDigits (n : Nat) : IsDigits (Nat.toDigits 10 n) :=
  ⟨Nat.toDigits_ne_nil, fun _ hc => Nat.isDigit_of_mem_toDigits (by decide) (by decide) hc⟩

theorem isDigits_zeros {count : Nat} {ds : List Char} (hds : IsDigits ds) :
    IsDigits (List.replicate count '0' ++ ds) := by
  refine ⟨by simp [hds.1], fun c hc => ?_⟩
  rcases List.mem_append.1 hc with hzero | hc
  · rw [(List.mem_replicate.1 hzero).2]
    decide
  · exact hds.2 c hc

/-- The digits of a positive number do not start with a zero. -/
theorem head?_toDigits_ne_zero {n : Nat} (hn : 0 < n) : (Nat.toDigits 10 n).head? ≠ some '0' := by
  induction n using Nat.strong_induction_on with
  | _ n ih =>
    by_cases hsmall : n < 10
    · rw [Nat.toDigits_of_lt_base hsmall, List.head?_cons]
      intro hzero
      have := Nat.digitChar_eq_zero.1 (Option.some.inj hzero)
      omega
    · rw [Nat.toDigits_of_base_le (by decide) (by omega), List.head?_append_of_ne_nil]
      · exact ih (n / 10) (by omega) (by omega)
      · exact Nat.toDigits_ne_nil

theorem length_toDigits_of_head? {n : Nat} (hzero : (Nat.toDigits 10 n).head? = some '0') :
    (Nat.toDigits 10 n).length = 1 := by
  rcases Nat.eq_zero_or_pos n with rfl | hn
  · rfl
  · exact absurd hzero (head?_toDigits_ne_zero hn)

namespace Document.NumberText

variable {t : NumberText} {x : Binary64} {d : Decimal}

/-! ## Meanings of numbers -/

/-- All digits of a number as one integer. -/
def significand (t : NumberText) : Nat := digitsValue 0 (t.whole ++ t.places.getD [])

/-- The power of ten of the last digit of a number. -/
def exponent (t : NumberText) : Int :=
  t.power.elim 0 (fun p => if p.1 then -(digitsValue 0 p.2 : Int) else digitsValue 0 p.2) -
    ((t.places.getD []).length : Int)

/-- What a number stands for.  Minus zero is a float, and a number that rounds to an infinity has no
    value. -/
def meaning (t : NumberText) : Document :=
  if t.places.isNone && t.power.isNone then
    if !t.negative then .int t.significand
    else if 0 < t.significand then .int (-(t.significand : Int))
    else .float ⟨true, 0⟩
  else
    let x := Binary64.ofDecimal .double t.negative t.significand t.exponent
    if x.isFinite then .float x else .novalue

/-- A number with its sign. -/
def signed (t : NumberText) : List Char := if t.negative then '-' :: t.text else t.text

/-- A number with a point or an exponent stands for the finite number that owns it. -/
theorem meaning_eq_float (hfloat : (t.places.isNone && t.power.isNone) = false)
    (hfinite : x.isFinite = true) (hsign : t.negative = x.negative)
    (hvalue : x.magnitude ≠ 0 ∧ 0 < t.significand ∧ x.Owns (t.significand * 10 ^ t.exponent) ∨
      x.magnitude = 0 ∧ t.significand = 0) : t.meaning = .float x := by
  have hround : Binary64.ofDecimal .double t.negative t.significand t.exponent = x := by
    rcases hvalue with ⟨hzero, hpos, howns⟩ | ⟨hzero, hnone⟩
    · rw [howns.ofDecimal_eq hfinite hzero hpos, hsign]
    · rw [hnone, hsign]
      show (⟨x.negative, 0⟩ : Binary64) = x
      rw [← hzero]
  unfold meaning
  rw [hfloat, if_neg Bool.false_ne_true, hround]
  exact if_pos hfinite

/-! ## Integers -/

theorem writeInt_spec (i : Int) :
    ∃ t : NumberText, t.IsFormed ∧ Json.writeInt i = t.signed ∧ t.meaning = .int i := by
  have hvalue := digitsValue_toDigits i.natAbs
  refine ⟨⟨decide (i < 0), Nat.toDigits 10 i.natAbs, none, none⟩, ⟨isDigits_toDigits _,
    length_toDigits_of_head?, ?_, ?_⟩, ?_, ?_⟩
  · intro _ h
    cases h
  · intro _ _ h
    cases h
  · by_cases hneg : i < 0
    · simp [Json.writeInt, signed, text, placesText, powerText, hneg]
    · simp [Json.writeInt, signed, text, placesText, powerText, hneg]
  · have hsignificand : significand ⟨decide (i < 0), Nat.toDigits 10 i.natAbs, none, none⟩ =
        i.natAbs := by
      rw [significand, Option.getD_none, List.append_nil, hvalue]
    unfold meaning
    rw [hsignificand]
    by_cases hneg : i < 0
    · have hpos : 0 < i.natAbs := by omega
      simp [hneg, hpos, abs_of_neg hneg]
    · simp [hneg, abs_of_nonneg (not_lt.1 hneg)]

/-! ## Decimals -/

/-- A number with a point or an exponent, written as some characters for a decimal. -/
structure Spells (t : NumberText) (cs : List Char) (d : Decimal) : Prop where
  formed : t.IsFormed
  text_eq : t.text = cs
  float : (t.places.isNone && t.power.isNone) = false
  value_eq : (t.significand : ℚ) * 10 ^ t.exponent = d.value

theorem isDigits_subset {ds ds' : List Char} (hds : IsDigits ds) (hne : ds' ≠ [])
    (hsubset : ds' ⊆ ds) : IsDigits ds' :=
  ⟨hne, fun c hc => hds.2 c (hsubset hc)⟩

/-- The parts of a number whose whole part has the digits of a positive number in front. -/
theorem isFormed_of_toDigits {n : Nat} (hn : 0 < n) {negative : Bool} {whole : List Char}
    {places : Option (List Char)} {power : Option (Bool × List Char)} (hwhole : IsDigits whole)
    (hhead : whole.head? = (Nat.toDigits 10 n).head?)
    (hplaces : ∀ ds, places = some ds → IsDigits ds)
    (hpower : ∀ p ds, power = some (p, ds) → IsDigits ds) :
    IsFormed ⟨negative, whole, places, power⟩ :=
  ⟨hwhole, fun hzero => absurd (hhead.symm.trans hzero) (head?_toDigits_ne_zero hn), hplaces,
    hpower⟩

/-- A decimal in positional form. -/
theorem plain_spec (negative : Bool) (hpos : 0 < d.digits) :
    ∃ t : NumberText, t.negative = negative ∧ t.Spells (d.plain true) d := by
  have hdigits := isDigits_toDigits d.digits
  have hvalue := digitsValue_toDigits d.digits
  have hlength : 0 < (Nat.toDigits 10 d.digits).length := Nat.length_toDigits_pos
  unfold Decimal.plain Decimal.digitsOf
  dsimp only
  by_cases hexponent : 0 ≤ d.exponent
  · -- The digits are filled up to the point, and a zero follows it.
    obtain ⟨k, hk⟩ := Int.eq_ofNat_of_zero_le hexponent
    rw [if_pos hexponent, hk, Int.toNat_natCast]
    refine ⟨⟨negative, Nat.toDigits 10 d.digits ++ List.replicate k '0', some ['0'], none⟩, rfl,
      isFormed_of_toDigits hpos ⟨by simp [hdigits.1], ?_⟩ (List.head?_append_of_ne_nil _ hdigits.1)
        ?_ ?_, ?_, rfl, ?_⟩
    · intro c hc
      rcases List.mem_append.1 hc with hc | hc
      · exact hdigits.2 c hc
      · rw [(List.mem_replicate.1 hc).2]
        decide
    · intro ds hds
      rw [← Option.some.inj hds]
      exact isDigits_toDigits 0
    · intro _ _ h
      cases h
    · simp [text, placesText, powerText]
    · have hsignificand : significand ⟨negative, Nat.toDigits 10 d.digits ++ List.replicate k '0',
          some ['0'], none⟩ = d.digits * 10 ^ k * 10 ^ 1 := by
        rw [significand, Option.getD_some, digitsValue_append, digitsValue_append, hvalue,
          digitsValue_zeros]
        exact digitsValue_zeros _ 1
      rw [hsignificand, Decimal.value, hk]
      simp [exponent]
  · by_cases hwhole : 0 < d.exponent + ((Nat.toDigits 10 d.digits).length : Int)
    · -- The point falls among the digits.
      obtain ⟨w, hw⟩ := Int.eq_ofNat_of_zero_le hwhole.le
      have hwpos : 0 < w := by omega
      have hwlt : w < (Nat.toDigits 10 d.digits).length := by omega
      rw [if_neg hexponent, if_pos hwhole, hw, Int.toNat_natCast]
      refine ⟨⟨negative, (Nat.toDigits 10 d.digits).take w,
        some ((Nat.toDigits 10 d.digits).drop w), none⟩, rfl,
        isFormed_of_toDigits hpos (isDigits_subset hdigits ?_ (List.take_subset _ _)) ?_ ?_ ?_, ?_,
        rfl, ?_⟩
      · simp [hdigits.1]
        omega
      · rw [List.head?_take, if_neg hwpos.ne']
      · intro ds hds
        rw [← Option.some.inj hds]
        refine isDigits_subset hdigits ?_ (List.drop_subset _ _)
        simpa using hwlt
      · intro _ _ h
        cases h
      · simp [text, placesText, powerText]
      · have hsignificand : significand ⟨negative, (Nat.toDigits 10 d.digits).take w,
            some ((Nat.toDigits 10 d.digits).drop w), none⟩ = d.digits := by
          rw [significand, Option.getD_some, List.take_append_drop, hvalue]
        have hpower : exponent ⟨negative, (Nat.toDigits 10 d.digits).take w,
            some ((Nat.toDigits 10 d.digits).drop w), none⟩ = d.exponent := by
          simp only [exponent, Option.elim_none, Option.getD_some, List.length_drop]
          omega
        rw [hsignificand, hpower, Decimal.value]
    · -- Zeros stand between the point and the digits.
      obtain ⟨k, hk⟩ := Int.eq_ofNat_of_zero_le (not_lt.1 fun h => hwhole (neg_neg_iff_pos.1 h))
      rw [if_neg hexponent, if_neg hwhole, hk, Int.toNat_natCast]
      refine ⟨⟨negative, ['0'], some (List.replicate k '0' ++ Nat.toDigits 10 d.digits), none⟩, rfl,
        ⟨isDigits_toDigits 0, fun _ => rfl, ?_, ?_⟩, ?_, rfl, ?_⟩
      · intro ds hds
        rw [← Option.some.inj hds]
        exact isDigits_zeros hdigits
      · intro _ _ h
        cases h
      · simp [text, placesText, powerText]
      · have hsignificand : significand ⟨negative, ['0'],
            some (List.replicate k '0' ++ Nat.toDigits 10 d.digits), none⟩ = d.digits := by
          rw [significand, Option.getD_some, digitsValue_append, digitsValue_append]
          rw [show digitsValue 0 ['0'] = 0 from rfl, digitsValue_zeros, Nat.zero_mul, hvalue]
        have hpower : exponent ⟨negative, ['0'],
            some (List.replicate k '0' ++ Nat.toDigits 10 d.digits), none⟩ = d.exponent := by
          simp only [exponent, Option.elim_none, Option.getD_some, List.length_append,
            List.length_replicate]
          omega
        rw [hsignificand, hpower, Decimal.value]

/-- A decimal with an exponent. -/
theorem scientific_spec (negative : Bool) (hpos : 0 < d.digits) :
    ∃ t : NumberText, t.negative = negative ∧ t.Spells (d.scientific true) d := by
  have hdigits := isDigits_toDigits d.digits
  have hvalue := digitsValue_toDigits d.digits
  have hhead := head?_toDigits_ne_zero hpos
  have hlead : d.lead = d.exponent + ((Nat.toDigits 10 d.digits).length : Int) - 1 := rfl
  unfold Decimal.scientific Decimal.digitsOf
  dsimp only
  cases hds : Nat.toDigits 10 d.digits with
  | nil => exact absurd hds hdigits.1
  | cons c rest =>
    rw [hds] at hdigits hvalue hlead hhead
    -- The point is left out where one digit is enough.
    set places : Option (List Char) := if rest = [] then none else some rest with hplaces
    have hgetD : places.getD [] = rest := by
      rw [hplaces]
      split
      · rename_i hrest
        exact hrest.symm
      · rfl
    refine ⟨⟨negative, [c], places, some (decide (d.lead < 0), Nat.toDigits 10 d.lead.natAbs)⟩, rfl,
      ⟨isDigits_subset hdigits (List.cons_ne_nil _ _) (by simp), fun _ => rfl, ?_, ?_⟩, ?_, ?_, ?_⟩
    · intro ds hsome
      rw [hplaces] at hsome
      split at hsome
      · cases hsome
      · rename_i hrest
        rw [← Option.some.inj hsome]
        exact isDigits_subset hdigits hrest (List.subset_cons_self _ _)
    · intro _ ds hsome
      cases hsome
      exact isDigits_toDigits _
    · cases rest with
      | nil => by_cases hneg : d.lead < 0 <;> simp [text, placesText, powerText, hplaces, hneg]
      | cons c' rest =>
        by_cases hneg : d.lead < 0 <;> simp [text, placesText, powerText, hplaces, hneg]
    · exact Bool.and_false _
    · have hsignificand : significand ⟨negative, [c], places,
          some (decide (d.lead < 0), Nat.toDigits 10 d.lead.natAbs)⟩ = d.digits := by
        rw [significand]
        show digitsValue 0 ([c] ++ places.getD []) = _
        rw [hgetD]
        exact hvalue
      have hpower : exponent ⟨negative, [c], places,
          some (decide (d.lead < 0), Nat.toDigits 10 d.lead.natAbs)⟩ = d.exponent := by
        have habs := digitsValue_toDigits d.lead.natAbs
        rw [List.length_cons] at hlead
        unfold exponent
        simp only [Option.elim_some, hgetD, habs, decide_eq_true_eq]
        split <;> omega
      rw [hsignificand, hpower, Decimal.value]

/-- A finite number is written as a number that stands for it. -/
theorem writeFloat_spec (hfinite : x.isFinite = true) :
    ∃ t : NumberText, t.IsFormed ∧ Json.writeFloat x = t.signed ∧ t.meaning = .float x := by
  have hmagnitude := Binary64.isFinite_iff.1 hfinite
  have hnan : x.isNaN = false := decide_eq_false (by unfold Binary64.infiniteMagnitude; omega)
  have hinfinite : x.isInfinite = false := by
    rw [Binary64.isInfinite, beq_eq_false_iff_ne]
    unfold Binary64.infiniteMagnitude
    omega
  have hsigned : ∀ t : NumberText, t.negative = x.negative →
      t.signed = (if x.negative then ['-'] else []) ++ t.text := by
    intro t hsign
    rw [signed, hsign]
    split <;> rfl
  by_cases hzero : x.magnitude = 0
  · refine ⟨⟨x.negative, ['0'], some ['0'], none⟩, ⟨isDigits_toDigits 0, fun _ => rfl, ?_, ?_⟩, ?_,
      meaning_eq_float rfl hfinite rfl (.inr ⟨hzero, rfl⟩)⟩
    · intro ds hds
      rw [← Option.some.inj hds]
      exact isDigits_toDigits 0
    · intro _ _ h
      cases h
    · rw [hsigned _ rfl, Json.writeFloat, FloatLayout.write]
      simp [hnan, hinfinite, Binary64.isZero, hzero, FloatLayout.json, text, placesText, powerText]
  · have hpos := Binary64.shortest_digits_pos hfinite hzero
    have howns := Binary64.owns_shortest hfinite hzero
    obtain ⟨t, hsign, hformed, htext, hfloat, hvalue⟩ : ∃ t : NumberText, t.negative = x.negative ∧
        t.Spells (if FloatLayout.json.smallest.any (fun b => x.shortest.lead < b) ||
            FloatLayout.json.largest.any (fun b => b ≤ x.shortest.lead) then
          x.shortest.scientific true else x.shortest.plain true) x.shortest := by
      split
      · exact scientific_spec x.negative hpos
      · exact plain_spec x.negative hpos
    have hsignificand : 0 < t.significand := by
      have hvalue_pos := (Binary64.floor_pos hzero).trans_le howns.floor_le
      rw [← hvalue] at hvalue_pos
      by_contra hnot
      rw [Nat.eq_zero_of_not_pos hnot] at hvalue_pos
      simp at hvalue_pos
    refine ⟨t, hformed, ?_, meaning_eq_float hfloat hfinite hsign (.inl ⟨hzero, hsignificand, ?_⟩)⟩
    · have hnonzero : x.isZero = false := by
        rw [Binary64.isZero, beq_eq_false_iff_ne]
        exact hzero
      rw [hsigned t hsign, htext, Json.writeFloat, FloatLayout.write, hnan, hinfinite, hnonzero]
      rw [if_neg Bool.false_ne_true, if_neg Bool.false_ne_true, if_neg Bool.false_ne_true]
      exact String.toList_ofList
    · rw [hvalue]
      exact howns

end Document.NumberText

end Endpoint
