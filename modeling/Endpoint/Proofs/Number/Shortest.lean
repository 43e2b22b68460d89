import Endpoint.Number.Digits
import Endpoint.Proofs.Number.Rounding
import Mathlib

/-!
# The digits of a number round back to it

The search for the digits of a number tests decimals against the interval of the fractions that the
number owns.  On the grid of seventeen digits the two neighbours of the number cannot both miss that
interval, since they stand closer together than its ends, so the search always finds a decimal.
-/

namespace Endpoint

/-- The number that decimal digits stand for. -/
def Decimal.value (d : Decimal) : ℚ := d.digits * 10 ^ d.exponent

theorem Decimal.value_trim (fuel : Nat) (d : Decimal) : (d.trim fuel).value = d.value := by
  induction fuel generalizing d with
  | zero => rfl
  | succ fuel ih =>
    rw [trim]
    split
    · rename_i hzero
      have hdigits : (d.digits : ℚ) = 10 * (d.digits / 10 : Nat) := by
        have hdigits : d.digits = 10 * (d.digits / 10) := by omega
        exact_mod_cast hdigits
      rw [ih, value, value, hdigits, zpow_add_one₀ (by norm_num)]
      ring
    · rfl

namespace Binary64

variable {x : Binary64} {d : Decimal} {num den : Nat}

/-! ## The interval -/

theorem floor_pos (hzero : x.magnitude ≠ 0) : 0 < x.floor := by
  have hpos : (1 : ℚ) ≤ x.parts.1 := by exact_mod_cast significand_pos hzero
  rw [floor]
  apply mul_pos _ (by positivity)
  split <;> linarith

theorem floor_lt_absolute : x.floor < x.absolute := by
  rw [floor, absolute]
  gcongr
  split <;> linarith

theorem absolute_lt_ceiling : x.absolute < x.ceiling := by
  rw [absolute, ceiling]
  gcongr
  linarith

/-- What the scaled ends of an interval stand for. -/
structure Interval.Represents (i : Interval) (x : Binary64) : Prop where
  scale_pos : 0 < i.scale
  value : (i.value : ℚ) / i.scale = x.absolute
  lower : (i.lower : ℚ) / i.scale = x.floor
  upper : (i.upper : ℚ) / i.scale = x.ceiling
  closed : i.closed = true ↔ x.parts.1 % 2 = 0

/-- The common factor of an interval, whose ends are quarters of the last digit. -/
theorem scaled_quarters (n : Nat) (e : Int) :
    ((n * (if 0 ≤ e then 1 <<< e.toNat else 1) : Nat) : ℚ) /
      ((if 0 ≤ e then 4 else 4 * (1 <<< (-e).toNat) : Nat) : ℚ) = n / 4 * 2 ^ e := by
  split
  · rename_i he
    rw [zpow_toNat _ he, Nat.one_shiftLeft]
    push_cast
    ring
  · rename_i he
    rw [zpow_neg_toNat _ he, Nat.one_shiftLeft]
    push_cast
    rw [mul_one, ← div_div, div_eq_mul_inv]

theorem interval_eq (x : Binary64) :
    let up := if 0 ≤ x.parts.2 then 1 <<< x.parts.2.toNat else 1
    x.interval = ⟨4 * x.parts.1 * up,
      (if decide x.IsStep then 4 * x.parts.1 - 1 else 4 * x.parts.1 - 2) * up,
      (4 * x.parts.1 + 2) * up, if 0 ≤ x.parts.2 then 4 else 4 * (1 <<< (-x.parts.2).toNat),
      decide (x.parts.1 % 2 = 0)⟩ := rfl

theorem interval_represents (hzero : x.magnitude ≠ 0) : x.interval.Represents x := by
  have hpos := significand_pos hzero
  rw [interval_eq]
  constructor
  · dsimp only
    rw [Nat.one_shiftLeft]
    split <;> positivity
  · dsimp only
    rw [scaled_quarters, absolute]
    push_cast
    ring
  · dsimp only
    rw [scaled_quarters, floor]
    by_cases h : x.IsStep
    · rw [if_pos h, if_pos (decide_eq_true h), Nat.cast_sub (by omega)]
      push_cast
      ring
    · rw [if_neg h, if_neg (by simpa using h), Nat.cast_sub (by omega)]
      push_cast
      ring
  · dsimp only
    rw [scaled_quarters, ceiling]
    push_cast
    ring
  · exact decide_eq_true_iff

/-- The test of a fraction against the scaled ends of an interval. -/
theorem Interval.Represents.owns_iff {i : Interval} (h : i.Represents x) (hden : 0 < den) :
    (if i.closed then
        decide (i.lower * den ≤ num * i.scale) && decide (num * i.scale ≤ i.upper * den)
      else decide (i.lower * den < num * i.scale) && decide (num * i.scale < i.upper * den)) =
        true ↔ x.Owns ((num : ℚ) / den) := by
  have hscale : (0 : ℚ) < i.scale := by exact_mod_cast h.scale_pos
  have hden' : (0 : ℚ) < den := by exact_mod_cast hden
  have hfloor : x.floor < (num : ℚ) / den ↔ i.lower * den < num * i.scale := by
    rw [← h.lower, div_lt_div_iff₀ hscale hden']
    exact_mod_cast Iff.rfl
  have hfloor_le : x.floor ≤ (num : ℚ) / den ↔ i.lower * den ≤ num * i.scale := by
    rw [← h.lower, div_le_div_iff₀ hscale hden']
    exact_mod_cast Iff.rfl
  have hceiling : (num : ℚ) / den < x.ceiling ↔ num * i.scale < i.upper * den := by
    rw [← h.upper, div_lt_div_iff₀ hden' hscale]
    exact_mod_cast Iff.rfl
  have hle_ceiling : (num : ℚ) / den ≤ x.ceiling ↔ num * i.scale ≤ i.upper * den := by
    rw [← h.upper, div_le_div_iff₀ hden' hscale]
    exact_mod_cast Iff.rfl
  by_cases heven : x.parts.1 % 2 = 0
  · rw [if_pos (h.closed.2 heven), Bool.and_eq_true, decide_eq_true_iff, decide_eq_true_iff,
      ← hfloor_le, ← hle_ceiling]
    exact ⟨fun ⟨hlow, hhigh⟩ => ⟨hlow, hhigh, fun _ => heven⟩,
      fun howns => ⟨howns.floor_le, howns.le_ceiling⟩⟩
  · rw [if_neg fun hclosed => heven (h.closed.1 hclosed), Bool.and_eq_true, decide_eq_true_iff,
      decide_eq_true_iff, ← hfloor, ← hceiling]
    constructor
    · rintro ⟨hlow, hhigh⟩
      exact ⟨hlow.le, hhigh.le, fun hend => (hend.elim hlow.ne' hhigh.ne).elim⟩
    · intro howns
      exact ⟨lt_of_le_of_ne howns.floor_le fun hend => heven (howns.even (.inl hend.symm)),
        lt_of_le_of_ne howns.le_ceiling fun hend => heven (howns.even (.inr hend))⟩

/-- A decimal lies in the interval exactly if the number owns it. -/
theorem contains_iff (hzero : x.magnitude ≠ 0) : x.interval.contains d = true ↔ x.Owns d.value := by
  have hrepresents := interval_represents hzero
  rw [Interval.contains, Decimal.value]
  by_cases hexponent : 0 ≤ d.exponent
  · have hvalue : (d.digits * 10 ^ d.exponent : ℚ) =
        ((d.digits * 10 ^ d.exponent.toNat : Nat) : ℚ) / (1 : Nat) := by
      rw [zpow_toNat _ hexponent, Nat.cast_one, div_one]
      push_cast
      rfl
    rw [if_pos hexponent, hvalue]
    exact hrepresents.owns_iff one_pos
  · have hvalue : (d.digits * 10 ^ d.exponent : ℚ) =
        (d.digits : ℚ) / ((10 ^ (-d.exponent).toNat : Nat) : ℚ) := by
      rw [zpow_neg_toNat _ hexponent, ← div_eq_mul_inv]
      push_cast
      rfl
    rw [if_neg hexponent, hvalue]
    exact hrepresents.owns_iff (Nat.pow_pos (by decide))

/-! ## The search -/

/-- The digits of a number bound it. -/
theorem pow_length_digitsOf (hnum : 0 < num) :
    10 ^ ((Decimal.digitsOf num).length - 1) ≤ num ∧
      num < 10 ^ (Decimal.digitsOf num).length := by
  have hlength : 0 < (Decimal.digitsOf num).length := Nat.length_toDigits_pos
  refine ⟨?_, (Nat.length_toDigits_le_iff (by decide) hlength).1 (le_refl _)⟩
  by_cases hone : (Decimal.digitsOf num).length - 1 = 0
  · rw [hone]
    exact hnum
  · by_contra hlt
    have hle := (Nat.length_toDigits_le_iff (by decide) (by omega)).2 (not_le.1 hlt)
    have hlength' : (Nat.toDigits 10 num).length = (Decimal.digitsOf num).length := rfl
    omega

/-- The power of ten of the leading digit is at most the number. -/
theorem ten_zpow_leadingPower_le (hnum : 0 < num) (hden : 0 < den) :
    (10 : ℚ) ^ leadingPower num den ≤ (num : ℚ) / den := by
  have hden' : (0 : ℚ) < den := by exact_mod_cast hden
  unfold leadingPower
  extract_lets size guess reached
  by_cases hreached : reached = true
  · rw [if_pos hreached]
    exact (zpow_le_div_iff (by decide) hden guess).1 hreached
  · rw [if_neg hreached, le_div_iff₀ hden']
    obtain ⟨hnumlow, -⟩ := pow_length_digitsOf hnum
    obtain ⟨-, hdenhigh⟩ := pow_length_digitsOf hden
    have hlength : 0 < (Decimal.digitsOf num).length := Nat.length_toDigits_pos
    have hexponent : guess - 1 = (((Decimal.digitsOf num).length - 1 : Nat) : Int) -
        (Decimal.digitsOf den).length := by
      show ((Decimal.digitsOf num).length : Int) - (Decimal.digitsOf den).length - 1 = _
      omega
    calc (10 : ℚ) ^ (guess - 1) * den
        ≤ 10 ^ (guess - 1) * 10 ^ (Decimal.digitsOf den).length := by
          gcongr
          exact_mod_cast hdenhigh.le
      _ = 10 ^ ((Decimal.digitsOf num).length - 1) := by
          rw [hexponent, zpow_sub₀ (by norm_num), zpow_natCast, zpow_natCast]
          exact div_mul_cancel₀ _ (by positivity)
      _ ≤ num := by exact_mod_cast hnumlow

/-- The neighbours of a number on a grid, and which of them is chosen. -/
theorem Interval.nearest?_cases (i : Interval) (power : Int) :
    ∃ num den : Nat, (num : ℚ) / den = (i.value : ℚ) / i.scale / 10 ^ power ∧
      (0 < i.scale → 0 < den) ∧
      ((∃ d, i.nearest? power = some d ∧ i.contains d = true) ∨
        i.nearest? power = none ∧ (i.contains ⟨num / den, power⟩ && num / den != 0) = false ∧
          i.contains ⟨num / den + 1, power⟩ = false) := by
  have hten : ∀ n, Nat.pow 10 n = 10 ^ n := fun _ => rfl
  unfold nearest?
  generalize hgrid : (if 0 ≤ power then (i.value, i.scale * Nat.pow 10 power.toNat)
    else (i.value * Nat.pow 10 (-power).toNat, i.scale)) = grid
  obtain ⟨num, den⟩ := grid
  refine ⟨num, den, ?_, ?_, ?_⟩
  · by_cases hpower : 0 ≤ power
    · rw [if_pos hpower] at hgrid
      cases hgrid
      rw [zpow_toNat _ hpower, hten, div_div]
      push_cast
      rfl
    · rw [if_neg hpower] at hgrid
      cases hgrid
      rw [zpow_neg_toNat _ hpower, hten, div_inv_eq_mul]
      push_cast
      ring
  · intro hscale
    by_cases hpower : 0 ≤ power
    · rw [if_pos hpower] at hgrid
      cases hgrid
      rw [hten]
      positivity
    · rw [if_neg hpower] at hgrid
      cases hgrid
      exact hscale
  · dsimp only
    cases hbelow : i.contains ⟨num / den, power⟩ && num / den != 0 with
    | false =>
      cases habove : i.contains ⟨num / den + 1, power⟩ with
      | false => exact .inr ⟨rfl, rfl, rfl⟩
      | true => exact .inl ⟨_, rfl, habove⟩
    | true =>
      have hcontains := (Bool.and_eq_true_iff.1 hbelow).1
      cases habove : i.contains ⟨num / den + 1, power⟩ with
      | false => exact .inl ⟨_, rfl, hcontains⟩
      | true =>
        left
        dsimp only
        split
        · exact ⟨_, rfl, hcontains⟩
        · split
          · exact ⟨_, rfl, habove⟩
          · split
            · exact ⟨_, rfl, hcontains⟩
            · exact ⟨_, rfl, habove⟩

theorem Owns.of_between {v : ℚ} (hfloor : x.floor < v) (hceiling : v < x.ceiling) : x.Owns v :=
  ⟨hfloor.le, hceiling.le, fun h => (h.elim hfloor.ne' hceiling.ne).elim⟩

theorem owns_of_nearest? (hzero : x.magnitude ≠ 0) {power : Int}
    (h : x.interval.nearest? power = some d) : x.Owns d.value := by
  obtain ⟨num, den, -, -, ⟨d', hd', hcontains⟩ | ⟨hnone, -⟩⟩ := x.interval.nearest?_cases power
  · rw [h] at hd'
    cases hd'
    exact (contains_iff hzero).1 hcontains
  · rw [h] at hnone
    cases hnone

/-- On a grid finer than the interval one of the neighbours lies in it. -/
theorem nearest?_ne_none (hzero : x.magnitude ≠ 0) {power : Int}
    (hfine : (10 : ℚ) ^ power < x.ceiling - x.floor) : x.interval.nearest? power ≠ none := by
  have hrepresents := interval_represents hzero
  have hstep : (0 : ℚ) < 10 ^ power := by positivity
  obtain ⟨num, den, hratio, hden, ⟨d, hd, -⟩ | ⟨-, hbelow, habove⟩⟩ :=
    x.interval.nearest?_cases power
  · rw [hd]
    exact Option.some_ne_none d
  · exfalso
    have hden' : (0 : ℚ) < den := by exact_mod_cast hden hrepresents.scale_pos
    rw [hrepresents.value, div_eq_div_iff hden'.ne' hstep.ne'] at hratio
    set below : ℚ := ((num / den : Nat) : ℚ) * 10 ^ power with hbelow_eq
    have hlow : below ≤ x.absolute := by
      have hdiv : ((num / den : Nat) : ℚ) * den ≤ num := by exact_mod_cast Nat.div_mul_le_self _ _
      refine le_of_mul_le_mul_right ?_ hden'
      calc below * den = (num / den : Nat) * den * 10 ^ power := by ring
        _ ≤ num * 10 ^ power := by gcongr
        _ = x.absolute * den := hratio
    have hhigh : x.absolute < below + 10 ^ power := by
      have hdiv : (num : ℚ) < ((num / den : Nat) + 1) * den := by
        rw [mul_comm]
        exact_mod_cast Nat.lt_mul_div_succ num (hden hrepresents.scale_pos)
      refine lt_of_mul_lt_mul_right ?_ hden'.le
      calc x.absolute * den = num * 10 ^ power := hratio.symm
        _ < ((num / den : Nat) + 1) * den * 10 ^ power := by gcongr
        _ = (below + 10 ^ power) * den := by ring
    have hbelow_le : below ≤ x.floor := by
      by_contra hlt
      have howns : x.Owns below :=
        .of_between (not_le.1 hlt) (hlow.trans_lt absolute_lt_ceiling)
      have hcontains : x.interval.contains ⟨num / den, power⟩ = true := (contains_iff hzero).2 howns
      rw [hcontains, Bool.true_and, bne_eq_false_iff_eq] at hbelow
      apply hlt
      rw [hbelow_eq, hbelow, Nat.cast_zero, zero_mul]
      exact (floor_pos hzero).le
    have hle_above : x.ceiling ≤ below + 10 ^ power := by
      by_contra hlt
      have howns : x.Owns (below + 10 ^ power) :=
        .of_between (floor_lt_absolute.trans hhigh) (not_le.1 hlt)
      have hvalue : below + 10 ^ power = (⟨num / den + 1, power⟩ : Decimal).value := by
        rw [Decimal.value]
        push_cast
        ring
      rw [hvalue, ← contains_iff hzero, habove] at howns
      cases howns
    linarith

/-- The search finds a decimal that the number owns if one of its grids is fine enough. -/
theorem owns_shortestFrom (hzero : x.magnitude ≠ 0) (lead : Int) (fuel count : Nat)
    (hfine : ∃ n, count ≤ n ∧ n < count + fuel ∧
      (10 : ℚ) ^ (lead - (n : Int) + 1) < x.ceiling - x.floor) :
    x.Owns (x.interval.shortestFrom lead fuel count).value := by
  obtain ⟨n, hle, hlt, hn⟩ := hfine
  induction fuel generalizing count with
  | zero => omega
  | succ fuel ih =>
    rw [Interval.shortestFrom]
    cases hd : x.interval.nearest? (lead - (count : Int) + 1) with
    | some d =>
      dsimp only
      rw [Decimal.value_trim]
      exact owns_of_nearest? hzero hd
    | none =>
      have hne : n ≠ count := by
        rintro rfl
        exact nearest?_ne_none hzero hn hd
      exact ih (count + 1) (by omega) (by omega)

/-- A grid of seventeen digits is finer than the interval. -/
theorem seventeen_digits_fine (hfinite : x.isFinite = true) {lead : Int}
    (hlead : (10 : ℚ) ^ lead ≤ x.absolute) : (10 : ℚ) ^ (lead - 16) < x.ceiling - x.floor := by
  have hpow : (0 : ℚ) < 2 ^ x.parts.2 := by positivity
  have hsignificand : (x.parts.1 : ℚ) ≤ 2 ^ 53 := by
    exact_mod_cast (partsBounded hfinite).significand_lt.le
  have hwidth : x.parts.1 / 10 ^ 16 < (x.parts.1 + 1 / 2 : ℚ) -
      (x.parts.1 - if x.IsStep then 1 / 4 else 1 / 2) := by
    by_cases hstep : x.IsStep
    · have hsignificand' : (x.parts.1 : ℚ) = 2 ^ 52 := by exact_mod_cast hstep.1
      rw [if_pos hstep, hsignificand']
      norm_num
    · rw [if_neg hstep]
      have hsmall : (x.parts.1 : ℚ) / 10 ^ 16 ≤ 2 ^ 53 / 10 ^ 16 := by gcongr
      linarith [show (2 : ℚ) ^ 53 / 10 ^ 16 < 1 by norm_num]
  calc (10 : ℚ) ^ (lead - 16) = 10 ^ lead / 10 ^ 16 := zpow_sub₀ (by norm_num) lead 16
    _ ≤ x.absolute / 10 ^ 16 := div_le_div_of_nonneg_right hlead (by positivity)
    _ = x.parts.1 / 10 ^ 16 * 2 ^ x.parts.2 := by
      rw [absolute]
      ring
    _ < ((x.parts.1 + 1 / 2 : ℚ) - (x.parts.1 - if x.IsStep then 1 / 4 else 1 / 2)) *
        2 ^ x.parts.2 := by gcongr
    _ = x.ceiling - x.floor := by
      rw [ceiling, floor]
      ring

/-- The digits of a finite number are among those that it owns. -/
theorem owns_shortest (hfinite : x.isFinite = true) (hzero : x.magnitude ≠ 0) :
    x.Owns x.shortest.value := by
  have hrepresents := interval_represents hzero
  have hvalue : 0 < x.interval.value := by
    have habsolute : 0 < (x.interval.value : ℚ) / x.interval.scale := by
      rw [hrepresents.value]
      exact (floor_pos hzero).trans floor_lt_absolute
    by_contra hnot
    rw [Nat.eq_zero_of_not_pos hnot] at habsolute
    simp at habsolute
  have hlead := ten_zpow_leadingPower_le hvalue hrepresents.scale_pos
  rw [hrepresents.value] at hlead
  apply owns_shortestFrom hzero
  refine ⟨17, by omega, by omega, ?_⟩
  have hpower : leadingPower x.interval.value x.interval.scale - ((17 : Nat) : Int) + 1 =
      leadingPower x.interval.value x.interval.scale - 16 := by omega
  rw [hpower]
  exact seventeen_digits_fine hfinite hlead

theorem shortest_digits_pos (hfinite : x.isFinite = true) (hzero : x.magnitude ≠ 0) :
    0 < x.shortest.digits := by
  have hpos := (floor_pos hzero).trans_le (owns_shortest hfinite hzero).floor_le
  by_contra hnot
  rw [Decimal.value, Nat.eq_zero_of_not_pos hnot] at hpos
  simp at hpos

end Binary64

end Endpoint
