import Endpoint.Number.Binary64
import Mathlib

/-!
# Rounding to the nearest number

A finite number owns the fractions that lie nearest to it: those between the middles to its two
neighbours, and the middles themselves if its significand is even.  Below a power of two the
neighbours stand at half the distance.  Whatever fraction or decimal a number owns is rounded to
that number.
-/

namespace Endpoint

namespace Binary64

/-- The absolute value of a finite number. -/
def absolute (x : Binary64) : ℚ := x.parts.1 * 2 ^ x.parts.2

/-- Whether the numbers below stand closer together than those above. -/
def IsStep (x : Binary64) : Prop := x.parts.1 = 2 ^ 52 ∧ -1074 < x.parts.2

instance (x : Binary64) : Decidable x.IsStep := inferInstanceAs (Decidable (_ ∧ _))

/-- The lower end of the fractions that round to a number. -/
def floor (x : Binary64) : ℚ := (x.parts.1 - (if x.IsStep then 1 / 4 else 1 / 2)) * 2 ^ x.parts.2

/-- The upper end of the fractions that round to a number. -/
def ceiling (x : Binary64) : ℚ := (x.parts.1 + 1 / 2) * 2 ^ x.parts.2

/-- A fraction lies nearest to a number. -/
structure Owns (x : Binary64) (v : ℚ) : Prop where
  floor_le : x.floor ≤ v
  le_ceiling : v ≤ x.ceiling
  /-- a middle belongs to the even one of its two neighbours -/
  even : v = x.floor ∨ v = x.ceiling → x.parts.1 % 2 = 0

variable {x : Binary64} {v : ℚ} {num den : Nat}

/-! ## Significands and exponents -/

theorem isFinite_iff : x.isFinite = true ↔ x.magnitude < 2047 * 2 ^ 52 := by
  rw [isFinite, decide_eq_true_eq]
  exact Iff.rfl

/-- The parts of a magnitude field, by whether the exponent bits are all zero. -/
theorem parts_cases (x : Binary64) :
    (x.magnitude < 2 ^ 52 ∧ x.parts = (x.magnitude, -1074)) ∨
      ∃ exponent fraction : Nat, 0 < exponent ∧ fraction < 2 ^ 52 ∧
        x.magnitude = exponent * 2 ^ 52 + fraction ∧
        x.parts = (2 ^ 52 + fraction, (exponent : Int) - 1075) := by
  have hshift : x.magnitude >>> 52 = x.magnitude / 2 ^ 52 := Nat.shiftRight_eq_div_pow _ _
  have hone : 1 <<< 52 = 2 ^ 52 := by decide
  have hdivmod := Nat.div_add_mod x.magnitude (2 ^ 52)
  unfold parts
  simp only [hshift, hone]
  by_cases hzero : x.magnitude / 2 ^ 52 = 0
  · have hsmall : x.magnitude < 2 ^ 52 := by omega
    left
    refine ⟨hsmall, ?_⟩
    rw [if_pos hzero, Nat.mod_eq_of_lt hsmall]
  · right
    refine ⟨x.magnitude / 2 ^ 52, x.magnitude % 2 ^ 52, by omega, Nat.mod_lt _ (by decide),
      by omega, ?_⟩
    rw [if_neg hzero]

/-- The significand of a finite number has at most 53 bits, and has all of them unless the exponent
    is the least one. -/
structure PartsBounded (x : Binary64) : Prop where
  significand_lt : x.parts.1 < 2 ^ 53
  least_le : -1074 ≤ x.parts.2
  le_greatest : x.parts.2 ≤ 971
  full : x.parts.2 = -1074 ∨ 2 ^ 52 ≤ x.parts.1

theorem partsBounded (hfinite : x.isFinite = true) : x.PartsBounded := by
  rw [isFinite_iff] at hfinite
  rcases parts_cases x with ⟨hsmall, hparts⟩ | ⟨exponent, fraction, hpos, hfraction, hmag, hparts⟩
  · have hsignificand : x.parts.1 = x.magnitude := by rw [hparts]
    have hexponent : x.parts.2 = -1074 := by rw [hparts]
    exact ⟨by omega, by omega, by omega, .inl hexponent⟩
  · have hsignificand : x.parts.1 = 2 ^ 52 + fraction := by rw [hparts]
    have hexponent : x.parts.2 = (exponent : Int) - 1075 := by rw [hparts]
    exact ⟨by omega, by omega, by omega, .inr (by omega)⟩

theorem significand_pos (hzero : x.magnitude ≠ 0) : 0 < x.parts.1 := by
  rcases parts_cases x with ⟨-, hparts⟩ | ⟨_, _, -, -, -, hparts⟩
  · rw [hparts]
    exact Nat.pos_of_ne_zero hzero
  · rw [hparts]
    positivity

theorem fieldOf_parts (hzero : x.magnitude ≠ 0) : fieldOf x.parts.1 x.parts.2 = x.magnitude := by
  rcases parts_cases x with ⟨hsmall, hparts⟩ | ⟨exponent, fraction, hpos, hfraction, hmag, hparts⟩
  · have hlog : Nat.log2 x.magnitude < 52 := (Nat.log2_lt hzero).2 hsmall
    rw [hparts]
    have htop : ¬ (-1022 : Int) ≤ -1074 + (Nat.log2 x.magnitude : Int) := by omega
    unfold fieldOf
    dsimp only
    rw [if_neg hzero, if_neg htop]
    rfl
  · have hlog : Nat.log2 (2 ^ 52 + fraction) = 52 :=
      (Nat.log2_eq_iff (by omega)).2 ⟨by omega, by omega⟩
    rw [hparts]
    simp only [fieldOf]
    rw [if_neg (by omega), hlog, if_pos (by omega), if_pos (le_refl _), hmag]
    simp only [Nat.sub_self, Nat.shiftLeft_zero, Nat.one_shiftLeft]
    have hfield : ((exponent : Int) - 1075 + (52 : Nat) + 1023).toNat = exponent := by omega
    rw [hfield]
    omega

/-! ## Powers -/

theorem zpow_toNat (base : ℚ) {e : Int} (he : 0 ≤ e) : base ^ e = base ^ e.toNat := by
  rw [← zpow_natCast, Int.toNat_of_nonneg he]

theorem zpow_neg_toNat (base : ℚ) {e : Int} (he : ¬ 0 ≤ e) : base ^ e = (base ^ (-e).toNat)⁻¹ := by
  rw [← zpow_natCast, Int.toNat_of_nonneg (by omega), zpow_neg, inv_inv]

theorem two_zpow_add (e : Int) (n : Nat) : (2 : ℚ) ^ (e + n) = 2 ^ n * 2 ^ e := by
  rw [zpow_add₀ (by norm_num), zpow_natCast, mul_comm]

theorem two_zpow_le_ten_zpow {n : Int} (hn : 0 ≤ n) : (2 : ℚ) ^ (3 * n) ≤ 10 ^ n := by
  rw [zpow_mul]
  exact zpow_le_zpow_left₀ hn (by norm_num) (by norm_num)

theorem ten_zpow_le_two_zpow {n : Int} (hn : n ≤ 0) : (10 : ℚ) ^ n ≤ 2 ^ (3 * n) := by
  have hinv := inv_anti₀ (by positivity) (two_zpow_le_ten_zpow (show 0 ≤ -n by omega))
  rwa [← zpow_neg, ← zpow_neg, neg_neg, ← mul_neg, neg_neg] at hinv

/-- The binary logarithm bounds a number by powers of two. -/
theorem two_zpow_log2 {n : Nat} (hn : 0 < n) :
    (2 : ℚ) ^ (Nat.log2 n : Int) ≤ n ∧ (n : ℚ) < 2 ^ ((Nat.log2 n : Int) + 1) := by
  constructor
  · rw [zpow_natCast]
    exact_mod_cast Nat.log2_self_le hn.ne'
  · rw [← Nat.cast_succ, zpow_natCast]
    exact_mod_cast Nat.lt_log2_self

/-- How a fraction is compared with a power of a base, without forming fractions. -/
theorem zpow_le_div_iff {base : Nat} (hbase : 0 < base) (hden : 0 < den) (e : Int) :
    (if 0 ≤ e then decide (den * base ^ e.toNat ≤ num)
      else decide (den ≤ num * base ^ (-e).toNat)) = true ↔ (base : ℚ) ^ e ≤ (num : ℚ) / den := by
  have hden' : (0 : ℚ) < den := by exact_mod_cast hden
  have hbase' : (0 : ℚ) < base := by exact_mod_cast hbase
  rw [le_div_iff₀ hden']
  split
  · rename_i he
    rw [zpow_toNat _ he, decide_eq_true_iff, mul_comm]
    exact_mod_cast Iff.rfl
  · rename_i he
    rw [zpow_neg_toNat _ he, decide_eq_true_iff, inv_mul_le_iff₀ (by positivity), mul_comm num]
    exact_mod_cast Iff.rfl

/-! ## The rounding steps -/

/-- Rounding gives the integer within a half, on a half the even one. -/
theorem roundDiv_eq_of_le {q : Nat} (hlow : 2 * (q * den) ≤ 2 * num + den)
    (hhigh : 2 * num ≤ 2 * (q * den) + den)
    (heven : 2 * (q * den) = 2 * num + den ∨ 2 * num = 2 * (q * den) + den → q % 2 = 0)
    (hden : 0 < den) : roundDiv num den = q := by
  have hmod := Nat.mod_lt num hden
  have hdivmod := Nat.div_add_mod' num den
  unfold roundDiv
  dsimp only
  -- The quotient is `q` or one less, by the side of `q` on which the fraction lies.
  by_cases hge : q * den ≤ num
  · have hquot : num / den = q := by
      apply Nat.div_eq_of_lt_le hge
      rw [Nat.add_mul]
      omega
    rw [hquot] at hdivmod ⊢
    by_cases hless : 2 * (num % den) < den
    · rw [if_pos hless]
    · rw [if_neg hless, if_neg (by omega), if_pos (heven (by omega))]
  · have hpos : 0 < q := by
      rcases Nat.eq_zero_or_pos q with rfl | hpos
      · omega
      · exact hpos
    have hpred : q * den = (q - 1) * den + den := by
      rw [← Nat.succ_mul]
      congr 1
      omega
    have hquot : num / den = q - 1 := by
      apply Nat.div_eq_of_lt_le
      · omega
      · rw [Nat.sub_add_cancel hpos]
        omega
    rw [hquot] at hdivmod ⊢
    rw [if_neg (by omega)]
    by_cases hgreater : den < 2 * (num % den)
    · rw [if_pos hgreater, Nat.sub_add_cancel hpos]
    · have hq := heven (by omega)
      rw [if_neg hgreater, if_neg (by omega), Nat.sub_add_cancel hpos]

theorem roundDiv_eq {q : Nat} (hden : 0 < den) (hlow : (q : ℚ) - 1 / 2 ≤ (num : ℚ) / den)
    (hhigh : (num : ℚ) / den ≤ q + 1 / 2)
    (heven : (num : ℚ) / den = q - 1 / 2 ∨ (num : ℚ) / den = q + 1 / 2 → q % 2 = 0) :
    roundDiv num den = q := by
  have hden' : (0 : ℚ) < den := by exact_mod_cast hden
  rw [le_div_iff₀ hden'] at hlow
  rw [div_le_iff₀ hden'] at hhigh
  rw [div_eq_iff hden'.ne', div_eq_iff hden'.ne'] at heven
  apply roundDiv_eq_of_le _ _ _ hden
  · have hlow' : (2 * (q * den) : ℚ) ≤ 2 * num + den := by linarith
    exact_mod_cast hlow'
  · have hhigh' : (2 * num : ℚ) ≤ 2 * (q * den) + den := by linarith
    exact_mod_cast hhigh'
  · intro h
    apply heven
    rcases h with h | h
    · have h' : (2 * (q * den) : ℚ) = 2 * num + den := by exact_mod_cast h
      left
      linarith
    · have h' : (2 * num : ℚ) = 2 * (q * den) + den := by exact_mod_cast h
      right
      linarith

/-- The exponent of the leading digit: the fraction lies between its power of two and the next. -/
theorem leadingExponent_spec (hnum : 0 < num) (hden : 0 < den) :
    (2 : ℚ) ^ leadingExponent num den ≤ (num : ℚ) / den ∧
      (num : ℚ) / den < 2 ^ (leadingExponent num den + 1) := by
  have hden' : (0 : ℚ) < den := by exact_mod_cast hden
  have htwo : (2 : ℚ) ≠ 0 := by norm_num
  obtain ⟨hnumlow, hnumhigh⟩ := two_zpow_log2 hnum
  obtain ⟨hdenlow, hdenhigh⟩ := two_zpow_log2 hden
  unfold leadingExponent
  extract_lets guess reached
  have hguess : guess = (Nat.log2 num : Int) - (Nat.log2 den : Int) := rfl
  -- The guess is never too small, and too large by at most one.
  have hupper : (num : ℚ) / den < 2 ^ (guess + 1) := by
    rw [div_lt_iff₀ hden']
    calc (num : ℚ) < 2 ^ ((Nat.log2 num : Int) + 1) := hnumhigh
      _ = 2 ^ (guess + 1) * 2 ^ (Nat.log2 den : Int) := by
        rw [← zpow_add₀ htwo]
        congr 1
        omega
      _ ≤ 2 ^ (guess + 1) * den := by gcongr
  have hlower : (2 : ℚ) ^ (guess - 1) ≤ (num : ℚ) / den := by
    rw [le_div_iff₀ hden']
    calc (2 : ℚ) ^ (guess - 1) * den
        ≤ 2 ^ (guess - 1) * 2 ^ ((Nat.log2 den : Int) + 1) := by gcongr
      _ = 2 ^ (Nat.log2 num : Int) := by
        rw [← zpow_add₀ htwo]
        congr 1
        omega
      _ ≤ num := hnumlow
  have hreached : reached = true ↔ (2 : ℚ) ^ guess ≤ (num : ℚ) / den := by
    show (if 0 ≤ guess then decide (den <<< guess.toNat ≤ num)
      else decide (den ≤ num <<< (-guess).toNat)) = true ↔ _
    rw [Nat.shiftLeft_eq, Nat.shiftLeft_eq]
    exact zpow_le_div_iff (by decide) hden guess
  by_cases h : (2 : ℚ) ^ guess ≤ (num : ℚ) / den
  · rw [if_pos (hreached.2 h)]
    exact ⟨h, hupper⟩
  · rw [if_neg (fun hr => h (hreached.1 hr))]
    refine ⟨hlower, ?_⟩
    rw [sub_add_cancel]
    exact not_le.1 h

/-- A fraction on the grid of a power of two. -/
theorem shift_ratio (num den : Nat) (e : Int) :
    (if 0 ≤ e then (num : ℚ) / ((den <<< e.toNat : Nat) : ℚ)
      else ((num <<< (-e).toNat : Nat) : ℚ) / den) = (num : ℚ) / den / 2 ^ e := by
  split
  · rename_i he
    rw [zpow_toNat _ he, Nat.shiftLeft_eq, div_div]
    push_cast
    rfl
  · rename_i he
    rw [zpow_neg_toNat _ he, Nat.shiftLeft_eq, div_inv_eq_mul]
    push_cast
    ring

/-- Rounding on the grid of a power of two. -/
theorem roundDiv_shift {q : Nat} {e : Int} (hden : 0 < den)
    (hlow : ((q : ℚ) - 1 / 2) * 2 ^ e ≤ (num : ℚ) / den)
    (hhigh : (num : ℚ) / den ≤ (q + 1 / 2) * 2 ^ e)
    (heven : (num : ℚ) / den = (q - 1 / 2) * 2 ^ e ∨ (num : ℚ) / den = (q + 1 / 2) * 2 ^ e →
      q % 2 = 0) :
    (if 0 ≤ e then roundDiv num (den <<< e.toNat) else roundDiv (num <<< (-e).toNat) den) = q := by
  have hpow : (0 : ℚ) < 2 ^ e := by positivity
  have hratio := shift_ratio num den e
  rw [← le_div_iff₀ hpow] at hlow
  rw [← div_le_iff₀ hpow] at hhigh
  rw [← div_eq_iff hpow.ne', ← div_eq_iff hpow.ne'] at heven
  split
  · rename_i he
    rw [if_pos he] at hratio
    rw [← hratio] at hlow hhigh heven
    apply roundDiv_eq _ hlow hhigh heven
    rw [Nat.shiftLeft_eq]
    positivity
  · rename_i he
    rw [if_neg he] at hratio
    rw [← hratio] at hlow hhigh heven
    exact roundDiv_eq hden hlow hhigh heven

/-! ## Rounding what a number owns -/

theorem Owns.lt_two_zpow (h : x.Owns v) (hx : x.PartsBounded) : v < 2 ^ (x.parts.2 + 53) := by
  have hsignificand : (x.parts.1 : ℚ) + 1 / 2 < 2 ^ 53 := by
    have hle : (x.parts.1 : ℚ) + 1 ≤ 2 ^ 53 := by exact_mod_cast hx.significand_lt
    linarith
  calc v ≤ (x.parts.1 + 1 / 2) * 2 ^ x.parts.2 := h.le_ceiling
    _ < 2 ^ 53 * 2 ^ x.parts.2 := by gcongr
    _ = 2 ^ (x.parts.2 + 53) := (two_zpow_add _ 53).symm

/-- A number owns fractions below its own power of two only at a step. -/
theorem Owns.isStep (h : x.Owns v) (hx : x.PartsBounded) (hbelow : v < 2 ^ (x.parts.2 + 52))
    (hnormal : x.parts.2 ≠ -1074) : x.IsStep := by
  have hpow : (0 : ℚ) < 2 ^ x.parts.2 := by positivity
  have hfull := hx.full.resolve_left hnormal
  have hleast := hx.least_le
  have hsplit : (2 : ℚ) ^ (x.parts.2 + 52) = 2 ^ 52 * 2 ^ x.parts.2 := two_zpow_add _ 52
  refine ⟨?_, by omega⟩
  by_contra hne
  have hgreater : (2 : ℚ) ^ 52 + 1 ≤ x.parts.1 := by
    have hgreater : 2 ^ 52 + 1 ≤ x.parts.1 := by omega
    exact_mod_cast hgreater
  have hfloor := h.floor_le
  rw [floor, if_neg fun hstep => hne hstep.1] at hfloor
  rw [hsplit] at hbelow
  nlinarith

/-- On its own grid a number is the nearest one to what it owns. -/
theorem Owns.round_own (h : x.Owns ((num : ℚ) / den)) (hden : 0 < den) :
    (if 0 ≤ x.parts.2 then roundDiv num (den <<< x.parts.2.toNat)
      else roundDiv (num <<< (-x.parts.2).toNat) den) = x.parts.1 := by
  have hfloor : ((x.parts.1 : ℚ) - 1 / 2) * 2 ^ x.parts.2 ≤ x.floor := by
    rw [floor]
    gcongr
    split <;> norm_num
  apply roundDiv_shift hden (hfloor.trans h.floor_le) h.le_ceiling
  rintro (hmiddle | hmiddle)
  · by_cases hstep : x.IsStep
    · rw [hstep.1]
      decide
    · apply h.even
      left
      rw [floor, if_neg hstep, hmiddle]
  · exact h.even (.inr hmiddle)

/-- Below a step the grid has half the spacing, and what the number owns there is rounded up to the
    step. -/
theorem Owns.round_below (h : x.Owns ((num : ℚ) / den)) (hden : 0 < den) (hstep : x.IsStep)
    (hbelow : (num : ℚ) / den < 2 ^ (x.parts.2 + 52)) :
    (2 : ℚ) ^ (x.parts.2 + 51) ≤ (num : ℚ) / den ∧
      (if 0 ≤ x.parts.2 - 1 then roundDiv num (den <<< (x.parts.2 - 1).toNat)
        else roundDiv (num <<< (-(x.parts.2 - 1)).toNat) den) = 2 ^ 53 := by
  set e := x.parts.2 - 1 with he
  have hpow : (0 : ℚ) < 2 ^ e := by positivity
  have hhalf : (2 : ℚ) ^ x.parts.2 = 2 * 2 ^ e := by
    rw [he, zpow_sub_one₀ (by norm_num)]
    ring
  have hsignificand : (x.parts.1 : ℚ) = 2 ^ 52 := by exact_mod_cast hstep.1
  have hfloor : ((2 ^ 53 : Nat) - 1 / 2 : ℚ) * 2 ^ e ≤ (num : ℚ) / den := by
    have hfloor := h.floor_le
    rw [floor, if_pos hstep, hsignificand, hhalf] at hfloor
    push_cast
    linarith
  have hceiling : (num : ℚ) / den < ((2 ^ 53 : Nat) + 1 / 2 : ℚ) * 2 ^ e := by
    have hsplit : (2 : ℚ) ^ (x.parts.2 + 52) = 2 ^ 52 * 2 ^ x.parts.2 := two_zpow_add _ 52
    rw [hsplit, hhalf] at hbelow
    push_cast
    linarith
  constructor
  · have hsplit : (2 : ℚ) ^ (x.parts.2 + 51) = 2 ^ 51 * 2 ^ x.parts.2 := two_zpow_add _ 51
    rw [hsplit, hhalf]
    push_cast at hfloor
    linarith
  · exact roundDiv_shift hden hfloor hceiling.le fun _ => by decide

/-- The exponent and the significand that a fraction is rounded to are those of the number that
    owns it, unless rounding up to the next power of two carries. -/
theorem Owns.rounded (hx : x.PartsBounded) (hnum : 0 < num) (hden : 0 < den)
    (h : x.Owns ((num : ℚ) / den)) :
    let e := max (leadingExponent num den - 52) (-1074)
    let m := if 0 ≤ e then roundDiv num (den <<< e.toNat) else roundDiv (num <<< (-e).toNat) den
    (m = x.parts.1 ∧ e = x.parts.2) ∨ (m = 2 ^ 53 ∧ x.parts.1 = 2 ^ 52 ∧ e + 1 = x.parts.2) := by
  intro e m
  have hleast := hx.least_le
  have htwo : (1 : ℚ) < 2 := by norm_num
  obtain ⟨hlow, hhigh⟩ := leadingExponent_spec hnum hden
  have hlead := (zpow_lt_zpow_iff_right₀ htwo).1 (hlow.trans_lt (h.lt_two_zpow hx))
  by_cases hbelow : (num : ℚ) / den < 2 ^ (x.parts.2 + 52) ∧ x.parts.2 ≠ -1074
  · have hstep := h.isStep hx hbelow.1 hbelow.2
    obtain ⟨hge, hround⟩ := h.round_below hden hstep hbelow.1
    have hge := (zpow_lt_zpow_iff_right₀ htwo).1 (hge.trans_lt hhigh)
    have hlt := (zpow_lt_zpow_iff_right₀ htwo).1 (hlow.trans_lt hbelow.1)
    have he : e = x.parts.2 - 1 := by
      show max _ _ = _
      have := hstep.2
      omega
    right
    refine ⟨?_, hstep.1, by omega⟩
    show (if 0 ≤ e then _ else _) = _
    rw [he]
    exact hround
  · have he : e = x.parts.2 := by
      show max _ _ = _
      by_cases hnormal : x.parts.2 = -1074
      · omega
      · have hge : (2 : ℚ) ^ (x.parts.2 + 52) ≤ (num : ℚ) / den :=
          not_lt.1 fun hlt => hbelow ⟨hlt, hnormal⟩
        have := (zpow_lt_zpow_iff_right₀ htwo).1 (hge.trans_lt hhigh)
        omega
    left
    refine ⟨?_, he⟩
    show (if 0 ≤ e then _ else _) = _
    rw [he]
    exact h.round_own hden

/-- Whatever fraction a number owns is rounded to it. -/
theorem Owns.ofFraction_eq (hfinite : x.isFinite = true) (hzero : x.magnitude ≠ 0)
    (hnum : 0 < num) (hden : 0 < den) (h : x.Owns ((num : ℚ) / den)) (negative : Bool) :
    ofFraction .double negative num den = ⟨negative, x.magnitude⟩ := by
  have hx := partsBounded hfinite
  have hgreatest : ¬ Precision.double.greatest < x.parts.2 := not_lt.2 hx.le_greatest
  have hlt := hx.significand_lt
  unfold ofFraction
  rw [if_neg (by omega)]
  extract_lets e m
  have hrounded : (m = x.parts.1 ∧ e = x.parts.2) ∨
      (m = 2 ^ 53 ∧ x.parts.1 = 2 ^ 52 ∧ e + 1 = x.parts.2) := h.rounded hx hnum hden
  have hadjusted : (if m = 1 <<< Precision.double.digits
      then (1 <<< (Precision.double.digits - 1), e + 1) else (m, e)) = x.parts := by
    rcases hrounded with ⟨hm, he⟩ | ⟨hm, hstep, he⟩
    · have hfull : m ≠ 1 <<< Precision.double.digits := hm ▸ hlt.ne
      rw [if_neg hfull, hm, he]
    · have hcarry : m = 1 <<< Precision.double.digits := hm
      rw [if_pos hcarry, he]
      exact Prod.ext hstep.symm rfl
  rw [hadjusted]
  show (if Precision.double.greatest < x.parts.2 then infinity negative
    else (⟨negative, fieldOf x.parts.1 x.parts.2⟩ : Binary64)) = _
  rw [if_neg hgreatest, fieldOf_parts hzero]

theorem Owns.lt_two_zpow_1024 (hfinite : x.isFinite = true) (h : x.Owns v) :
    v < 2 ^ (1024 : Int) := by
  have hx := partsBounded hfinite
  refine (h.lt_two_zpow hx).trans_le (zpow_le_zpow_right₀ (by norm_num) ?_)
  have := hx.le_greatest
  omega

theorem Owns.two_zpow_le (hfinite : x.isFinite = true) (hzero : x.magnitude ≠ 0) (h : x.Owns v) :
    (2 : ℚ) ^ (-1075 : Int) ≤ v := by
  have hx := partsBounded hfinite
  have hpos : (1 : ℚ) ≤ x.parts.1 := by exact_mod_cast significand_pos hzero
  calc (2 : ℚ) ^ (-1075 : Int) = 1 / 2 * 2 ^ (-1074 : Int) := by
        rw [show (-1075 : Int) = -1074 - 1 by decide, zpow_sub_one₀ (by norm_num)]
        ring
    _ ≤ 1 / 2 * 2 ^ x.parts.2 := by
        gcongr
        · norm_num
        · exact hx.least_le
    _ ≤ x.floor := by
        rw [floor]
        gcongr
        split <;> linarith
    _ ≤ v := h.floor_le

/-- Whatever decimal a number owns is rounded to it. -/
theorem Owns.ofDecimal_eq {m : Nat} {e : Int} (hfinite : x.isFinite = true)
    (hzero : x.magnitude ≠ 0) (hm : 0 < m) (h : x.Owns (m * 10 ^ e)) (negative : Bool) :
    ofDecimal .double negative m e = ⟨negative, x.magnitude⟩ := by
  have hsmall := h.lt_two_zpow_1024 hfinite
  have hlarge := h.two_zpow_le hfinite hzero
  have hm' : (1 : ℚ) ≤ m := by exact_mod_cast hm
  have htwo : (1 : ℚ) < 2 := by norm_num
  have hnotlarge : ¬ 400 < e := by
    intro he
    have hlt : (2 : ℚ) ^ (3 * e) < 2 ^ (1024 : Int) := by
      calc (2 : ℚ) ^ (3 * e) ≤ 10 ^ e := two_zpow_le_ten_zpow (by omega)
        _ ≤ m * 10 ^ e := le_mul_of_one_le_left (by positivity) hm'
        _ < 2 ^ (1024 : Int) := hsmall
    have := (zpow_lt_zpow_iff_right₀ htwo).1 hlt
    omega
  have hnotsmall : ¬ e + ((Nat.log2 m : Int) / 3 + 1) < -400 := by
    intro he
    set size : Int := (Nat.log2 m : Int) / 3 + 1 with hsize
    have hpow : (m : ℚ) < 2 ^ (3 * size) := by
      calc (m : ℚ) < 2 ^ ((Nat.log2 m : Int) + 1) := (two_zpow_log2 hm).2
        _ ≤ 2 ^ (3 * size) := zpow_le_zpow_right₀ htwo.le (by omega)
    have hlt : (2 : ℚ) ^ (-1075 : Int) < 2 ^ (3 * (e + size)) := by
      calc (2 : ℚ) ^ (-1075 : Int) ≤ m * 10 ^ e := hlarge
        _ < 2 ^ (3 * size) * 10 ^ e := by gcongr
        _ ≤ 10 ^ size * 10 ^ e := by
          gcongr
          exact two_zpow_le_ten_zpow (by omega)
        _ = 10 ^ (e + size) := by rw [← zpow_add₀ (by norm_num), add_comm]
        _ ≤ 2 ^ (3 * (e + size)) := ten_zpow_le_two_zpow (by omega)
    have := (zpow_lt_zpow_iff_right₀ htwo).1 hlt
    omega
  unfold ofDecimal
  have hten : ∀ n, Nat.pow 10 n = 10 ^ n := fun _ => rfl
  dsimp only
  rw [if_neg hm.ne', if_neg hnotlarge, if_neg hnotsmall, hten, hten]
  split
  · rename_i he
    rw [zpow_toNat _ he] at h
    apply Owns.ofFraction_eq hfinite hzero (by positivity) (by decide)
    rw [Nat.cast_one, div_one]
    exact_mod_cast h
  · rename_i he
    rw [zpow_neg_toNat _ he, ← div_eq_mul_inv] at h
    apply Owns.ofFraction_eq hfinite hzero hm (by positivity)
    exact_mod_cast h

end Binary64

end Endpoint
