import Endpoint.Proofs.Number.Reading
import Endpoint.Text.Blank
import Mathlib

/-!
# One text at two precisions

A text that is read as a number at one precision is read as one at any other, with the same sign.
So the two numbers are equal in the order of numbers only if they are the same.
-/

namespace Endpoint

namespace Binary64

variable {grid grid' : Precision} {x y : Binary64} {s : String}

theorem ofFraction_negative (grid : Precision) (negative : Bool) (num den : Nat) :
    (ofFraction grid negative num den).negative = negative := by
  unfold ofFraction
  split
  · rfl
  · simp only
    rw [apply_ite Binary64.negative]
    exact ite_self negative

theorem ofDecimal_negative (grid : Precision) (negative : Bool) (m : Nat) (e : Int) :
    (ofDecimal grid negative m e).negative = negative := by
  unfold ofDecimal
  simp only
  split
  · rfl
  split
  · rfl
  split
  · rfl
  split
  · exact ofFraction_negative ..
  · exact ofFraction_negative ..

/-- Numbers of one sign that are equal in their order are the same. -/
theorem eq_of_compare?_eq (h : x.compare? y = some .eq) (hsign : x.negative = y.negative) :
    x = y := by
  obtain ⟨negative, m⟩ := x
  obtain ⟨negative', n⟩ := y
  obtain rfl : negative = negative' := hsign
  rw [compare?] at h
  split at h
  · cases h
  · have hkey := Int.compare_eq_eq.1 (Option.some.inj h)
    cases negative with
    | false =>
      obtain rfl : m = n := Int.natCast_inj.1 (by simpa [key] using hkey)
      rfl
    | true =>
      obtain rfl : m = n := Int.natCast_inj.1 (by simpa [key] using hkey)
      rfl

/-- A text of a number can be read at every precision.  If the numbers compare equal they are
    the same. -/
theorem exists_ofText? (grid' : Precision) (h : ofText? grid s = some x) :
    ∃ y, ofText? grid' s = some y ∧ (x.compare? y = some .eq → x = y) := by
  rw [ofText?] at h ⊢
  simp only at h ⊢
  split at h
  · rename_i hword
    obtain rfl := Option.some.inj h
    exact ⟨_, if_pos hword, fun _ => rfl⟩
  · rename_i hword
    rw [if_neg hword]
    split at h
    · rename_i hnan
      obtain rfl := Option.some.inj h
      exact ⟨_, if_pos hnan, fun _ => rfl⟩
    · rename_i hnan
      rw [if_neg hnan]
      obtain ⟨⟨m, e⟩, hdecimal, rfl⟩ := Option.map_eq_some_iff.1 h
      refine ⟨_, by rw [hdecimal]; rfl, fun hequal => eq_of_compare?_eq hequal ?_⟩
      exact (ofDecimal_negative ..).trans (ofDecimal_negative ..).symm

/-! ## The characters of a number -/

/-- The characters that texts of numbers consist of. -/
def IsNumberChar (c : Char) : Prop := c.isAlphanum = true ∨ c = '+' ∨ c = '-' ∨ c = '.'

theorem isNumberChar_of_isDigit {c : Char} (h : c.isDigit = true) : IsNumberChar c := by
  left
  simp [Char.isAlphanum, h]

theorem isNumberChar_of_digits? {cs : List Char} {n : Nat} (h : digits? cs = some n) :
    ∀ c ∈ cs, IsNumberChar c := fun c hc =>
  isNumberChar_of_isDigit ((digits?_eq_some_iff.1 h).2.1 c hc)

/-- A sign is such a character. -/
theorem isNumberChar_of_splitSign {cs : List Char}
    (hrest : ∀ c ∈ (splitSign cs).2, IsNumberChar c) : ∀ c ∈ cs, IsNumberChar c := by
  rcases splitSign_cases cs with ⟨rest, rfl, hs⟩ | ⟨rest, rfl, hs⟩ | hs
  · rw [hs] at hrest
    exact List.forall_mem_cons.2 ⟨.inr (.inl rfl), hrest⟩
  · rw [hs] at hrest
    exact List.forall_mem_cons.2 ⟨.inr (.inr (.inl rfl)), hrest⟩
  · rw [hs] at hrest
    exact hrest

theorem isNumberChar_of_signedDigits? {cs : List Char} {i : Int} (h : signedDigits? cs = some i) :
    ∀ c ∈ cs, IsNumberChar c := by
  refine isNumberChar_of_splitSign ?_
  cases hn : digits? (splitSign cs).2 with
  | none => simp [signedDigits?, hn] at h
  | some n => exact isNumberChar_of_digits? hn

/-- The part of a decimal after its digits is nothing or an exponent. -/
theorem isNumberChar_of_power {rest : List Char} {power : Int}
    (h : (match rest with
      | [] => some 0
      | c :: r => if c = 'e' ∨ c = 'E' then exponent? r else none) = some power) :
    ∀ c ∈ rest, IsNumberChar c := by
  cases rest with
  | nil => simp
  | cons mark rest =>
    simp only at h
    split at h
    · rename_i hmark
      refine List.forall_mem_cons.2 ⟨?_, isNumberChar_of_signedDigits? h⟩
      rcases hmark with rfl | rfl
      · exact .inl (by decide)
      · exact .inl (by decide)
    · cases h

theorem isNumberChar_of_decimal? {cs : List Char} {r : Nat × Int} (h : decimal? cs = some r) :
    ∀ c ∈ cs, IsNumberChar c := by
  have hdigits : ∀ cs : List Char, ∀ c ∈ cs.takeWhile Char.isDigit, IsNumberChar c :=
    fun _ c hc => isNumberChar_of_isDigit (isDigit_of_mem_takeWhile c hc)
  -- Every text consists of its first digits and the rest.
  have happend : ∀ cs : List Char, (∀ c ∈ cs.dropWhile Char.isDigit, IsNumberChar c) →
      ∀ c ∈ cs, IsNumberChar c := by
    intro cs hrest c hc
    rw [← List.takeWhile_append_dropWhile (p := Char.isDigit) (l := cs), List.mem_append] at hc
    exact hc.elim (hdigits cs c) (hrest c)
  unfold decimal? at h
  simp only at h
  split at h
  · rename_i places hpoint
    split at h
    · cases h
    · obtain ⟨power, hpower, -⟩ := Option.map_eq_some_iff.1 h
      refine happend cs ?_
      rw [hpoint]
      exact List.forall_mem_cons.2
        ⟨.inr (.inr (.inr rfl)), happend places (isNumberChar_of_power hpower)⟩
  · split at h
    · cases h
    · obtain ⟨power, hpower, -⟩ := Option.map_eq_some_iff.1 h
      exact happend cs (isNumberChar_of_power hpower)

/-- A letter is one in either case. -/
theorem isNumberChar_of_toLower {c : Char} (h : c.toLower.isAlpha = true) : IsNumberChar c := by
  rw [Char.isAlpha_toLower_eq_isAlpha] at h
  left
  simp [Char.isAlphanum, h]

theorem isNumberChar_of_word {cs : List Char} {word : String}
    (hword : word.toList.all Char.isAlpha = true)
    (h : String.ofList (cs.map Char.toLower) = word) : ∀ c ∈ cs, IsNumberChar c := by
  intro c hc
  have hlower : cs.map Char.toLower = word.toList := by rw [← h, String.toList_ofList]
  have hmem : c.toLower ∈ word.toList := hlower ▸ List.mem_map_of_mem hc
  exact isNumberChar_of_toLower (List.all_eq_true.1 hword _ hmem)

theorem isNumberChar_of_ofText? (h : ofText? grid s = some x) : ∀ c ∈ s.toList, IsNumberChar c := by
  refine isNumberChar_of_splitSign ?_
  rw [ofText?] at h
  simp only at h
  split at h
  · rename_i hword
    rw [Bool.or_eq_true, beq_iff_eq, beq_iff_eq] at hword
    rcases hword with hword | hword
    · exact isNumberChar_of_word (by decide) hword
    · exact isNumberChar_of_word (by decide) hword
  · split at h
    · rename_i hword
      exact isNumberChar_of_word (by decide) (beq_iff_eq.1 hword)
    · obtain ⟨r, hr, -⟩ := Option.map_eq_some_iff.1 h
      exact isNumberChar_of_decimal? hr

theorem IsNumberChar.isBlank_eq_false {c : Char} (h : IsNumberChar c) : isBlank c = false := by
  rcases h with h | rfl | rfl | rfl
  · simp only [Char.isAlphanum, Char.isAlpha, Char.isUpper, Char.isLower, Char.isDigit,
      Bool.or_eq_true, Bool.and_eq_true, decide_eq_true_eq, UInt32.le_iff_toNat_le, ge_iff_le] at h
    change ((65 ≤ c.toNat ∧ c.toNat ≤ 90) ∨ (97 ≤ c.toNat ∧ c.toNat ≤ 122)) ∨
      (48 ≤ c.toNat ∧ c.toNat ≤ 57) at h
    simp [isBlank]
    omega
  all_goals decide

theorem IsNumberChar.ne_comma {c : Char} (h : IsNumberChar c) : c ≠ ',' := by
  rintro rfl
  rcases h with h | h | h | h
  · exact absurd h (by decide)
  · cases h
  · cases h
  · cases h

/-- Trimming leaves a text without white space as it is. -/
theorem trimText_of_ofText? (h : ofText? grid s = some x) : trimText s = s := by
  have hnone : ∀ c ∈ s.toList, isBlank c = false := fun c hc =>
    (isNumberChar_of_ofText? h c hc).isBlank_eq_false
  have hdrop : ∀ cs : List Char, (∀ c ∈ cs, isBlank c = false) → cs.dropWhile isBlank = cs := by
    intro cs hcs
    cases cs with
    | nil => rfl
    | cons c rest => rw [List.dropWhile_cons, if_neg (by simp [hcs c])]
  rw [trimText, trimChars, hdrop _ hnone, hdrop _ (by simpa using hnone), List.reverse_reverse,
    String.ofList_toList]

theorem comma_notMem_of_ofText? (h : ofText? grid s = some x) : ',' ∉ s.toList :=
  fun hmem => (isNumberChar_of_ofText? h ',' hmem).ne_comma rfl

end Binary64

end Endpoint
