import Endpoint.Text.Blank
import Mathlib

/-!
# Lower case

Putting the ASCII letters of a text in lower case changes its capitals only, and takes none of them
below itself.  So of all spellings of a text the one in lower case is the greatest.
-/

namespace Endpoint

theorem asciiLower_asciiLower (s : String) : asciiLower (asciiLower s) = asciiLower s := by
  simp [asciiLower, Function.comp_def]

theorem not_toLower_lt (c : Char) : ¬ c.toLower < c := by
  by_cases h : c.isUpper = true
  · have hrange : 65 ≤ c.toNat ∧ c.toNat ≤ 90 := by
      simpa [Char.isUpper, UInt32.le_iff_toNat_le] using h
    have hvalid : (c.toNat + 32).isValidChar := .inl (by omega)
    rw [Char.toLower_eq_of_isUpper h]
    show ¬ (Char.ofNat (c.toNat + 32)).toNat < c.toNat
    rw [Char.toNat_ofNat, if_pos hvalid]
    omega
  · rw [Char.toLower_eq_of_not_isUpper h]
    exact Char.lt_irrefl c

/-- No spelling of a text comes after the one in lower case. -/
theorem le_asciiLower (s : String) : s ≤ asciiLower s := by
  have hchars : ∀ cs : List Char, ¬ cs.map Char.toLower < cs := by
    intro cs
    induction cs with
    | nil => exact List.not_lt_nil []
    | cons c rest ih =>
      rw [List.map_cons, List.cons_lt_cons_iff]
      rintro (hlt | ⟨-, hlt⟩)
      · exact not_toLower_lt c hlt
      · exact ih hlt
  refine String.not_lt.1 fun hlt => hchars s.toList ?_
  have hlist : (asciiLower s).toList < s.toList := hlt
  rwa [asciiLower, String.toList_ofList] at hlist

end Endpoint
