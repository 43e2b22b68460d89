import Endpoint.Rule.Parser

/-!
# Splitting at a separator

A text is split into the one list of pieces that do not hold the separator and that give the
text back when they are joined by it.  `SplitsInto` says this of a list of pieces without
saying how it is found, and `pieces_eq_iff` says that `Rule.pieces` finds it.
-/

namespace Endpoint

/-- `parts` are the pieces of a text between the occurrences of a separator. -/
structure SplitsInto (sep : Char) (text : String) (parts : List String) : Prop where
  nonempty : parts ≠ []
  free : ∀ part ∈ parts, sep ∉ part.toList
  joined : (String.singleton sep).intercalate parts = text

namespace FieldPath

theorem splitAt_eq_splitOn (sep : Char) (cs : List Char) : splitAt sep cs = cs.splitOn sep := by
  induction cs with
  | nil => rfl
  | cons c rest ih =>
    rw [List.splitOn_cons_eq_if_modifyHead, splitAt, ih]
    by_cases hc : c = sep
    · simp [hc]
    · have hne : rest.splitOn sep ≠ [] := List.splitOn_ne_nil sep rest
      cases hs : rest.splitOn sep with
      | nil => exact absurd hs hne
      | cons part parts => simp [hc]

theorem splitAt_ne_nil (sep : Char) (cs : List Char) : splitAt sep cs ≠ [] := by
  rw [splitAt_eq_splitOn]
  exact List.splitOn_ne_nil sep cs

/-- No piece holds the separator. -/
theorem not_mem_of_mem_splitAt {sep : Char} {cs part : List Char} (h : part ∈ splitAt sep cs) :
    sep ∉ part := by
  induction cs generalizing part with
  | nil =>
    rw [splitAt, List.mem_singleton] at h
    rw [h]
    exact List.not_mem_nil
  | cons c rest ih =>
    rw [splitAt] at h
    split at h
    · rcases List.mem_cons.1 h with rfl | h
      · exact List.not_mem_nil
      · exact ih h
    · rename_i hc
      split at h
      · rename_i hs
        exact absurd hs (splitAt_ne_nil sep rest)
      · rename_i first parts hs
        rw [hs] at ih
        rcases List.mem_cons.1 h with rfl | h
        · intro hm
          rcases List.mem_cons.1 hm with hm | hm
          · exact hc hm.symm
          · exact ih List.mem_cons_self hm
        · exact ih (List.mem_cons_of_mem _ h)

/-- A list of pieces without the separator is found again in what it gives when joined. -/
theorem splitAt_intercalate {sep : Char} {parts : List (List Char)} (hne : parts ≠ [])
    (hfree : ∀ part ∈ parts, sep ∉ part) : splitAt sep ([sep].intercalate parts) = parts := by
  rw [splitAt_eq_splitOn]
  exact List.splitOn_intercalate sep hfree hne

end FieldPath

namespace Rule

theorem pieces_ne_nil (sep : Char) (s : String) : pieces sep s ≠ [] := by
  intro h
  exact FieldPath.splitAt_ne_nil sep s.toList (List.map_eq_nil_iff.1 h)

theorem toList_of_mem_pieces {sep : Char} {s part : String} (h : part ∈ pieces sep s) :
    sep ∉ part.toList := by
  obtain ⟨cs, hcs, rfl⟩ := List.mem_map.1 h
  rw [String.toList_ofList]
  exact FieldPath.not_mem_of_mem_splitAt hcs

theorem map_toList_pieces (sep : Char) (s : String) :
    (pieces sep s).map String.toList = FieldPath.splitAt sep s.toList := by
  simp [pieces]

theorem intercalate_pieces (sep : Char) (s : String) :
    (String.singleton sep).intercalate (pieces sep s) = s := by
  apply String.toList_inj.1
  rw [String.toList_intercalate, String.toList_singleton, map_toList_pieces,
    FieldPath.splitAt_eq_splitOn]
  exact List.intercalate_splitOn sep

theorem pieces_splitsInto (sep : Char) (s : String) : SplitsInto sep s (pieces sep s) where
  nonempty := pieces_ne_nil sep s
  free _ h := toList_of_mem_pieces h
  joined := intercalate_pieces sep s

/-- Splitting finds the only pieces that a text splits into. -/
theorem pieces_eq_iff {sep : Char} {s : String} {parts : List String} :
    pieces sep s = parts ↔ SplitsInto sep s parts := by
  constructor
  · intro h
    rw [← h]
    exact pieces_splitsInto sep s
  · intro h
    have hfree : ∀ part ∈ parts.map String.toList, sep ∉ part := by
      intro part hpart
      obtain ⟨t, ht, rfl⟩ := List.mem_map.1 hpart
      exact h.free t ht
    have hne : parts.map String.toList ≠ [] := fun hnil => h.nonempty (List.map_eq_nil_iff.1 hnil)
    rw [← h.joined, pieces, String.toList_intercalate, String.toList_singleton,
      FieldPath.splitAt_intercalate hne hfree]
    simp

end Rule

end Endpoint
