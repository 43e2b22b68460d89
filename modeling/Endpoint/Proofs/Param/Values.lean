import Endpoint.Param.Basic
import Std.Data.String.ToNat

/-!
# The values under a key

Parameters file values under keys.  The values under a key of a query are those given with its
name, in the order they were given; the value under a position of a path is the text captured
there.
-/

namespace Endpoint.Params

/-- The values given for a key, in order. -/
def given (pairs : List (String × String)) (key : String) : List String :=
  pairs.filterMap fun (k, v) => if k = key then some v else none

variable {pairs : List (String × String)} {key : String}

theorem given_cons (name value : String) :
    given ((name, value) :: pairs) key =
      if name = key then value :: given pairs key else given pairs key := by
  rw [given, List.filterMap_cons]
  split <;> simp_all [given]

theorem mem_given_iff {value : String} : value ∈ given pairs key ↔ (key, value) ∈ pairs := by
  rw [given, List.mem_filterMap]
  constructor
  · rintro ⟨⟨k, v⟩, hmem, h⟩
    obtain ⟨rfl, rfl⟩ : k = key ∧ v = value := by simpa using h
    exact hmem
  · intro hmem
    exact ⟨_, hmem, by simp⟩

/-! ## Queries -/

/-- What is filed under a key. -/
def filed (values : List (String × List String)) (key : String) : Option (List String) :=
  (values.find? fun (k, _) => k == key).map Prod.snd

theorem filed_append (values : List (String × List String)) (name value : String) :
    filed (append name value values) key =
      if name = key then some ((filed values key).getD [] ++ [value]) else filed values key := by
  induction values with
  | nil => by_cases hkey : name = key <;> simp [append, filed, hkey]
  | cons entry rest ih =>
    obtain ⟨k, vs⟩ := entry
    rw [append]
    by_cases hname : k = name
    · subst hname
      by_cases hkey : k = key <;> simp [filed, hkey]
    · rw [if_neg hname]
      by_cases hk : k = key
      · subst hk
        simp [filed, Ne.symm hname]
      · simpa [filed, hk] using ih

theorem filed_foldl (values : List (String × List String)) :
    filed (pairs.foldl (fun acc (name, value) => append name value acc) values) key =
      if given pairs key = [] then filed values key
      else some ((filed values key).getD [] ++ given pairs key) := by
  induction pairs generalizing values with
  | nil => simp [given]
  | cons pair rest ih =>
    obtain ⟨name, value⟩ := pair
    rw [List.foldl_cons, ih, filed_append, given_cons]
    by_cases hname : name = key
    · by_cases hrest : given rest key = [] <;> simp [hname, hrest]
    · simp [hname]

/-- The values under a key are all those given for it, if there are any. -/
theorem valuesOf?_ofPairs (pairs : List (String × String)) (key : String) :
    (ofPairs pairs).valuesOf? key =
      if given pairs key = [] then none else some (given pairs key) := by
  change filed (pairs.foldl (fun acc (name, value) => append name value acc) []) key = _
  rw [filed_foldl]
  simp [filed]

/-- A key occurs if a value is given for it. -/
theorem contains_ofPairs_iff :
    (ofPairs pairs).contains key = true ↔ given pairs key ≠ [] := by
  rw [contains, valuesOf?_ofPairs]
  split <;> simp_all

/-! ## Paths -/

theorem find?_zipIdx (texts : List String) (start i : Nat) :
    ((texts.zipIdx start).map fun (text, j) => (toString j, [text])).find?
        (fun (k, _) => k == toString (start + i)) =
      texts[i]?.map fun text => (toString (start + i), [text]) := by
  induction texts generalizing start i with
  | nil => simp
  | cons text rest ih =>
    rw [List.zipIdx_cons, List.map_cons, List.find?_cons]
    cases i with
    | zero => simp
    | succ i =>
      have hne : (toString start == toString (start + (i + 1))) = false := by
        rw [beq_eq_false_iff_ne]
        intro h
        have := Nat.repr_inj.1 h
        omega
      have hstart : start + (i + 1) = start + 1 + i := by omega
      simp only [hne]
      rw [hstart, ih]
      simp

/-- The value under a position is the text captured there, if there is a target for it. -/
theorem valuesOf?_ofPath (targets captured : List String) (i : Nat) :
    (ofPath targets captured).valuesOf? (toString i) =
      (captured.take targets.length)[i]?.map fun text => [text] := by
  have h := find?_zipIdx (captured.take targets.length) 0 i
  rw [Nat.zero_add] at h
  rw [valuesOf?, ofPath, h, Option.map_map]
  rfl

end Endpoint.Params
