import Endpoint.Proofs.List
import Endpoint.Proofs.Param.Accessors
import Endpoint.Proofs.Param.Values

/-!
# How parameters are filed

Parameters of a query are filed under their names, those of a path under their positions.  Either
way every key has one list of values, which is not empty, so a single value can be read from every
key that there is.
-/

namespace Endpoint.Params

/-- Lists of values in which every key has one list, and every list has a value. -/
structure Orderly (values : List (String × List String)) : Prop where
  distinct : (values.map Prod.fst).Nodup
  nonempty : ∀ entry ∈ values, entry.2 ≠ []

variable {p : Params} {values : List (String × List String)} {pairs : List (String × String)}
  {key : String} {vs : List String}

/-! ## Readers -/

theorem filed_eq_some_iff (h : (values.map Prod.fst).Nodup) :
    filed values key = some vs ↔ (key, vs) ∈ values := by
  induction values with
  | nil => simp [filed]
  | cons entry rest ih =>
    obtain ⟨k, ws⟩ := entry
    obtain ⟨hk, hrest⟩ := List.nodup_cons.1 h
    by_cases hkey : k = key
    · subst hkey
      have hnone : (k, vs) ∉ rest := fun hmem => hk (List.mem_map.2 ⟨_, hmem, rfl⟩)
      simp [filed, hnone, eq_comm]
    · have hne : (key, vs) ≠ (k, ws) := fun heq => hkey (congrArg Prod.fst heq).symm
      rw [List.mem_cons, or_iff_right hne, ← ih hrest]
      simp [filed, hkey]

theorem strings_eq_ok_iff : p.strings key = .ok vs ↔ p.valuesOf? key = some vs := by
  rw [strings]
  cases p.valuesOf? key <;> simp

theorem isMultiple_iff :
    p.isMultiple key = true ↔ ∃ vs, p.valuesOf? key = some vs ∧ 2 ≤ vs.length := by
  rw [isMultiple]
  cases p.valuesOf? key <;> simp [Nat.succ_le_iff]

theorem isFilled_iff : p.isFilled key = true ↔ ∃ text, p.last? key = some text ∧ text ≠ "" := by
  rw [isFilled, string, ← last?]
  cases p.last? key <;> simp

/-- Reading a single value fails just where there is no key: no key is without values. -/
theorem exists_string_eq_error_iff (h : Orderly p.values) :
    (∃ e, p.string key = .error e) ↔ p.contains key = false := by
  rw [string, contains]
  cases hvs : p.valuesOf? key with
  | none => simp
  | some vs =>
    have hne : vs ≠ [] := h.nonempty _ ((filed_eq_some_iff h.distinct).1 hvs)
    simp [List.getLast?_eq_some_getLast hne]

/-! ## Queries -/

theorem length_given (pairs : List (String × String)) (key : String) :
    (given pairs key).length = (pairs.map Prod.fst).count key := by
  induction pairs with
  | nil => rfl
  | cons pair rest ih =>
    rw [given_cons, List.map_cons, List.count_cons, ← ih]
    by_cases hname : pair.1 = key <;> simp [hname]

theorem given_eq_nil_iff : given pairs key = [] ↔ key ∉ pairs.map Prod.fst := by
  rw [← List.length_eq_zero_iff, length_given, List.count_eq_zero]

/-- One more pair leaves the keys as they are, or adds its name behind them. -/
theorem keys_append (name value : String) (values : List (String × List String)) :
    (append name value values).map Prod.fst =
      values.map Prod.fst ++ if name ∈ values.map Prod.fst then [] else [name] := by
  induction values with
  | nil => rfl
  | cons entry rest ih =>
    obtain ⟨k, vs⟩ := entry
    rw [append]
    by_cases hname : k = name
    · simp [hname]
    · have hmem : name ∈ ((k, vs) :: rest).map Prod.fst ↔ name ∈ rest.map Prod.fst := by
        simp [Ne.symm hname]
      rw [if_neg hname, List.map_cons, ih, List.map_cons, List.cons_append]
      exact congrArg _ (congrArg _ (if_congr hmem.symm rfl rfl))

/-- The names are the distinct ones, in the order in which they occur first. -/
theorem names_ofPairs (pairs : List (String × String)) :
    (ofPairs pairs).names = (pairs.map Prod.fst).eraseDups := by
  -- Filing runs through the pairs from the front, so the induction takes off the last of them.
  induction pairs using List.reverseRecOn with
  | nil => rfl
  | append_singleton pairs pair ih =>
    have hvalues : (ofPairs (pairs ++ [pair])).values =
        append pair.1 pair.2 (ofPairs pairs).values := by
      simp only [ofPairs, List.foldl_append]
      rfl
    have hkeys : (ofPairs pairs).values.map Prod.fst = (pairs.map Prod.fst).eraseDups := ih
    change (ofPairs (pairs ++ [pair])).values.map Prod.fst = _
    rw [hvalues, keys_append, hkeys, List.map_append, List.eraseDups_append]
    by_cases hname : pair.1 ∈ pairs.map Prod.fst <;>
      simp [hname, List.removeAll, List.eraseDups_cons]

theorem last?_ofPairs (pairs : List (String × String)) (key : String) :
    (ofPairs pairs).last? key = (given pairs key).getLast? := by
  rw [last?, valuesOf?_ofPairs]
  by_cases hgiven : given pairs key = [] <;> simp [hgiven]

theorem strings_ofPairs (pairs : List (String × String)) (key : String) :
    (ofPairs pairs).strings key =
      if key ∈ pairs.map Prod.fst then .ok (given pairs key) else .error (.missing key) := by
  rw [strings, valuesOf?_ofPairs]
  by_cases hgiven : given pairs key = []
  · rw [if_pos hgiven, if_neg (given_eq_nil_iff.1 hgiven)]
  · rw [if_neg hgiven, if_pos (not_not.1 (mt given_eq_nil_iff.2 hgiven))]

theorem isMultiple_ofPairs_iff :
    (ofPairs pairs).isMultiple key = true ↔ 2 ≤ (pairs.map Prod.fst).count key := by
  rw [isMultiple_iff, valuesOf?_ofPairs, ← length_given]
  by_cases hgiven : given pairs key = [] <;> simp [hgiven]

theorem orderly_ofPairs (pairs : List (String × String)) : Orderly (ofPairs pairs).values := by
  have hdistinct : ((ofPairs pairs).values.map Prod.fst).Nodup := by
    have hnames := nodup_eraseDups (pairs.map Prod.fst)
    rwa [← names_ofPairs] at hnames
  -- An entry is what is found under its key, and only what was given for a key is found there.
  refine ⟨hdistinct, fun entry hentry => ?_⟩
  have hvalues : (ofPairs pairs).valuesOf? entry.1 = some entry.2 :=
    (filed_eq_some_iff hdistinct).2 hentry
  rw [valuesOf?_ofPairs] at hvalues
  split at hvalues
  · cases hvalues
  · rename_i hgiven
    rwa [← Option.some.inj hvalues]

/-! ## Paths -/

theorem keys_ofPath (targets captured : List String) :
    (ofPath targets captured).values.map Prod.fst =
      (List.range (min targets.length captured.length)).map toString := by
  have hpositions := List.zipIdx_map_snd 0 (captured.take targets.length)
  rw [List.length_take, ← List.range_eq_range'] at hpositions
  rw [ofPath, List.map_map, ← hpositions, List.map_map]
  rfl

theorem orderly_ofPath (targets captured : List String) :
    Orderly (ofPath targets captured).values where
  distinct := by
    rw [keys_ofPath]
    exact List.nodup_range.map fun i j h => Nat.repr_injective h
  nonempty := by
    intro entry hentry
    obtain ⟨⟨text, i⟩, -, rfl⟩ := List.mem_map.1 hentry
    exact List.cons_ne_nil text []

/-- The one value under a position is the text captured there, and there are no other keys. -/
theorem valuesOf?_ofPath_eq_some_iff {targets captured : List String} :
    (ofPath targets captured).valuesOf? key = some vs ↔
      ∃ i text, i < targets.length ∧ captured[i]? = some text ∧ key = toString i ∧ vs = [text] := by
  have htake : ∀ text i, (text, i) ∈ (captured.take targets.length).zipIdx ↔
      i < targets.length ∧ captured[i]? = some text := by
    intro text i
    rw [List.mem_zipIdx_iff_getElem?, List.getElem?_take, Option.ite_none_right_eq_some]
  refine (filed_eq_some_iff (orderly_ofPath targets captured).distinct).trans ?_
  rw [ofPath, List.mem_map]
  constructor
  · rintro ⟨⟨text, i⟩, hmem, heq⟩
    obtain ⟨rfl, rfl⟩ := Prod.mk.inj heq
    obtain ⟨hi, htext⟩ := (htake text i).1 hmem
    exact ⟨i, text, hi, htext, rfl, rfl⟩
  · rintro ⟨i, text, hi, htext, rfl, rfl⟩
    exact ⟨(text, i), (htake text i).2 ⟨hi, htext⟩, rfl⟩

/-- Parameters of pairs have the distinct names of these, in the order in which they occur first,
    and under every name all values given with it, in order.  A single value is the last of them,
    and there is one for every name that occurs.  Parameters of a path have the names of the targets
    that captured texts go to, and under the position of each of these texts the text alone; no two
    positions share a key. -/
theorem files_by_name_and_position :
    (∀ pairs : List (String × String),
      (ofPairs pairs).names = (pairs.map Prod.fst).eraseDups ∧
      Orderly (ofPairs pairs).values ∧
      ∀ key,
        ((ofPairs pairs).strings key =
          if key ∈ pairs.map Prod.fst then .ok (given pairs key) else .error (.missing key)) ∧
        (∀ text, (ofPairs pairs).string key = .ok text ↔
          (given pairs key).getLast? = some text) ∧
        ((∃ e, (ofPairs pairs).string key = .error e) ↔ (ofPairs pairs).contains key = false) ∧
        ((ofPairs pairs).contains key = true ↔ key ∈ pairs.map Prod.fst) ∧
        ((ofPairs pairs).isMultiple key = true ↔ 2 ≤ (pairs.map Prod.fst).count key) ∧
        ((ofPairs pairs).isFilled key = true ↔
          ∃ text, (given pairs key).getLast? = some text ∧ text ≠ "")) ∧
    ∀ targets captured : List String,
      (ofPath targets captured).names =
        targets.take (min targets.length captured.length) ∧
      Orderly (ofPath targets captured).values ∧
      (ofPath targets captured).values.map Prod.fst =
        (List.range (min targets.length captured.length)).map toString ∧
      ∀ key vs, (ofPath targets captured).strings key = .ok vs ↔
        ∃ i text, i < targets.length ∧ captured[i]? = some text ∧ key = toString i ∧
          vs = [text] := by
  refine ⟨fun pairs => ?_, fun targets captured => ?_⟩
  · refine ⟨names_ofPairs pairs, orderly_ofPairs pairs, fun key => ?_⟩
    refine ⟨strings_ofPairs pairs key, fun text => ?_,
      exists_string_eq_error_iff (orderly_ofPairs pairs), ?_, isMultiple_ofPairs_iff, ?_⟩
    · rw [string_eq_ok_iff, last?_ofPairs]
    · rw [contains_ofPairs_iff, Ne, given_eq_nil_iff, not_not]
    · rw [isFilled_iff, last?_ofPairs]
  · refine ⟨?_, orderly_ofPath targets captured, keys_ofPath targets captured, fun key vs => ?_⟩
    · exact List.take_eq_take_iff.2 (by omega)
    · rw [strings_eq_ok_iff, valuesOf?_ofPath_eq_some_iff]

end Endpoint.Params
