import Endpoint.Json.Basic

/-!
# Maps as entries in order

Entries whose keys increase are determined by the values of their keys.  Setting keys keeps the
order, and two keys may be set in either order.
-/

namespace Endpoint

namespace Entries

variable {α β : Type} {entries others : Entries α} {pairs : List (String × α)} {key : String}
  {value : α}

/-- The keys increase. -/
def Sorted (entries : Entries α) : Prop := entries.Pairwise fun a b => a.1 < b.1

theorem sorted_nil : Sorted ([] : Entries α) := List.Pairwise.nil

theorem mem_of_get? (h : get? key entries = some value) : (key, value) ∈ entries := by
  induction entries with
  | nil => simp [get?] at h
  | cons entry rest ih =>
    obtain ⟨k, v⟩ := entry
    rw [get?] at h
    split at h
    · rename_i hk
      obtain rfl := hk
      obtain rfl := Option.some.inj h
      exact List.mem_cons_self
    · exact List.mem_cons_of_mem _ (ih h)

theorem get?_eq_none (h : ∀ entry ∈ entries, entry.1 ≠ key) : get? key entries = none := by
  cases hget : get? key entries with
  | none => rfl
  | some value => exact absurd rfl (h (key, value) (mem_of_get? hget))

theorem get?_eq_none_iff : get? key entries = none ↔ key ∉ entries.keys := by
  constructor
  · intro hnone hmem
    induction entries with
    | nil => cases hmem
    | cons entry rest ih =>
      rw [get?] at hnone
      split at hnone
      · cases hnone
      · rename_i hne
        exact ih hnone ((List.mem_cons.1 hmem).resolve_left fun heq => hne heq.symm)
  · intro hkey
    exact get?_eq_none fun entry hentry heq => hkey (List.mem_map.2 ⟨entry, hentry, heq⟩)

/-- A key below all others has no value. -/
theorem get?_eq_none_of_lt (h : ∀ entry ∈ entries, key < entry.1) : get? key entries = none := by
  refine get?_eq_none fun entry hentry heq => ?_
  have hlt := h entry hentry
  rw [heq] at hlt
  exact String.lt_irrefl _ hlt

theorem get?_of_mem (hsorted : entries.Sorted) (h : (key, value) ∈ entries) :
    get? key entries = some value := by
  induction entries with
  | nil => cases h
  | cons entry rest ih =>
    obtain ⟨k, v⟩ := entry
    obtain ⟨hk, hrest⟩ := List.pairwise_cons.1 hsorted
    rw [get?]
    rcases List.mem_cons.1 h with heq | hmem
    · obtain ⟨rfl, rfl⟩ := Prod.mk.inj heq
      rw [if_pos rfl]
    · have hlt : k < key := hk _ hmem
      have hne : k ≠ key := by
        rintro rfl
        exact String.lt_irrefl _ hlt
      rw [if_neg hne]
      exact ih hrest hmem

theorem mem_insert {entry : String × α} (h : entry ∈ insert key value entries) :
    entry = (key, value) ∨ entry ∈ entries := by
  induction entries with
  | nil => simpa [insert] using h
  | cons head rest ih =>
    obtain ⟨k, v⟩ := head
    rw [insert] at h
    split at h
    · rcases List.mem_cons.1 h with h | h
      · exact .inl h
      · exact .inr (List.mem_cons_of_mem _ h)
    · split at h
      · exact List.mem_cons.1 h
      · rcases List.mem_cons.1 h with h | h
        · exact .inr (h ▸ List.mem_cons_self)
        · exact (ih h).imp_right (List.mem_cons_of_mem _)

theorem Sorted.insert (hsorted : entries.Sorted) : (Entries.insert key value entries).Sorted := by
  induction entries with
  | nil => exact List.pairwise_singleton _ _
  | cons head rest ih =>
    obtain ⟨k, v⟩ := head
    obtain ⟨hk, hrest⟩ := List.pairwise_cons.1 hsorted
    rw [Entries.insert]
    split
    · rename_i heq
      obtain rfl := heq
      exact List.pairwise_cons.2 ⟨hk, hrest⟩
    · rename_i hne
      split
      · rename_i hlt
        refine List.pairwise_cons.2 ⟨fun entry hentry => ?_, hsorted⟩
        rcases List.mem_cons.1 hentry with rfl | hentry
        · exact hlt
        · exact String.lt_trans hlt (hk entry hentry)
      · rename_i hlt
        have hgt : k < key := Std.lt_of_le_of_ne (String.not_lt.1 hlt) hne
        refine List.pairwise_cons.2 ⟨fun entry hentry => ?_, ih hrest⟩
        rcases mem_insert hentry with rfl | hentry
        · exact hgt
        · exact hk entry hentry

theorem Sorted.foldl_insert (hsorted : entries.Sorted) :
    (pairs.foldl (fun entries (k, v) => entries.insert k v) entries).Sorted := by
  induction pairs generalizing entries with
  | nil => exact hsorted
  | cons pair rest ih => exact ih hsorted.insert

theorem mem_foldl_insert {entry : String × α}
    (h : entry ∈ pairs.foldl (fun entries (k, v) => entries.insert k v) entries) :
    entry ∈ pairs ∨ entry ∈ entries := by
  induction pairs generalizing entries with
  | nil => exact .inr h
  | cons pair rest ih =>
    rcases ih h with hrest | hentries
    · exact .inl (List.mem_cons_of_mem _ hrest)
    · rcases mem_insert hentries with rfl | hentries
      · exact .inl List.mem_cons_self
      · exact .inr hentries

theorem mem_ofList {entry : String × α} (h : entry ∈ ofList pairs) : entry ∈ pairs :=
  (mem_foldl_insert h).resolve_right List.not_mem_nil

theorem sorted_ofList (pairs : List (String × α)) : (ofList pairs).Sorted :=
  sorted_nil.foldl_insert

/-- Entries that increase are determined by the values of their keys. -/
theorem Sorted.ext (hentries : entries.Sorted) (hothers : others.Sorted)
    (h : ∀ key, get? key entries = get? key others) : entries = others := by
  induction entries generalizing others with
  | nil =>
    cases others with
    | nil => rfl
    | cons entry rest =>
      have hhead := h entry.1
      simp [get?] at hhead
  | cons entry rest ih =>
    obtain ⟨k, v⟩ := entry
    obtain ⟨hk, hrest⟩ := List.pairwise_cons.1 hentries
    cases others with
    | nil =>
      have hhead := h k
      simp [get?] at hhead
    | cons other rest' =>
      obtain ⟨k', v'⟩ := other
      obtain ⟨hk', hrest'⟩ := List.pairwise_cons.1 hothers
      have hmem : (k, v) ∈ (k', v') :: rest' := mem_of_get? (by rw [← h k, get?, if_pos rfl])
      have hmem' : (k', v') ∈ (k, v) :: rest := mem_of_get? (by rw [h k', get?, if_pos rfl])
      -- The least key of both is the same, since each of them has the other's.
      have hkeys : (k, v) = (k', v') := by
        rcases List.mem_cons.1 hmem with heq | hlater
        · exact heq
        · rcases List.mem_cons.1 hmem' with heq | hlater'
          · exact heq.symm
          · exact absurd (hk _ hlater') (String.lt_asymm (hk' _ hlater))
      obtain ⟨rfl, rfl⟩ := Prod.mk.inj hkeys
      rw [ih hrest hrest' ?_]
      intro key
      by_cases hkey : k = key
      · subst hkey
        rw [get?_eq_none_of_lt hk, get?_eq_none_of_lt hk']
      · have hboth := h key
        rwa [get?, get?, if_neg hkey, if_neg hkey] at hboth

/-- The entry of a key that a filter drops may as well not be set. -/
theorem filter_insert_of_dropped {p : String × α → Bool} (hp : ∀ v, p (key, v) = false) (value : α)
    (entries : Entries α) : (entries.insert key value).filter p = entries.filter p := by
  induction entries with
  | nil => simp [insert, hp]
  | cons entry rest ih =>
    obtain ⟨k, v⟩ := entry
    rw [insert]
    by_cases hk : k = key
    · subst hk
      simp [hp]
    · by_cases hlt : key < k
      · simp [hk, hlt, hp]
      · simp [hk, hlt, List.filter_cons, ih]

theorem mem_insert_self (key : String) (value : α) (entries : Entries α) :
    (key, value) ∈ entries.insert key value :=
  mem_of_get? (by rw [get?_insert, if_pos rfl])

theorem Sorted.filter (hsorted : entries.Sorted) (p : String × α → Bool) :
    Sorted (entries.filter p) :=
  List.Pairwise.filter p hsorted

/-- A key that has a value has one entry. -/
theorem Sorted.filter_key (hsorted : entries.Sorted) (h : get? key entries = some value) :
    entries.filter (·.1 = key) = [(key, value)] := by
  induction entries with
  | nil => cases h
  | cons entry rest ih =>
    obtain ⟨k, v⟩ := entry
    obtain ⟨hlater, hrest⟩ := List.pairwise_cons.1 hsorted
    rw [get?] at h
    by_cases hk : k = key
    · subst hk
      rw [if_pos rfl, Option.some.injEq] at h
      have hnone : rest.filter (·.1 = k) = [] := by
        rw [List.filter_eq_nil_iff]
        intro entry hentry
        have hlt : k < entry.1 := hlater entry hentry
        simpa using (String.ne_of_lt hlt).symm
      rw [List.filter_cons_of_pos (by simp), hnone, h]
    · rw [if_neg hk] at h
      rw [List.filter_cons_of_neg (by simpa using hk)]
      exact ih hrest h

theorem Sorted.mapValues (hsorted : entries.Sorted) (f : α → β) : (mapValues f entries).Sorted :=
  List.pairwise_map.2 hsorted

theorem get?_mapValues (f : α → β) (key : String) (entries : Entries α) :
    get? key (mapValues f entries) = (get? key entries).map f := by
  induction entries with
  | nil => rfl
  | cons entry rest ih =>
    obtain ⟨k, v⟩ := entry
    by_cases hk : k = key
    · simp [mapValues, get?, hk]
    · simpa [mapValues, get?, hk] using ih

theorem get?_append (key : String) (entries others : Entries α) :
    get? key (entries ++ others) = (get? key entries <|> get? key others) := by
  induction entries with
  | nil => rfl
  | cons entry rest ih =>
    obtain ⟨k, v⟩ := entry
    by_cases hk : k = key
    · simp [get?, hk]
    · simpa [get?, hk] using ih

/-- What a key has after pairs have been set one after another: the last of its values, else
    the one it had before. -/
theorem get?_foldl_insert (key : String) (pairs : List (String × α)) (entries : Entries α) :
    get? key (pairs.foldl (fun entries (k, v) => entries.insert k v) entries) =
      (get? key pairs.reverse <|> get? key entries) := by
  induction pairs generalizing entries with
  | nil => rfl
  | cons pair rest ih =>
    obtain ⟨k, v⟩ := pair
    rw [List.foldl_cons, ih, get?_insert, List.reverse_cons, get?_append]
    cases get? key rest.reverse with
    | some value => rfl
    | none => by_cases hk : k = key <;> simp [get?, hk]

theorem get?_ofList (key : String) (pairs : List (String × α)) :
    get? key (ofList pairs) = get? key pairs.reverse := by
  rw [ofList, get?_foldl_insert]
  cases get? key pairs.reverse <;> rfl

/-- If every key occurs once it does not matter whether its first or its last entry is looked
    for. -/
theorem get?_reverse_of_nodup (hkeys : entries.keys.Nodup) (key : String) :
    get? key entries.reverse = get? key entries := by
  induction entries with
  | nil => rfl
  | cons entry rest ih =>
    obtain ⟨k, v⟩ := entry
    obtain ⟨hk, hrest⟩ := List.nodup_cons.1 hkeys
    rw [List.reverse_cons, get?_append, ih hrest]
    by_cases hkey : k = key
    · subst hkey
      have hnone : get? k rest = none :=
        get?_eq_none fun entry hentry heq => hk (List.mem_map.2 ⟨entry, hentry, heq⟩)
      simp [hnone, get?]
    · cases hget : get? key rest <;> simp [get?, hkey, hget]

theorem Sorted.nodup_keys (hsorted : entries.Sorted) : entries.keys.Nodup := by
  refine List.pairwise_map.2 (hsorted.imp fun {a b} hlt heq => ?_)
  rw [heq] at hlt
  exact String.lt_irrefl _ hlt

/-- Entries that increase are the map of themselves as pairs. -/
theorem Sorted.ofList_eq (hsorted : entries.Sorted) : ofList entries = entries :=
  (sorted_ofList entries).ext hsorted fun key => by
    rw [get?_ofList, get?_reverse_of_nodup hsorted.nodup_keys]

/-- The value that a key had before it is set is lost. -/
theorem insert_insert (key : String) (value value' : α) (entries : Entries α) :
    (entries.insert key value).insert key value' = entries.insert key value' := by
  induction entries with
  | nil => simp [insert]
  | cons entry rest ih =>
    obtain ⟨k, v⟩ := entry
    by_cases hk : k = key
    · simp [insert, hk]
    · by_cases hlt : key < k
      · simp [insert, hk, hlt]
      · simp [insert, hk, hlt, ih]

theorem insert_comm_of_lt {key' : String} (hlt : key < key') (value value' : α)
    (entries : Entries α) :
    (entries.insert key value).insert key' value' =
      (entries.insert key' value').insert key value := by
  have hne : key ≠ key' := by
    rintro rfl
    exact String.lt_irrefl _ hlt
  have hnot : ¬ key' < key := String.lt_asymm hlt
  induction entries with
  | nil => simp only [insert, hne, hne.symm, hlt, hnot, if_true, if_false]
  | cons entry rest ih =>
    obtain ⟨k, v⟩ := entry
    by_cases hk : k = key
    · subst hk
      simp only [insert, hne, hnot, if_true, if_false]
    · by_cases hk' : k = key'
      · subst hk'
        simp only [insert, hne, hne.symm, hlt, hnot, if_true, if_false]
      · by_cases hbelow : key < k
        · by_cases hbelow' : key' < k
          · simp only [insert, hk, hk', hne, hne.symm, hlt, hnot, hbelow, hbelow', if_true,
              if_false]
          · simp only [insert, hk, hk', hne, hnot, hbelow, hbelow', if_true, if_false]
        · have hbelow' : ¬ key' < k := fun h => hbelow (String.lt_trans hlt h)
          simp only [insert, hk, hk', hbelow, hbelow', if_false, ih]

/-- Two keys may be set in either order, whatever the entries. -/
theorem insert_comm {key' : String} (hne : key ≠ key') (value value' : α) (entries : Entries α) :
    (entries.insert key value).insert key' value' =
      (entries.insert key' value').insert key value := by
  by_cases hlt : key < key'
  · exact insert_comm_of_lt hlt value value' entries
  · have hgt : key' < key := Std.lt_of_le_of_ne (String.not_lt.1 hlt) hne.symm
    exact (insert_comm_of_lt hgt value' value entries).symm

end Entries

end Endpoint
