import Endpoint.Proofs.Json.Overlay
import Mathlib.Data.List.Forall2

/-!
# What a decoder makes of a value

A decoder of a record gives each field what its own decoder makes of the value of the field, and
the default where the field is missing.  `Reads` says this of any place in a value, so that what a
decoder gives for a nested field follows from what the decoders on the way give.
-/

namespace Endpoint

theorem forall₂_of_mapM {α β : Type} {f : α → Option β} {as : List α} {bs : List β}
    (h : as.mapM f = some bs) : List.Forall₂ (fun a b => f a = some b) as bs := by
  induction as generalizing bs with
  | nil =>
    obtain rfl : [] = bs := by simpa using h
    exact .nil
  | cons a as ih =>
    rw [List.mapM_cons] at h
    obtain ⟨b, hb, h⟩ := Option.bind_eq_some_iff.1 h
    obtain ⟨bs', hbs, h⟩ := Option.bind_eq_some_iff.1 h
    obtain rfl : b :: bs' = bs := by simpa using h
    exact .cons hb (ih hbs)

/-- What a function that may fail gives for every element of a list. -/
theorem eq_map_of_mapM {α β : Type} {f : α → Option β} {g : α → β}
    (hg : ∀ a b, f a = some b → b = g a) {as : List α} {bs : List β} (h : as.mapM f = some bs) :
    bs = as.map g := by
  have hall := forall₂_of_mapM h
  clear h
  induction hall with
  | nil => rfl
  | cons hb _ ih => rw [List.map_cons, hg _ _ hb, ih]

namespace Document

theorem ofItems_eq (items : List Json) : ofItems items = items.map ofJson := by
  induction items with
  | nil => rfl
  | cons j rest ih => rw [ofItems, ih, List.map_cons]

theorem ofEntries_eq (entries : Entries Json) :
    ofEntries entries = entries.map fun entry => (some entry.1, ofJson entry.2) := by
  induction entries with
  | nil => rfl
  | cons entry rest ih => rw [ofEntries, ih, List.map_cons]

end Document

namespace Decoder

variable {α β γ : Type} {j : Json} {names : List String} {closed : Bool}

/-- Something is said of every field that is asked for. -/
theorem length_fields {x : Document} {given : List (Option Document)}
    (h : fields closed names x = some given) : given.length = names.length := by
  rw [fields.eq_def] at h
  split at h
  · split at h
    · simp at h
    · rename_i items hle
      obtain rfl := Option.some.inj h
      simp only [List.length_append, List.length_map, List.length_replicate]
      omega
  · simp only at h
    split at h
    · simp at h
    · exact (forall₂_of_mapM h).length_eq.symm
  · simp at h

theorem head?_fieldDocuments (name : String) (entries : Entries Json) :
    (fieldDocuments name (Document.ofEntries entries)).head? =
      (Entries.get? name entries).map Document.ofJson := by
  induction entries with
  | nil => rfl
  | cons entry rest ih =>
    obtain ⟨k, v⟩ := entry
    by_cases hk : k = name
    · simp [fieldDocuments, Document.ofEntries, Entries.get?, hk]
    · simpa [fieldDocuments, Document.ofEntries, Entries.get?, hk] using ih

/-- The documents of the fields of a record are those of their values. -/
theorem fields_ofJson {given : List (Option Document)}
    (h : fields closed names (.ofJson j) = some given) :
    given = names.mapIdx fun i name => (j.field? (name, i)).map Document.ofJson := by
  cases j with
  | arr items =>
    rw [Document.ofJson, Document.ofItems_eq, fields] at h
    split at h
    · cases h
    · rename_i hle
      rw [List.length_map] at hle
      obtain rfl := Option.some.inj h
      apply List.ext_getElem?
      intro i
      rw [List.getElem?_mapIdx]
      by_cases hi : i < items.length
      · have hi' : i < names.length := by omega
        simp [List.getElem?_append, hi, hi', Json.field?]
      · by_cases hi' : i < names.length
        · have hrest : i - items.length < names.length - items.length := by omega
          simp [List.getElem?_append, hi, hi', hrest, Json.field?]
        · have hrest : ¬ i - items.length < names.length - items.length := by omega
          simp [List.getElem?_append, hi, hi', hrest]
  | obj entries =>
    rw [Document.ofJson, fields] at h
    split at h
    · cases h
    · have hmap : given = names.map fun name => (Entries.get? name entries).map .ofJson := by
        refine eq_map_of_mapM (fun name x hx => ?_) h
        have hhead := head?_fieldDocuments name entries
        split at hx
        · rename_i hnil
          rw [← Option.some.inj hx, ← hhead, hnil]
          rfl
        · rename_i first hone
          rw [← Option.some.inj hx, ← hhead, hone]
          rfl
        · cases hx
      rw [hmap]
      apply List.ext_getElem?
      intro i
      rw [List.getElem?_mapIdx, List.getElem?_map]
      rfl
  | float x =>
    rw [Document.ofJson] at h
    split at h <;> cases h
  | _ => cases h

/-- A part of what a decoder gives is what another decoder makes of the value at a place, or the
    part of the usual value where there is none. -/
def Reads (d : Decoder α) (usual : α) (place : List Json.Field) (d' : Decoder β) (get : α → β) :
    Prop :=
  ∀ j a, j.Sorted → d (.ofJson j) = some a →
    withDefault (get usual) d' ((j.locate place).map .ofJson) = some (get a)

theorem Reads.of_field {d : Decoder α} {usual : α} {field : Json.Field} {d' : Decoder β}
    {get : α → β}
    (h : ∀ j a, d (.ofJson j) = some a →
      withDefault (get usual) d' ((j.field? field).map .ofJson) = some (get a)) :
    Reads d usual [field] d' get := by
  intro j a _ ha
  rw [Json.locate_singleton]
  exact h j a ha

/-- A part of a part is found at the end of both places. -/
theorem Reads.trans {d : Decoder α} {usual : α} {place place' : List Json.Field} {d' : Decoder β}
    {get : α → β} {d'' : Decoder γ} {get' : β → γ} (h : Reads d usual place d' get)
    (h' : Reads d' (get usual) place' d'' get') :
    Reads d usual (place ++ place') d'' fun a => get' (get a) := by
  intro j a hj ha
  have hpart := h j a hj ha
  rw [Json.locate_append]
  cases hv : j.locate place with
  | none =>
    rw [hv] at hpart
    have husual : get usual = get a := Option.some.inj hpart
    exact congrArg (fun part => some (get' part)) husual
  | some v =>
    rw [hv] at hpart
    exact h' v (get a) (hj.of_locate hv) hpart

/-- A value that may be missing. -/
def optional (d : Decoder α) : Decoder (Option α) := fun x => (d x).map some

/-- The entries of a map are decoded one by one. -/
theorem forall₂_of_entries {d : Decoder α} {given : Entries Json} {es : Entries α}
    (hgiven : given.Sorted) (h : entries d (.ofJson (.obj given)) = some es) :
    List.Forall₂ (fun e e' => e.1 = e'.1 ∧ d (.ofJson e.2) = some e'.2) given es := by
  obtain ⟨pairs, hpairs, rfl⟩ := Option.map_eq_some_iff.1 h
  rw [Document.ofEntries_eq] at hpairs
  have hall := List.forall₂_map_left_iff.1 (forall₂_of_mapM hpairs)
  have hentries :
      List.Forall₂ (fun e e' => e.1 = e'.1 ∧ d (.ofJson e.2) = some e'.2) given pairs := by
    refine hall.imp fun e e' he => ?_
    rw [entry] at he
    split at he
    · rename_i k v hk hv
      obtain rfl := Option.some.inj he
      exact ⟨Option.some.inj hk, hv⟩
    · cases he
  have hkeys : given.map Prod.fst = pairs.map Prod.fst :=
    List.forall₂_eq_eq_eq ▸ List.forall₂_map_left_iff.2 (List.forall₂_map_right_iff.2
      (hentries.imp fun _ _ he => he.1))
  have hsorted : Entries.Sorted pairs := by
    have hordered : (given.map Prod.fst).Pairwise (· < ·) := List.pairwise_map.2 hgiven
    rw [hkeys] at hordered
    exact List.pairwise_map.1 hordered
  rw [hsorted.ofList_eq]
  exact hentries

theorem get?_of_forall₂ {d : Decoder α} {given : Entries Json} {es : Entries α}
    (h : List.Forall₂ (fun e e' => e.1 = e'.1 ∧ d (.ofJson e.2) = some e'.2) given es)
    (key : String) :
    withDefault none (optional d) ((Entries.get? key given).map .ofJson) =
      some (Entries.get? key es) := by
  induction h with
  | nil => rfl
  | @cons e e' given es he _ ih =>
    obtain ⟨k, j⟩ := e
    obtain ⟨k', v⟩ := e'
    obtain ⟨rfl, hv⟩ : k = k' ∧ d (.ofJson j) = some v := he
    rw [Entries.get?, Entries.get?]
    by_cases hk : k = key
    · rw [if_pos hk, if_pos hk]
      exact congrArg (Option.map some) hv
    · rw [if_neg hk, if_neg hk]
      exact ih

theorem reads_entries (d : Decoder α) (key : String) (index : Nat) :
    Reads (entries d) [] [(key, index)] (optional d) (Entries.get? key) := by
  intro j es hj hes
  rw [Json.locate_singleton]
  cases hj with
  | obj hgiven _ => exact get?_of_forall₂ (forall₂_of_entries hgiven hes) key
  | float x =>
    rw [Document.ofJson] at hes
    split at hes <;> cases hes
  | _ => cases hes

end Decoder

end Endpoint
