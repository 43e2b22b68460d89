import Endpoint.Field.JsonForm
import Endpoint.Param.Binding
import Endpoint.Proofs.Json.Decoding
import Mathlib.Data.List.Nodup

/-!
# Records with all their fields

A record of a type has a value for every field.  Setting a field changes this one and no other,
and a record that is read from JSON has all its fields, given or not.
-/

namespace Endpoint

namespace Datum

/-- What a field of a record holds once a field has been set. -/
theorem find?_map_set (fields : List (String × Datum)) (name other : String) (v : Datum) :
    ((fields.map fun (n, w) => if n = name then (n, v) else (n, w)).find?
        fun (n, _) => n == other).map Prod.snd =
      ((fields.find? fun (n, _) => n == other).map Prod.snd).map fun w =>
        if other = name then v else w := by
  induction fields with
  | nil => rfl
  | cons entry rest ih =>
    obtain ⟨n, w⟩ := entry
    by_cases hother : n = other
    · subst hother
      by_cases hname : n = name
      · simp [hname]
      · simp [hname]
    · by_cases hname : n = name
      · subst hname
        simpa [hother] using ih
      · simpa [hother, hname] using ih

theorem field?_setField (d v : Datum) (name other : String) :
    (d.setField name v).field? other =
      (d.field? other).map fun w => if other = name then v else w := by
  cases d with
  | record fields => exact find?_map_set fields name other v
  | _ => rfl

theorem field?_setField_of_ne {d v : Datum} {name other : String} (h : other ≠ name) :
    (d.setField name v).field? other = d.field? other := by
  simp [field?_setField, h]

end Datum

namespace RecordType

variable {t : RecordType} {d v : Datum} {f : Field}

/-- A record has a value for every field of its type. -/
def HasFields (t : RecordType) (d : Datum) : Prop := ∀ f ∈ t.fields, (d.field? f.name).isSome

theorem HasFields.setField (h : t.HasFields d) (name : String) :
    t.HasFields (d.setField name v) := by
  intro f hf
  rw [Datum.field?_setField, Option.isSome_map]
  exact h f hf

theorem HasFields.field?_setField (h : t.HasFields d) (hf : f ∈ t.fields) :
    (d.setField f.name v).field? f.name = some v := by
  obtain ⟨w, hw⟩ := Option.isSome_iff_exists.1 (h f hf)
  simp [Datum.field?_setField, hw]

/-- Different fields have different names. -/
def DistinctFields (t : RecordType) : Prop := (t.fields.map Field.name).Nodup

theorem DistinctFields.eq (h : t.DistinctFields) {g : Field} (hf : f ∈ t.fields)
    (hg : g ∈ t.fields) (hname : f.name = g.name) : f = g :=
  List.inj_on_of_nodup_map h hf hg hname

end RecordType

/-! ## Records read from JSON -/

namespace Schema

variable {s : Schema} {scalar : ScalarType → Decoder Scalar} {nested : Nesting → Decoder Datum}

theorem decodeField_fst {f : Field} {x : Option Document} {entry : String × Datum}
    (h : s.decodeField scalar nested f x = some entry) : entry.1 = f.name := by
  cases x with
  | none =>
    obtain rfl := Option.some.inj h
    rfl
  | some x =>
    obtain ⟨v, -, rfl⟩ := Option.map_eq_some_iff.1 h
    rfl

/-- The entries that are read are named after the fields. -/
theorem map_fst_of_forall₂ {pairs : List (Field × Option Document)}
    {entries : List (String × Datum)}
    (h : List.Forall₂ (fun p e => s.decodeField scalar nested p.1 p.2 = some e) pairs entries) :
    entries.map Prod.fst = (pairs.map Prod.fst).map Field.name := by
  induction h with
  | nil => rfl
  | cons hentry _ ih => simp [decodeField_fst hentry, ih]

end Schema

/-- A record that is read has all its fields. -/
theorem RecordType.HasFields.of_decode {t : RecordType} {x : Document} {d : Datum}
    (h : t.decode x = some d) : t.HasFields d := by
  rw [decode, decodeWith, Schema.decodeWithin] at h
  obtain ⟨given, hgiven, h⟩ := Option.bind_eq_some_iff.1 h
  obtain ⟨entries, hentries, h⟩ := Option.bind_eq_some_iff.1 h
  obtain rfl := Option.some.inj h
  have hlength := (Decoder.length_fields hgiven).trans (List.length_map _)
  have hnames : entries.map Prod.fst = t.fields.map Field.name := by
    rw [Schema.map_fst_of_forall₂ (forall₂_of_mapM hentries)]
    exact congrArg (List.map Field.name) (List.map_fst_zip (Nat.le_of_eq hlength.symm))
  intro f hf
  have hmem : f.name ∈ entries.map Prod.fst := hnames ▸ List.mem_map_of_mem hf
  obtain ⟨entry, hentry, hname⟩ := List.mem_map.1 hmem
  rw [Datum.field?, Option.isSome_map, List.find?_isSome]
  exact ⟨entry, hentry, by simpa using hname⟩

end Endpoint
