import Endpoint.Json.Decoder
import Endpoint.Json.Overlay
import Endpoint.Proofs.Json.Entries

/-!
# What a value is after another was laid over it

A place in a value is a path of names.  Where only objects are on the path, in both values, the
upper value decides what it has and leaves the rest as it was.  Where something else than an
object is on the path of the upper value, nothing of the lower value is left there.
-/

namespace Endpoint

namespace Json

/-- The entries of all objects are in order. -/
inductive Sorted : Json → Prop where
  | null : Sorted null
  | bool (b : Bool) : Sorted (bool b)
  | int (i : Int) : Sorted (int i)
  | float (x : Binary64) : Sorted (float x)
  | str (s : String) : Sorted (str s)
  | arr {items : List Json} (hitems : ∀ j ∈ items, Sorted j) : Sorted (arr items)
  | obj {entries : Entries Json} (hentries : entries.Sorted)
    (hvalues : ∀ entry ∈ entries, Sorted entry.2) : Sorted (obj entries)

theorem Sorted.object {pairs : List (String × Json)} (h : ∀ entry ∈ pairs, entry.2.Sorted) :
    (object pairs).Sorted :=
  .obj (Entries.sorted_ofList pairs) fun entry hentry => h entry (Entries.mem_ofList hentry)

theorem Sorted.of_get? {entries : Entries Json} {key : String} {j : Json}
    (h : (Json.obj entries).Sorted) (hget : Entries.get? key entries = some j) : j.Sorted := by
  cases h with
  | obj _ hvalues => exact hvalues _ (Entries.mem_of_get? hget)

end Json

namespace Document

mutual

theorem sorted_of_toJson? : ∀ {d : Document} {j : Json}, d.toJson? = some j → j.Sorted
  | null, _, h => by
    rw [toJson?] at h
    exact Option.some.inj h ▸ .null
  | bool b, _, h => by
    rw [toJson?] at h
    exact Option.some.inj h ▸ .bool b
  | int i, _, h => by
    rw [toJson?] at h
    exact Option.some.inj h ▸ .int i
  | float x, _, h => by
    rw [toJson?] at h
    exact Option.some.inj h ▸ .float x
  | str s, _, h => by
    rw [toJson?] at h
    exact Option.some.inj h ▸ .str s
  | arr items, _, h => by
    rw [toJson?] at h
    obtain ⟨js, hjs, rfl⟩ := Option.map_eq_some_iff.1 h
    exact .arr (sorted_of_itemsToJson? hjs)
  | obj entries, _, h => by
    rw [toJson?] at h
    obtain ⟨es, hes, rfl⟩ := Option.map_eq_some_iff.1 h
    exact .object (sorted_of_entriesToJson? hes)
  | novalue, _, h => by
    rw [toJson?] at h
    cases h

theorem sorted_of_itemsToJson? : ∀ {items : List Document} {js : List Json},
    itemsToJson? items = some js → ∀ j ∈ js, j.Sorted
  | [], _, h, j, hj => by
    rw [itemsToJson?] at h
    rw [← Option.some.inj h] at hj
    cases hj
  | d :: rest, _, h, j, hj => by
    rw [itemsToJson?] at h
    split at h
    · rename_i first js hfirst hjs
      rw [← Option.some.inj h] at hj
      rcases List.mem_cons.1 hj with rfl | hj
      · exact sorted_of_toJson? hfirst
      · exact sorted_of_itemsToJson? hjs j hj
    · cases h

theorem sorted_of_entriesToJson? : ∀ {entries : List (Option String × Document)}
    {es : List (String × Json)},
    entriesToJson? entries = some es → ∀ entry ∈ es, entry.2.Sorted
  | [], _, h, entry, hentry => by
    rw [entriesToJson?] at h
    rw [← Option.some.inj h] at hentry
    cases hentry
  | (none, d) :: rest, _, h, entry, hentry => by
    rw [entriesToJson?.eq_def] at h
    cases h
  | (some key, d) :: rest, _, h, entry, hentry => by
    rw [entriesToJson?.eq_def] at h
    simp only at h
    split at h
    · rename_i k j es _ hj hes
      rw [← Option.some.inj h] at hentry
      rcases List.mem_cons.1 hentry with rfl | hentry
      · exact sorted_of_toJson? hj
      · exact sorted_of_entriesToJson? hes entry hentry
    · cases h

end

end Document

/-- The value that is read from a text is in order. -/
theorem Json.sorted_of_readText? {text : String} {j : Json} (h : Json.readText? text = some j) :
    j.Sorted := by
  obtain ⟨d, -, hd⟩ := Option.bind_eq_some_iff.1 h
  exact Document.sorted_of_toJson? hd

section Overlay

variable {base layer v : Json} {lower upper : Entries Json} {key : String}

/-- Anything but two objects is replaced as a whole. -/
theorem Json.overlay_eq_layer (h : base.isObject = false ∨ layer.isObject = false) :
    base.overlay layer = layer := by
  rw [Json.overlay]
  rintro lower upper rfl rfl
  simp [isObject] at h

/-- An entry laid over others is laid over the one of its key. -/
theorem Entries.get?_overlay (hupper : upper.Sorted) (key : String) (lower : Entries Json) :
    Entries.get? key (Entries.overlay lower upper) =
      match Entries.get? key upper with
      | none => Entries.get? key lower
      | some above => some (match Entries.get? key lower with
        | none => above
        | some below => below.overlay above) := by
  induction upper generalizing lower with
  | nil =>
    rw [Entries.overlay]
    rfl
  | cons entry rest ih =>
    obtain ⟨k, above⟩ := entry
    obtain ⟨hk, hrest⟩ := List.pairwise_cons.1 hupper
    rw [Entries.overlay, ih hrest]
    by_cases hkey : k = key
    · subst hkey
      rw [Entries.get?_eq_none_of_lt hk]
      simp only [Entries.get?_insert, Entries.get?, if_true]
      cases Entries.get? k lower <;> rfl
    · simp only [Entries.get?_insert, Entries.get?, if_neg hkey]

theorem Entries.Sorted.overlay (hlower : lower.Sorted) (upper : List (String × Json)) :
    (Entries.overlay lower upper).Sorted := by
  induction upper generalizing lower with
  | nil =>
    rw [Entries.overlay]
    exact hlower
  | cons entry rest ih =>
    rw [Entries.overlay]
    exact ih hlower.insert

theorem Json.Sorted.overlay (hbase : base.Sorted) (hlayer : layer.Sorted) :
    (base.overlay layer).Sorted := by
  induction hlayer generalizing base with
  | @obj upper hupper habove ih =>
    cases hbase with
    | @obj lower hlower hbelow =>
      rw [Json.overlay]
      refine .obj (hlower.overlay upper) fun entry hentry => ?_
      have hget := Entries.get?_of_mem (hlower.overlay upper) hentry
      rw [Entries.get?_overlay hupper] at hget
      split at hget
      · exact hbelow _ (Entries.mem_of_get? hget)
      · rename_i above hmem
        have hmem := Entries.mem_of_get? hmem
        split at hget
        · exact Option.some.inj hget ▸ habove _ hmem
        · rename_i below hlow
          exact Option.some.inj hget ▸ ih _ hmem (hbelow _ (Entries.mem_of_get? hlow))
    | _ =>
      rw [Json.overlay_eq_layer (.inl rfl)]
      exact .obj hupper habove
  | arr hitems =>
    rw [Json.overlay_eq_layer (.inr rfl)]
    exact .arr hitems
  | _ =>
    rw [Json.overlay_eq_layer (.inr rfl)]
    constructor

end Overlay

namespace Json

/-- The value at a path of names. -/
def at? : List String → Json → Option Json
  | [], j => some j
  | name :: rest, j => (j.get? name).bind (at? rest)

/-- Whether there are only objects on a path, as far as it leads. -/
def ObjectsTo : List String → Json → Prop
  | [], _ => True
  | name :: rest, j => j.isObject = true ∧ ∀ v, j.get? name = some v → v.ObjectsTo rest

instance decidableObjectsTo : (path : List String) → (j : Json) → Decidable (j.ObjectsTo path)
  | [], _ => isTrue trivial
  | name :: rest, j =>
    match h : j.get? name with
    | none => decidable_of_iff (j.isObject = true) (by simp [ObjectsTo, h])
    | some v =>
      have : Decidable (v.ObjectsTo rest) := decidableObjectsTo rest v
      decidable_of_iff (j.isObject = true ∧ v.ObjectsTo rest) (by simp [ObjectsTo, h])

/-- A field of a record, which is an object or a list of the first fields in order: its name and
    its position. -/
abbrev Field : Type := String × Nat

/-- The value of a field of a record. -/
def field? (field : Field) : Json → Option Json
  | .obj entries => Entries.get? field.1 entries
  | .arr items => items[field.2]?
  | _ => none

/-- The value at a path of fields. -/
def locate : List Field → Json → Option Json
  | [], j => some j
  | field :: rest, j => (j.field? field).bind (locate rest)

/-- The names on a path of fields. -/
def names (place : List Field) : List String := place.map Prod.fst

section Locate

variable {base layer v : Json} {field : Field} {place : List Field}

theorem exists_of_isObject {j : Json} (h : j.isObject = true) : ∃ entries, j = obj entries := by
  cases j with
  | obj entries => exact ⟨entries, rfl⟩
  | _ => cases h

theorem Sorted.of_field? {j : Json} (h : j.Sorted) (hfield : j.field? field = some v) :
    v.Sorted := by
  cases h with
  | obj _ hvalues => exact hvalues _ (Entries.mem_of_get? hfield)
  | arr hitems => exact hitems v (List.mem_of_getElem? hfield)
  | _ => cases hfield

theorem Sorted.of_locate {j : Json} (h : j.Sorted) (hplace : j.locate place = some v) :
    v.Sorted := by
  induction place generalizing j with
  | nil => exact Option.some.inj hplace ▸ h
  | cons field rest ih =>
    obtain ⟨j', hfield, hrest⟩ := Option.bind_eq_some_iff.1 hplace
    exact ih (h.of_field? hfield) hrest

theorem locate_singleton (field : Field) (j : Json) : j.locate [field] = j.field? field := by
  rw [locate]
  cases j.field? field <;> rfl

theorem locate_append (place place' : List Field) (j : Json) :
    j.locate (place ++ place') = (j.locate place).bind (locate place') := by
  induction place generalizing j with
  | nil => rfl
  | cons field rest ih =>
    rw [List.cons_append, locate, locate, Option.bind_assoc]
    exact congrArg _ (funext ih)

/-- What stands at a path of names stands there as a field, too. -/
theorem locate_of_at? (h : layer.at? (names place) = some v) : layer.locate place = some v := by
  induction place generalizing layer with
  | nil => exact h
  | cons field rest ih =>
    obtain ⟨above, hget, hrest⟩ := Option.bind_eq_some_iff.1 h
    cases layer with
    | obj upper => exact Option.bind_eq_some_iff.2 ⟨above, hget, ih hrest⟩
    | _ => cases hget

theorem locate_eq_at? (h : layer.ObjectsTo (names place)) :
    layer.locate place = layer.at? (names place) := by
  induction place generalizing layer with
  | nil => rfl
  | cons field rest ih =>
    obtain ⟨hobject, hrest⟩ := h
    obtain ⟨upper, rfl⟩ := exists_of_isObject hobject
    exact Option.bind_congr fun above habove => ih (hrest above habove)

/-- The value at a place where the layer has one: this one, as a whole. -/
theorem locate_overlay_of_at? (hlayer : layer.Sorted)
    (hbase : ∀ b, base.locate place = some b → b.isObject = false)
    (h : layer.at? (names place) = some v) : (base.overlay layer).locate place = some v := by
  induction place generalizing base layer with
  | nil =>
    rw [overlay_eq_layer (.inl (hbase base rfl))]
    exact h
  | cons field rest ih =>
    by_cases hobject : base.isObject = false
    · rw [overlay_eq_layer (.inl hobject)]
      exact locate_of_at? h
    · obtain ⟨lower, rfl⟩ := exists_of_isObject (Bool.not_eq_false _ ▸ hobject)
      obtain ⟨above, hget, hrest⟩ := Option.bind_eq_some_iff.1 h
      cases hlayer with
      | @obj upper hupper habove =>
        have hget' : Entries.get? field.1 upper = some above := hget
        rw [overlay, locate, field?, Entries.get?_overlay hupper, hget', Option.bind_some]
        cases hlow : Entries.get? field.1 lower with
        | none => exact locate_of_at? hrest
        | some below =>
          have hbelow (b : Json) (hb : below.locate rest = some b) : b.isObject = false :=
            hbase b (Option.bind_eq_some_iff.2 ⟨below, hlow, hb⟩)
          exact ih (habove _ (Entries.mem_of_get? hget')) hbelow hrest
      | _ => cases hget

/-- The value at a place where the layer has none, with only objects on the way: the one below. -/
theorem locate_overlay_of_absent (hlayer : layer.Sorted) (hbase : base.ObjectsTo (names place))
    (hobjects : layer.ObjectsTo (names place)) (h : layer.at? (names place) = none) :
    (base.overlay layer).locate place = base.locate place := by
  induction place generalizing base layer with
  | nil => cases h
  | cons field rest ih =>
    obtain ⟨hbaseObject, hbelow⟩ := hbase
    obtain ⟨hlayerObject, habove⟩ := hobjects
    obtain ⟨lower, rfl⟩ := exists_of_isObject hbaseObject
    obtain ⟨upper, rfl⟩ := exists_of_isObject hlayerObject
    cases hlayer with
    | obj hupper hsorted =>
      rw [overlay, locate, locate, field?, field?, Entries.get?_overlay hupper]
      cases hget : Entries.get? field.1 upper with
      | none => rfl
      | some above =>
        have hrest : above.at? (names rest) = none := by
          have h' : (Entries.get? field.1 upper).bind (at? (names rest)) = none := h
          rwa [hget, Option.bind_some] at h'
        cases hlow : Entries.get? field.1 lower with
        | none => exact (locate_eq_at? (habove above hget)).trans hrest
        | some below =>
          exact ih (hsorted _ (Entries.mem_of_get? hget)) (hbelow below hlow) (habove above hget)
            hrest

/-- The value at a place that something else than an object of the layer is on the way to: the
    one of the layer, whatever is below. -/
theorem locate_overlay_of_not_objectsTo (hlayer : layer.Sorted)
    (h : ¬ layer.ObjectsTo (names place)) :
    (base.overlay layer).locate place = layer.locate place := by
  induction place generalizing base layer with
  | nil => exact absurd trivial h
  | cons field rest ih =>
    by_cases hobjects : base.isObject = false ∨ layer.isObject = false
    · rw [overlay_eq_layer hobjects]
    · obtain ⟨hbaseObject, hlayerObject⟩ := not_or.1 hobjects
      obtain ⟨lower, rfl⟩ := exists_of_isObject (Bool.not_eq_false _ ▸ hbaseObject)
      obtain ⟨upper, rfl⟩ := exists_of_isObject (Bool.not_eq_false _ ▸ hlayerObject)
      cases hlayer with
      | obj hupper hsorted =>
        rw [overlay, locate, locate, field?, field?, Entries.get?_overlay hupper]
        cases hget : Entries.get? field.1 upper with
        | none =>
          refine absurd ⟨rfl, fun v hv => ?_⟩ h
          rw [get?, hget] at hv
          cases hv
        | some above =>
          have hrest : ¬ above.ObjectsTo (names rest) := by
            refine fun habove => h ⟨rfl, fun v hv => ?_⟩
            rw [get?, hget] at hv
            exact Option.some.inj hv ▸ habove
          cases Entries.get? field.1 lower with
          | none => rfl
          | some below => exact ih (hsorted _ (Entries.mem_of_get? hget)) hrest

end Locate

end Json

end Endpoint
