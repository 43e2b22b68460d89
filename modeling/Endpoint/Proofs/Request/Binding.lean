import Endpoint.Proofs.Param.Binding
import Endpoint.Proofs.Param.Values
import Endpoint.Request.Binding

/-!
# What binding does to a body

Parameters are bound one after another, and no fault is found when each of the bindings
succeeds.  A field then holds the value of the last parameter that was bound to it; a field to
which none was bound is left alone.
-/

namespace Endpoint

/-- The last element of a list with some property, and where it stands. -/
structure IsLast {α : Type} (p : α → Prop) (l : List α) (i : Nat) (a : α) : Prop where
  get : l[i]? = some a
  holds : p a
  later : ∀ j b, i < j → l[j]? = some b → ¬ p b

namespace IsLast

variable {α : Type} {p : α → Prop} {l : List α} {i : Nat} {a : α}

/-- No element after the last one has the property. -/
theorem exists_append (h : IsLast p l i a) :
    ∃ before after, l = before ++ a :: after ∧ ∀ b ∈ after, ¬ p b := by
  obtain ⟨hi, rfl⟩ := List.getElem?_eq_some_iff.1 h.get
  refine ⟨l.take i, l.drop (i + 1), by simp, ?_⟩
  intro b hb
  obtain ⟨k, hk⟩ := List.getElem?_of_mem hb
  rw [List.getElem?_drop] at hk
  exact h.later _ b (by omega) hk

theorem cons (h : IsLast p l i a) (b : α) : IsLast p (b :: l) (i + 1) a where
  get := by simpa using h.get
  holds := h.holds
  later := by
    intro j c hj hc
    obtain ⟨j, rfl⟩ : ∃ k, j = k + 1 := ⟨j - 1, by omega⟩
    exact h.later j c (by omega) (by simpa using hc)

/-- Where any element has the property, there is a last one. -/
theorem exists_of_mem (ha : a ∈ l) (hp : p a) : ∃ i b, IsLast p l i b := by
  induction l generalizing a with
  | nil => simp at ha
  | cons b rest ih =>
    by_cases hrest : ∃ c ∈ rest, p c
    · obtain ⟨c, hc, hpc⟩ := hrest
      obtain ⟨i, d, hd⟩ := ih hc hpc
      exact ⟨i + 1, d, hd.cons b⟩
    · -- then only the first element is left
      obtain rfl : a = b := by
        rcases List.mem_cons.1 ha with rfl | ha
        · rfl
        · exact absurd ⟨a, ha, hp⟩ hrest
      refine ⟨0, a, rfl, hp, ?_⟩
      intro j c hj hc hpc
      obtain ⟨j, rfl⟩ : ∃ k, j = k + 1 := ⟨j - 1, by omega⟩
      exact hrest ⟨c, List.mem_of_getElem? (by simpa using hc), hpc⟩

end IsLast

namespace BodyBinding

variable {β : Type} {b : BodyBinding β} {book : MessageBook} {params : Params}
  {body body' bound : β} {targets : List (String × String)}

/-- Fields are bound one after another from the values under keys. -/
inductive Binds (b : BodyBinding β) (params : Params) : List (String × String) → β → β → Prop
  | nil {body : β} : Binds b params [] body body
  | cons {field key : String} {rest : List (String × String)} {body body' bound : β} :
      b.bind body field params key = .ok body' → Binds b params rest body' bound →
      Binds b params ((field, key) :: rest) body bound

theorem binds_cons_iff {field key : String} :
    b.Binds params ((field, key) :: targets) body bound ↔
      ∃ body', b.bind body field params key = .ok body' ∧ b.Binds params targets body' bound := by
  constructor
  · intro h
    cases h with
    | cons hbind hrest => exact ⟨_, hbind, hrest⟩
  · rintro ⟨body', hbind, hrest⟩
    exact .cons hbind hrest

theorem binds_append_iff {later : List (String × String)} :
    b.Binds params (targets ++ later) body bound ↔
      ∃ body', b.Binds params targets body body' ∧ b.Binds params later body' bound := by
  induction targets generalizing body with
  | nil =>
    constructor
    · intro h
      exact ⟨body, .nil, h⟩
    · rintro ⟨_, ⟨⟩, h⟩
      exact h
  | cons target rest ih =>
    obtain ⟨field, key⟩ := target
    simp only [List.cons_append, binds_cons_iff, ih]
    constructor
    · rintro ⟨body₁, hbind, body', hrest, hlater⟩
      exact ⟨body', ⟨body₁, hbind, hrest⟩, hlater⟩
    · rintro ⟨body', ⟨body₁, hbind, hrest⟩, hlater⟩
      exact ⟨body₁, hbind, body', hrest, hlater⟩

/-- Path texts are bound without faults if each is bound to its field. -/
theorem bindPathFrom_value_iff {fields : List String} {position : Nat} :
    (b.bindPathFrom book params body position fields).value = (bound, []) ↔
      b.Binds params ((fields.zipIdx position).map fun (field, i) => (field, toString i))
        body bound := by
  induction fields generalizing body position with
  | nil =>
    constructor
    · intro h
      obtain rfl := (Prod.mk.inj h).1
      exact .nil
    · rintro ⟨⟩
      rfl
  | cons field rest ih =>
    rw [List.zipIdx_cons, List.map_cons, binds_cons_iff, bindPathFrom]
    cases hbind : b.bind body field params (toString position) with
    | ok body' => simp [ih]
    | error e => simp

/-- Query parameters are bound without faults if each that is given is bound to its field. -/
theorem bindQuery_value_iff
    (hmissing : ∀ body field param, params.contains param = true →
      b.bind body field params param ≠ .error .missing) :
    (b.bindQuery book params body targets).value = (bound, []) ↔
      b.Binds params (targets.filter fun (_, param) => params.contains param) body bound := by
  induction targets generalizing body with
  | nil =>
    constructor
    · intro h
      obtain rfl := (Prod.mk.inj h).1
      exact .nil
    · rintro ⟨⟩
      rfl
  | cons target rest ih =>
    obtain ⟨field, param⟩ := target
    rw [bindQuery, List.filter_cons]
    by_cases hgiven : params.contains param = true
    · simp only [hgiven, if_true, binds_cons_iff]
      cases hbind : b.bind body field params param with
      | ok body' => simp [ih]
      | error e =>
        have hne : e ≠ .missing := by
          rintro rfl
          exact hmissing body field param hgiven hbind
        cases e with
        | missing => exact absurd rfl hne
        | _ => simp [queryFaultEvent?]
    · simp only [hgiven]
      exact ih

/-! ## The order of faults -/

end BodyBinding

namespace RecordType

variable {t : RecordType} {params : Params} {targets : List (String × String)}
  {d d' : Datum} {name : String} {f : Field}

theorem HasFields.of_binds (h : t.bodyBinding.Binds params targets d d') (hd : t.HasFields d) :
    t.HasFields d' := by
  induction h with
  | nil => exact hd
  | cons hbind _ ih =>
    obtain ⟨f, raws, v, -, -, -, rfl⟩ := bind_eq_ok_iff.1 hbind
    exact ih (hd.setField f.name)

/-- A field to which nothing is bound is left alone. -/
theorem field?_of_binds (h : t.bodyBinding.Binds params targets d d')
    (hother : ∀ target ∈ targets, ∀ g, t.paramField? target.1 = some g → g.name ≠ name) :
    d'.field? name = d.field? name := by
  induction h with
  | nil => rfl
  | cons hbind _ ih =>
    obtain ⟨g, raws, v, hg, -, -, rfl⟩ := bind_eq_ok_iff.1 hbind
    obtain ⟨hfirst, hrest⟩ := List.forall_mem_cons.1 hother
    rw [ih hrest, Datum.field?_setField_of_ne (hfirst g hg).symm]

/-- A field holds the value of the last parameter that was bound to it. -/
theorem field?_of_binds_last {key : String} {before after : List (String × String)}
    (hdistinct : t.DistinctFields) (hd : t.HasFields d)
    (h : t.bodyBinding.Binds params (before ++ (name, key) :: after) d d')
    (hf : t.paramField? name = some f) (hlast : ∀ target ∈ after, target.1 ≠ name) :
    ∃ raws v, params.valuesOf? key = some raws ∧ f.Converts raws v ∧
      d'.field? f.name = some v := by
  obtain ⟨d₁, hbefore, h⟩ := BodyBinding.binds_append_iff.1 h
  obtain ⟨d₂, hbind, hafter⟩ := BodyBinding.binds_cons_iff.1 h
  obtain ⟨g, raws, v, hg, hraws, hconv, rfl⟩ := bind_eq_ok_iff.1 hbind
  obtain rfl : f = g := Option.some.inj (hf.symm.trans hg)
  have hfields := hd.of_binds hbefore
  refine ⟨raws, v, hraws, hconv, ?_⟩
  rw [field?_of_binds hafter, hfields.field?_setField (paramField?_eq_some hf).1]
  intro target htarget g hg hname
  exact hlast target htarget (paramField?_inj hdistinct hg hf hname)

end RecordType

end Endpoint
