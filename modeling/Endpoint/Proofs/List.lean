import Mathlib.Data.List.Forall2

/-!
# Lists related element by element, and lists without repetitions

Where every element of a list has a partner there is a list of partners, and its last element is the
partner of the last one.  A list from which repetitions are erased has none.
-/

namespace Endpoint

variable {α β : Type} {R : α → β → Prop} {as : List α} {bs : List β}

theorem exists_forall₂_iff : (∃ bs, List.Forall₂ R as bs) ↔ ∀ a ∈ as, ∃ b, R a b := by
  induction as with
  | nil => simp
  | cons a as ih =>
    rw [List.forall_mem_cons, ← ih]
    constructor
    · rintro ⟨_, h⟩
      obtain ⟨b, bs, hb, hbs, rfl⟩ := List.forall₂_cons_left_iff.1 h
      exact ⟨⟨b, hb⟩, bs, hbs⟩
    · rintro ⟨⟨b, hb⟩, bs, hbs⟩
      exact ⟨b :: bs, .cons hb hbs⟩

theorem getLast?_of_forall₂ (h : List.Forall₂ R as bs) (hne : as ≠ []) :
    ∃ a b, as.getLast? = some a ∧ bs.getLast? = some b ∧ R a b := by
  have hreverse := List.forall₂_reverse_iff.2 h
  cases has : as.reverse with
  | nil => exact absurd (List.reverse_eq_nil_iff.1 has) hne
  | cons a before =>
    rw [has] at hreverse
    obtain ⟨b, rest, hab, -, hbs⟩ := List.forall₂_cons_left_iff.1 hreverse
    refine ⟨a, b, ?_, ?_, hab⟩
    · rw [List.getLast?_eq_head?_reverse, has, List.head?_cons]
    · rw [List.getLast?_eq_head?_reverse, hbs, List.head?_cons]

theorem nodup_eraseDups [BEq α] [LawfulBEq α] : ∀ as : List α, as.eraseDups.Nodup
  | [] => by simp
  | a :: as => by
    rw [List.eraseDups_cons, List.nodup_cons]
    refine ⟨fun hmem => ?_, nodup_eraseDups (as.filter fun b => !b == a)⟩
    simpa using List.mem_eraseDups.1 hmem
  termination_by as => as.length
  decreasing_by exact Nat.lt_succ_of_le (List.length_filter_le _ _)

end Endpoint
