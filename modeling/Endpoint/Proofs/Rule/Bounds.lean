import Endpoint.Rule.Bounds

/-!
# Where bounds are divided

`Divides` says which two texts the bounds of a range consist of: they are divided at the first
hyphen that can be neither a sign nor a part of an exponent, and a text without such a hyphen
is an upper bound after a hyphen.  `split_eq_some_iff` says that `Bounds.split` finds them.
-/

namespace Endpoint.Bounds

/-- After a character like this a hyphen is neither the sign of a number nor the sign of an
    exponent. -/
def EndsNumber (c : Char) : Prop := c ≠ 'e' ∧ c ≠ 'E' ∧ c ≠ '-'

/-- A text consists of two parts with a hyphen between them that can only divide them. -/
structure Separates (cs lo hi : List Char) : Prop where
  text : cs = lo ++ '-' :: hi
  before : ∃ c, lo.getLast? = some c ∧ EndsNumber c

/-- Bounds are written as a lower and an upper part, either of them perhaps empty. -/
inductive Divides (cs : List Char) : List Char → List Char → Prop
  | separated {lo hi : List Char} : Separates cs lo hi →
      (∀ lo' hi', Separates cs lo' hi' → lo.length ≤ lo'.length) → Divides cs lo hi
  | upper {hi : List Char} : cs = '-' :: hi → hi ≠ [] → (∀ lo' hi', ¬ Separates cs lo' hi') →
      Divides cs [] hi

theorem Separates.ne_nil {cs lo hi : List Char} (h : Separates cs lo hi) : lo ≠ [] := by
  obtain ⟨c, hc, -⟩ := h.before
  rintro rfl
  simp at hc

/-- The dividing hyphen stands after the first character, or further on in the rest. -/
theorem separates_cons_iff {p : Char} {cs lo hi : List Char} :
    Separates (p :: cs) (p :: lo) hi ↔
      (lo = [] ∧ cs = '-' :: hi ∧ EndsNumber p) ∨ Separates cs lo hi := by
  constructor
  · intro h
    have htext : cs = lo ++ '-' :: hi := by simpa using h.text
    obtain ⟨c, hc, hends⟩ := h.before
    cases lo with
    | nil =>
      have hpc : p = c := by simpa using hc
      exact .inl ⟨rfl, by simpa using htext, hpc ▸ hends⟩
    | cons q lo => exact .inr ⟨htext, c, by simpa using hc, hends⟩
  · rintro (⟨rfl, rfl, hends⟩ | h)
    · exact ⟨rfl, p, rfl, hends⟩
    · obtain ⟨c, hc, hends⟩ := h.before
      refine ⟨by rw [h.text]; rfl, c, ?_, hends⟩
      rw [List.getLast?_cons, hc]
      rfl

theorem Separates.head_eq {p : Char} {cs lo hi : List Char} (h : Separates (p :: cs) lo hi) :
    ∃ lo', lo = p :: lo' := by
  cases lo with
  | nil => exact absurd rfl h.ne_nil
  | cons q lo =>
    have htext := h.text
    rw [List.cons_append, List.cons.injEq] at htext
    exact ⟨lo, by rw [htext.1]⟩

theorem not_separates_singleton {p : Char} {lo hi : List Char} : ¬ Separates [p] lo hi := by
  intro h
  obtain ⟨lo, rfl⟩ := h.head_eq
  have htext := h.text
  simp at htext

/-- After a hyphen that ends the lower part nothing is left to look for. -/
theorem splitAfter_cons_of_separates {p : Char} {rest : List Char} (h : EndsNumber p) :
    splitAfter p ('-' :: rest) = some ([], rest) := by
  rw [splitAfter, if_pos ⟨rfl, h.1, h.2.1, h.2.2⟩]

theorem splitAfter_cons_of_not {p c : Char} {rest : List Char} (h : ¬ (c = '-' ∧ EndsNumber p)) :
    splitAfter p (c :: rest) = (splitAfter c rest).map fun (lo, hi) => (c :: lo, hi) := by
  rw [splitAfter, if_neg]
  intro hc
  exact h ⟨hc.1, hc.2.1, hc.2.2.1, hc.2.2.2⟩

/-- What is found after a character is the first place that divides. -/
theorem splitAfter_eq_some_iff {p : Char} {cs lo hi : List Char} :
    splitAfter p cs = some (lo, hi) ↔
      Separates (p :: cs) (p :: lo) hi ∧
        ∀ lo' hi', Separates (p :: cs) lo' hi' → (p :: lo).length ≤ lo'.length := by
  induction cs generalizing p lo with
  | nil =>
    constructor
    · intro h
      simp [splitAfter] at h
    · intro h
      exact absurd h.1 not_separates_singleton
  | cons c rest ih =>
    by_cases hc : c = '-' ∧ EndsNumber p
    · obtain ⟨rfl, hp⟩ := hc
      rw [splitAfter_cons_of_separates hp]
      constructor
      · intro h
        obtain ⟨rfl, rfl⟩ : lo = [] ∧ hi = rest := by simpa [eq_comm] using h
        refine ⟨separates_cons_iff.2 (.inl ⟨rfl, rfl, hp⟩), ?_⟩
        intro lo' hi' h'
        obtain ⟨lo', rfl⟩ := h'.head_eq
        simp
      · rintro ⟨h, hleast⟩
        have hfirst := hleast [p] rest (separates_cons_iff.2 (.inl ⟨rfl, rfl, hp⟩))
        have hlo : lo = [] := List.eq_nil_of_length_eq_zero (by simpa using hfirst)
        subst hlo
        have htext := h.text
        simp only [List.cons_append, List.nil_append, List.cons.injEq, true_and] at htext
        rw [htext]
    · -- the first place lies in the rest, so it is found there
      rw [splitAfter_cons_of_not hc]
      have hrest : ∀ {lo' hi'}, Separates (p :: c :: rest) (p :: lo') hi' ↔
          Separates (c :: rest) lo' hi' := by
        intro lo' hi'
        rw [separates_cons_iff]
        refine ⟨?_, .inr⟩
        rintro (⟨-, htext, hp⟩ | h)
        · exact absurd ⟨(List.cons.inj htext).1, hp⟩ hc
        · exact h
      constructor
      · intro h
        obtain ⟨⟨lo₀, hi₀⟩, hfound, heq⟩ := Option.map_eq_some_iff.1 h
        obtain ⟨rfl, rfl⟩ := Prod.mk.inj heq
        obtain ⟨hsep, hleast⟩ := ih.1 hfound
        refine ⟨hrest.2 hsep, ?_⟩
        intro lo' hi' h'
        obtain ⟨lo', rfl⟩ := h'.head_eq
        have := hleast lo' hi' (hrest.1 h')
        simpa using this
      · rintro ⟨h, hleast⟩
        have hsep := hrest.1 h
        obtain ⟨lo, rfl⟩ := hsep.head_eq
        have hfound : splitAfter c rest = some (lo, hi) := by
          refine ih.2 ⟨hsep, ?_⟩
          intro lo' hi' h'
          have := hleast (p :: lo') hi' (hrest.2 h')
          simpa using this
        rw [hfound]
        rfl

theorem splitAfter_eq_none_iff {p : Char} {cs : List Char} :
    splitAfter p cs = none ↔ ∀ lo hi, ¬ Separates (p :: cs) lo hi := by
  induction cs generalizing p with
  | nil => simp [splitAfter, not_separates_singleton]
  | cons c rest ih =>
    by_cases hc : c = '-' ∧ EndsNumber p
    · obtain ⟨rfl, hp⟩ := hc
      rw [splitAfter_cons_of_separates hp]
      constructor
      · intro h
        exact absurd h (by simp)
      · intro h
        exact absurd (separates_cons_iff.2 (.inl ⟨rfl, rfl, hp⟩)) (h [p] rest)
    · rw [splitAfter_cons_of_not hc, Option.map_eq_none_iff, ih]
      constructor
      · intro h lo hi hsep
        obtain ⟨lo, rfl⟩ := hsep.head_eq
        rcases separates_cons_iff.1 hsep with ⟨-, htext, hp⟩ | hsep
        · exact hc ⟨(List.cons.inj htext).1, hp⟩
        · exact h lo hi hsep
      · intro h lo hi hsep
        exact h (p :: lo) hi (separates_cons_iff.2 (.inr hsep))

theorem splitChars_eq_some_iff {cs lo hi : List Char} :
    splitChars cs = some (lo, hi) ↔ Divides cs lo hi := by
  cases cs with
  | nil =>
    constructor
    · intro h
      simp [splitChars] at h
    · intro h
      cases h with
      | separated h _ => exact absurd h.text (by simp)
      | upper h _ _ => exact absurd h (by simp)
  | cons c rest =>
    rw [splitChars]
    cases hs : splitAfter c rest with
    | some parts =>
      obtain ⟨lo₀, hi₀⟩ := parts
      obtain ⟨hsep, hleast⟩ := splitAfter_eq_some_iff.1 hs
      constructor
      · intro h
        obtain ⟨rfl, rfl⟩ : c :: lo₀ = lo ∧ hi₀ = hi := by simpa using h
        exact .separated hsep hleast
      · intro h
        cases h with
        | separated hsep' hleast' =>
          obtain ⟨lo', rfl⟩ := hsep'.head_eq
          have hfound := splitAfter_eq_some_iff.2 ⟨hsep', hleast'⟩
          rw [hs] at hfound
          obtain ⟨rfl, rfl⟩ : lo₀ = lo' ∧ hi₀ = hi := by simpa using hfound
          rfl
        | upper _ _ hnone => exact absurd hsep (hnone _ _)
    | none =>
      have hnone := splitAfter_eq_none_iff.1 hs
      constructor
      · intro h
        simp only at h
        split at h
        · rename_i hc
          obtain ⟨rfl, rfl⟩ : [] = lo ∧ rest = hi := by simpa using h
          exact .upper (by rw [hc.1]) hc.2 hnone
        · exact absurd h (by simp)
      · intro h
        cases h with
        | separated h _ => exact absurd h (hnone _ _)
        | upper h hne _ =>
          obtain ⟨rfl, rfl⟩ := List.cons.inj h
          simp [hne]

/-- Bounds are split as they are divided. -/
theorem split_eq_some_iff {text lo hi : String} :
    split text = some (lo, hi) ↔ Divides text.toList lo.toList hi.toList := by
  rw [← splitChars_eq_some_iff, split, Option.map_eq_some_iff]
  constructor
  · rintro ⟨⟨lo', hi'⟩, h, heq⟩
    obtain ⟨rfl, rfl⟩ := Prod.mk.inj heq
    rw [h, String.toList_ofList, String.toList_ofList]
  · intro h
    exact ⟨_, h, by simp⟩

example : split "1e-5--3" = some ("1e-5", "-3") := by decide

example : split "-7" = some ("", "7") := by decide

end Endpoint.Bounds
