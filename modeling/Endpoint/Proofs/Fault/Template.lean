import Endpoint.Fault.MessageBook
import Mathlib

/-!
# Filled templates

A pair of braces in a template is a blank for an argument.  The blanks that count are the leftmost
one and those of the text behind it, so that they do not overlap, and they cut the template into
pieces.  Filling puts the arguments between the pieces just as they are: braces in an argument are
no blanks.
-/

namespace Endpoint.Wording

/-- The pair of braces that stands for an argument. -/
def blank : String := "\x7b\x7d"

/-- A blank begins at a place of a text. -/
def BlankAt (text : String) (i : Nat) : Prop := blank.toList <+: text.toList.drop i

instance (text : String) (i : Nat) : Decidable (BlankAt text i) :=
  inferInstanceAs (Decidable (blank.toList <+: text.toList.drop i))

/-- A text falls into a first piece and others: at its leftmost blank, and the text behind that at
    its own blanks. -/
inductive Cut : String → String → List String → Prop
  | whole {text : String} : (∀ i, ¬ BlankAt text i) → Cut text text []
  | leftmost {before rest first : String} {others : List String} :
      (∀ i < before.length, ¬ BlankAt (before ++ blank ++ rest) i) → Cut rest first others →
      Cut (before ++ blank ++ rest) before (first :: others)

variable {template before rest first first' : String} {others others' : List String}

/-! ## Places of blanks -/

theorem BlankAt.lt {i : Nat} (h : BlankAt template i) : i < template.length := by
  have hlength := h.length_le
  have hblank : blank.toList.length = 2 := rfl
  rw [hblank, List.length_drop, String.length_toList] at hlength
  omega

theorem blankAt_length (before rest : String) :
    BlankAt (before ++ blank ++ rest) before.length := by
  rw [BlankAt, String.append_assoc, String.toList_append, ← String.length_toList,
    List.drop_left, String.toList_append]
  exact List.prefix_append _ _

theorem BlankAt.exists_append {i : Nat} (h : BlankAt template i) :
    ∃ before rest, template = before ++ blank ++ rest ∧ before.length = i := by
  have hlt := h.lt
  obtain ⟨rest, hrest⟩ := h
  refine ⟨String.ofList (template.toList.take i), String.ofList rest, ?_, ?_⟩
  · apply String.toList_inj.1
    rw [String.toList_append, String.toList_append, String.toList_ofList, String.toList_ofList,
      List.append_assoc, hrest, List.take_append_drop]
  · rw [← String.length_toList, String.toList_ofList, List.length_take, String.length_toList]
    omega

/-! ## Pieces -/

theorem exists_cut (template : String) : ∃ first others, Cut template first others := by
  induction hn : template.length using Nat.strong_induction_on generalizing template with
  | _ n ih =>
    by_cases hany : ∃ i, BlankAt template i
    · obtain ⟨before, rest, rfl, hbefore⟩ := (Nat.find_spec hany).exists_append
      have hrest : rest.length < n := by
        have hblank : blank.length = 2 := rfl
        rw [← hn, String.length_append, String.length_append]
        omega
      obtain ⟨first, others, hcut⟩ := ih _ hrest rest rfl
      refine ⟨before, first :: others, .leftmost (fun i hi => ?_) hcut⟩
      exact Nat.find_min hany (hbefore ▸ hi)
    · exact ⟨template, [], .whole (not_exists.1 hany)⟩

/-- A text has one leftmost blank. -/
theorem eq_of_leftmost {before' rest' : String}
    (h : ∀ i < before.length, ¬ BlankAt (before ++ blank ++ rest) i)
    (h' : ∀ i < before'.length, ¬ BlankAt (before' ++ blank ++ rest') i)
    (heq : before ++ blank ++ rest = before' ++ blank ++ rest') :
    before = before' ∧ rest = rest' := by
  have hlength : before.length = before'.length := by
    rcases Nat.lt_trichotomy before.length before'.length with hlt | hsame | hlt
    · exact absurd (heq ▸ blankAt_length before rest) (h' _ hlt)
    · exact hsame
    · exact absurd (heq ▸ blankAt_length before' rest') (h _ hlt)
  rw [← String.length_toList, ← String.length_toList] at hlength
  have hlist := String.toList_inj.2 heq
  rw [String.append_assoc, String.append_assoc, String.toList_append, String.toList_append,
    String.toList_append, String.toList_append] at hlist
  obtain ⟨hbefore, htail⟩ := List.append_inj hlist hlength
  exact ⟨String.toList_inj.1 hbefore, String.toList_inj.1 (List.append_cancel_left htail)⟩

theorem Cut.unique (h : Cut template first others) (h' : Cut template first' others') :
    first' = first ∧ others' = others := by
  induction h generalizing first' others' with
  | @whole text hnone =>
    cases h' with
    | whole => exact ⟨rfl, rfl⟩
    | leftmost => exact absurd (blankAt_length _ _) (hnone _)
  | @leftmost before rest first others hleft _ ih =>
    -- The text is named so that the cases of the other cut do not have to be of this form.
    generalize heq : before ++ blank ++ rest = text at h'
    cases h' with
    | whole hnone => exact absurd (heq ▸ blankAt_length before rest) (hnone _)
    | leftmost hleft' hrest' =>
      obtain ⟨rfl, rfl⟩ := eq_of_leftmost hleft hleft' heq
      obtain ⟨rfl, rfl⟩ := ih hrest'
      exact ⟨rfl, rfl⟩

/-- The pieces of a text joined by blanks are the text. -/
theorem Cut.intercalate_blank (h : Cut template first others) :
    blank.intercalate (first :: others) = template := by
  induction h with
  | whole => rfl
  | leftmost _ _ ih => rw [String.intercalate_cons_cons, ih]

/-! ## Filling -/

theorem fillChars_cons_of_not {c : Char} {cs : List Char} (h : ¬ blank.toList <+: c :: cs)
    (args : List (List Char)) : fillChars (c :: cs) args = c :: fillChars cs args := by
  cases cs with
  | nil => rfl
  | cons c' cs =>
    have hpair : ¬ (c = '\x7b' ∧ c' = '\x7d') := by
      rintro ⟨rfl, rfl⟩
      exact h (List.prefix_append blank.toList cs)
    rw [fillChars.eq_def]
    simp only [if_neg hpair]

theorem fillChars_append {cs cs' : List Char}
    (h : ∀ i < cs.length, ¬ blank.toList <+: (cs ++ cs').drop i) (args : List (List Char)) :
    fillChars (cs ++ cs') args = cs ++ fillChars cs' args := by
  induction cs with
  | nil => rfl
  | cons c cs ih =>
    have hhere : ¬ blank.toList <+: c :: (cs ++ cs') := h 0 (Nat.zero_lt_succ _)
    have hrest : ∀ i < cs.length, ¬ blank.toList <+: (cs ++ cs').drop i :=
      fun i hi => h (i + 1) (Nat.succ_lt_succ hi)
    rw [List.cons_append, fillChars_cons_of_not hhere, ih hrest, List.cons_append]

/-- Text in front of the leftmost blank stays as it is. -/
theorem fill_append (h : ∀ i < before.length, ¬ BlankAt (before ++ rest) i) (args : List String) :
    fill (before ++ rest) args = before ++ fill rest args := by
  apply String.toList_inj.1
  simp only [BlankAt, String.toList_append] at h
  rw [← String.length_toList] at h
  simp only [fill, String.toList_ofList, String.toList_append]
  exact fillChars_append h _

/-- A blank gives way to the first argument, if there is one. -/
theorem fill_blank_append (rest : String) (args : List String) :
    fill (blank ++ rest) args = args.headD blank ++ fill rest args.tail := by
  apply String.toList_inj.1
  simp only [fill, String.toList_ofList, String.toList_append]
  cases args <;> rfl

theorem fill_leftmost (h : ∀ i < before.length, ¬ BlankAt (before ++ blank ++ rest) i)
    (args : List String) :
    fill (before ++ blank ++ rest) args = before ++ args.headD blank ++ fill rest args.tail := by
  rw [String.append_assoc] at h ⊢
  rw [fill_append h, fill_blank_append, String.append_assoc]

theorem fill_of_not_blankAt (h : ∀ i, ¬ BlankAt template i) (args : List String) :
    fill template args = template := by
  have hempty : ∀ i < template.length, ¬ BlankAt (template ++ "") i := by
    intro i _
    rw [String.append_empty]
    exact h i
  have happend := fill_append hempty args
  rwa [String.append_empty, show fill "" args = "" from rfl, String.append_empty] at happend

/-- The pieces behind the first one, each with the argument in front of it or, if there are too few
    arguments, the blank. -/
def withArgs (others : List String) (args : List String) : String :=
  String.join (others.zipIdx.map fun (piece, i) => args.getD i blank ++ piece)

theorem withArgs_cons (piece : String) (others args : List String) :
    withArgs (piece :: others) args = args.headD blank ++ piece ++ withArgs others args.tail := by
  have hhead : args.getD 0 blank = args.headD blank := by cases args <;> rfl
  have htail : ∀ i, args.getD (i + 1) blank = args.tail.getD i blank := by
    intro i
    cases args <;> rfl
  rw [withArgs, List.zipIdx_cons, List.map_cons, String.join_cons, List.zipIdx_succ, List.map_map,
    withArgs, ← hhead]
  congr 2
  exact List.map_congr_left fun entry _ => congrArg (· ++ entry.1) (htail entry.2)

theorem Cut.fill_eq (h : Cut template first others) (args : List String) :
    fill template args = first ++ withArgs others args := by
  induction h generalizing args with
  | whole hnone =>
    rw [fill_of_not_blankAt hnone]
    simp [withArgs]
  | leftmost hleft _ ih =>
    rw [fill_leftmost hleft, ih, withArgs_cons]
    simp only [String.append_assoc]

theorem withArgs_append {args : List String} (h : args.length = others.length)
    (surplus : List String) : withArgs others (args ++ surplus) = withArgs others args := by
  induction others generalizing args with
  | nil => rfl
  | cons piece others ih =>
    obtain ⟨arg, args, rfl⟩ := List.exists_cons_of_length_eq_add_one h
    rw [List.cons_append, withArgs_cons, withArgs_cons, List.tail_cons, List.tail_cons,
      ih (Nat.succ_injective h)]
    rfl

/-- A filled template is made of the pieces into which its blanks cut it, in one way only, and of
    the arguments between them: a blank without an argument stays, and an argument without a blank
    is left out.  An argument stands in the result as it is given, and those after it go into the
    text behind its blank alone.  A template without blanks is not changed. -/
theorem fill_between_pieces (template : String) :
    ∃ first others, Cut template first others ∧
      (∀ first' others', Cut template first' others' → first' = first ∧ others' = others) ∧
      blank.intercalate (first :: others) = template ∧
      (∀ args, fill template args =
        first ++ String.join (others.zipIdx.map fun (piece, i) => args.getD i blank ++ piece)) ∧
      (∀ args surplus, args.length = others.length →
        fill template (args ++ surplus) = fill template args) ∧
      (∀ before rest, template = before ++ blank ++ rest →
        (∀ i < before.length, ¬ BlankAt template i) →
        ∀ arg args, fill template (arg :: args) = before ++ arg ++ fill rest args) ∧
      ((∀ i, ¬ BlankAt template i) → ∀ args, fill template args = template) := by
  obtain ⟨first, others, hcut⟩ := exists_cut template
  refine ⟨first, others, hcut, fun _ _ => hcut.unique, hcut.intercalate_blank, hcut.fill_eq, ?_, ?_,
    fill_of_not_blankAt⟩
  · intro args surplus hlength
    rw [hcut.fill_eq, hcut.fill_eq, withArgs_append hlength]
  · rintro before rest rfl hleft arg args
    exact fill_leftmost hleft (arg :: args)

/-- Braces around a blank are text, and an argument that looks like a blank takes no argument. -/
theorem fill_between_pieces_nested :
    Cut "\x7b\x7b\x7d\x7d \x7b\x7d" "\x7b" ["\x7d ", ""] ∧
      fill "\x7b\x7b\x7d\x7d \x7b\x7d" ["\x7b\x7d", "b", "c"] = "\x7b\x7b\x7d\x7d b" := by
  have hempty : Cut "" "" [] := .whole fun i h => Nat.not_lt_zero i h.lt
  have hlast : Cut ("\x7d " ++ blank ++ "") "\x7d " [""] := .leftmost (by decide) hempty
  have hcut : Cut ("\x7b" ++ blank ++ ("\x7d " ++ blank ++ "")) "\x7b" ["\x7d ", ""] :=
    .leftmost (by decide) hlast
  have htext : "\x7b" ++ blank ++ ("\x7d " ++ blank ++ "") = "\x7b\x7b\x7d\x7d \x7b\x7d" := by
    decide
  rw [htext] at hcut
  obtain ⟨first, others, -, hunique, -, hfill, -⟩ :=
    fill_between_pieces "\x7b\x7b\x7d\x7d \x7b\x7d"
  obtain ⟨rfl, rfl⟩ := hunique _ _ hcut
  exact ⟨hcut, (hfill _).trans (by decide)⟩

end Endpoint.Wording
