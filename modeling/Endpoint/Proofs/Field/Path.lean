import Endpoint.Field.Path
import Endpoint.Proofs.Except
import Endpoint.Proofs.List
import Endpoint.Proofs.Number.Integer
import Endpoint.Proofs.Text.Split
import Mathlib

/-!
# Field paths as texts

`FieldPath.Spells` says which steps a text spells, without saying how they are found: its parts
between points are names, each with its indices in brackets.  Exactly the texts that spell steps are
read, and the text that is rendered for steps spells these very steps.
-/

namespace Endpoint

namespace FieldPath

/-- Indices as text: numbers of 64 bits, each in brackets. -/
inductive IndicesText : List Char → List Segment → Prop
  | nil : IndicesText [] []
  | cons {cs rest : List Char} {n : Nat} {indices : List Segment} : NaturalText cs n →
      n < 2 ^ 64 → IndicesText rest indices →
      IndicesText ('[' :: (cs ++ ']' :: rest)) (.index n :: indices)

/-- A part of a path as text: a name with its indices. -/
inductive PartText : List Char → List Segment → Prop
  | mk {name : String} {rest : List Char} {indices : List Segment} : name ≠ "" →
      '[' ∉ name.toList → IndicesText rest indices →
      PartText (name.toList ++ rest) (.name name :: indices)

/-- The steps that a text spells, part by part between its points. -/
def Spells (text : String) (segments : List Segment) : Prop :=
  ∃ parts readings, SplitsInto '.' text parts ∧
    List.Forall₂ (fun part reading => PartText part.toList reading) parts readings ∧
    segments = readings.flatten

/-- A step that can be written: a name that is not empty and holds neither a point nor an opening
    bracket, or an index of 64 bits. -/
def IsStep : Segment → Prop
  | .name s => s ≠ "" ∧ '.' ∉ s.toList ∧ '[' ∉ s.toList
  | .index n => n < 2 ^ 64

/-- Steps that can be written, the first of them a name. -/
def IsPath (segments : List Segment) : Prop :=
  (∃ name rest, segments = .name name :: rest) ∧ ∀ segment ∈ segments, IsStep segment

variable {cs part : List Char} {n : Nat} {segments indices : List Segment}

/-! ## Reading -/

theorem not_mem_of_naturalText {c : Char} (hc : c.isDigit = false) (hplus : c ≠ '+')
    (h : NaturalText cs n) : c ∉ cs := by
  have hdigits {ds : List Char} (hds : DigitsFor ds n) : c ∉ ds := fun hmem => by
    rw [hds.digits c hmem] at hc
    cases hc
  cases h with
  | bare h => exact hdigits h
  | plus h =>
    rw [List.mem_cons, not_or]
    exact ⟨hplus, hdigits h⟩

theorem readIndex?_eq_some_iff : readIndex? cs = some n ↔ NaturalText cs n ∧ n < 2 ^ 64 := by
  rw [readIndex?, Option.filter_eq_some_iff, unsignedDigits?_eq_some_iff, decide_eq_true_eq,
    Nat.one_shiftLeft]

/-- A text that holds a character is divided at the first place of it. -/
theorem takeWhile_append_dropWhile_cons {c : Char} (h : c ∈ cs) :
    cs = cs.takeWhile (· != c) ++ c :: (cs.dropWhile (· != c)).drop 1 := by
  induction cs with
  | nil => cases h
  | cons d rest ih =>
    by_cases hd : d = c
    · subst hd
      simp
    · have hrest : c ∈ rest := (List.mem_cons.1 h).resolve_left (Ne.symm hd)
      simpa [hd] using ih hrest

theorem takeWhile_append_cons {c : Char} {rest : List Char} (h : c ∉ cs) :
    (cs ++ c :: rest).takeWhile (· != c) = cs := by
  rw [List.takeWhile_append_of_pos]
  · simp
  · intro d hd
    rw [bne_iff_ne]
    rintro rfl
    exact h hd

theorem dropWhile_append_cons {c : Char} {rest : List Char} (h : c ∉ cs) :
    (cs ++ c :: rest).dropWhile (· != c) = c :: rest := by
  rw [List.dropWhile_append_of_pos]
  · simp
  · intro d hd
    rw [bne_iff_ne]
    rintro rfl
    exact h hd

/-- The indices after a name are read one by one, each up to its closing bracket. -/
theorem readIndices_eq_ok_iff : readIndices cs = .ok indices ↔ IndicesText cs indices := by
  constructor
  · intro h
    fun_induction readIndices cs generalizing indices with
    | case1 =>
      obtain rfl := Except.ok.inj h
      exact .nil
    | case2 rest hclosed hnone => cases h
    | case3 rest hclosed n hn ih =>
      obtain ⟨later, hlater, rfl⟩ := Except.map_eq_ok_iff.1 h
      obtain ⟨htext, hbound⟩ := readIndex?_eq_some_iff.1 hn
      rw [takeWhile_append_dropWhile_cons (List.contains_iff_mem.1 hclosed)]
      exact .cons htext hbound (ih hlater)
    | case4 rest hopen => cases h
    | case5 c rest hc => cases h
  · intro h
    induction h with
    | nil => rw [readIndices]
    | @cons cs rest n indices htext hbound hrest ih =>
      have hclose : ']' ∉ cs := not_mem_of_naturalText (by decide) (by decide) htext
      rw [readIndices, if_pos rfl, if_pos (by simp), takeWhile_append_cons hclose,
        dropWhile_append_cons hclose, readIndex?_eq_some_iff.2 ⟨htext, hbound⟩]
      simp [ih, Except.map]

/-- A name without a bracket is divided from its indices at the first one. -/
theorem IndicesText.divides {rest : List Char} (h : IndicesText rest indices) (hopen : '[' ∉ cs) :
    (cs ++ rest).takeWhile (· != '[') = cs ∧ (cs ++ rest).dropWhile (· != '[') = rest := by
  cases h with
  | nil =>
    have hall : ∀ c ∈ cs, (c != '[') = true := by
      intro c hc
      rw [bne_iff_ne]
      rintro rfl
      exact hopen hc
    rw [List.append_nil, List.takeWhile_eq_self_iff, List.dropWhile_eq_nil_iff]
    exact ⟨hall, hall⟩
  | cons => exact ⟨takeWhile_append_cons hopen, dropWhile_append_cons hopen⟩

/-- A part is read as its name, up to the first bracket, and the indices after it. -/
theorem readPart_eq_ok_iff : readPart part = .ok segments ↔ PartText part segments := by
  rw [readPart]
  constructor
  · intro h
    split at h
    · cases h
    · rename_i hname
      obtain ⟨indices, hindices, rfl⟩ := Except.map_eq_ok_iff.1 h
      have hopen : '[' ∉ (String.ofList (part.takeWhile (· != '['))).toList := by
        rw [String.toList_ofList]
        intro hmem
        simpa using List.mem_takeWhile_imp hmem
      have hparttext := PartText.mk (by simpa using hname) hopen
        (readIndices_eq_ok_iff.1 hindices)
      rwa [String.toList_ofList, List.takeWhile_append_dropWhile] at hparttext
  · intro h
    cases h with
    | mk hname hopen hindices =>
      obtain ⟨htake, hdrop⟩ := hindices.divides hopen
      rw [htake, hdrop, if_neg (by simpa using hname), readIndices_eq_ok_iff.2 hindices,
        String.ofList_toList]
      rfl

theorem readParts_eq_ok_iff {parts : List (List Char)} :
    readParts parts = .ok segments ↔
      ∃ readings, List.Forall₂ PartText parts readings ∧ segments = readings.flatten := by
  induction parts generalizing segments with
  | nil => simp [readParts, eq_comm]
  | cons part rest ih =>
    simp only [readParts, Except.bind_eq_ok_iff, Except.pure_eq_ok_iff, readPart_eq_ok_iff, ih,
      List.forall₂_cons_left_iff]
    constructor
    · rintro ⟨here, hhere, _, ⟨readings, hreadings, rfl⟩, rfl⟩
      exact ⟨here :: readings, ⟨here, readings, hhere, hreadings, rfl⟩, rfl⟩
    · rintro ⟨_, ⟨here, readings, hhere, hreadings, rfl⟩, rfl⟩
      exact ⟨here, hhere, _, ⟨readings, hreadings, rfl⟩, rfl⟩

/-- Parts are read if each of them is. -/
theorem exists_readParts_iff {parts : List (List Char)} :
    (∃ segments, readParts parts = .ok segments) ↔
      ∀ part ∈ parts, ∃ reading, PartText part reading := by
  simp only [readParts_eq_ok_iff]
  rw [← exists_forall₂_iff]
  constructor
  · rintro ⟨_, readings, hreadings, -⟩
    exact ⟨readings, hreadings⟩
  · rintro ⟨readings, hreadings⟩
    exact ⟨_, readings, hreadings, rfl⟩

theorem spells_iff_readParts {text : String} :
    Spells text segments ↔ readParts (splitAt '.' text.toList) = .ok segments := by
  rw [readParts_eq_ok_iff, ← Rule.map_toList_pieces]
  simp only [List.forall₂_map_left_iff]
  constructor
  · rintro ⟨parts, readings, hsplits, hparts, rfl⟩
    exact ⟨readings, Rule.pieces_eq_iff.2 hsplits ▸ hparts, rfl⟩
  · rintro ⟨readings, hparts, rfl⟩
    exact ⟨_, readings, Rule.pieces_splitsInto '.' text, hparts, rfl⟩

/-- No text without characters spells steps. -/
theorem Spells.ne_empty {text : String} (h : Spells text segments) : text ≠ "" := by
  rintro rfl
  rw [spells_iff_readParts] at h
  cases h

/-- A text spells steps if each of its parts does. -/
theorem exists_spells_iff {text : String} :
    (∃ segments, Spells text segments) ↔
      ∃ parts, SplitsInto '.' text parts ∧
        ∀ part ∈ parts, ∃ reading, PartText part.toList reading := by
  simp only [spells_iff_readParts]
  rw [exists_readParts_iff, ← Rule.map_toList_pieces, List.forall_mem_map]
  constructor
  · intro h
    exact ⟨_, Rule.pieces_splitsInto '.' text, h⟩
  · rintro ⟨parts, hsplits, h⟩
    exact Rule.pieces_eq_iff.2 hsplits ▸ h

/-- Exactly the texts that spell steps are read, as these steps. -/
theorem parse_eq_ok_iff {text : String} {path : FieldPath} :
    parse text = .ok path ↔ path.text = text ∧ Spells text path.segments := by
  rw [parse, spells_iff_readParts]
  by_cases hempty : text = ""
  · subst hempty
    constructor
    · intro h
      cases h
    · rintro ⟨-, h⟩
      cases h
  · rw [if_neg (by simpa using hempty), Except.map_eq_ok_iff]
    constructor
    · rintro ⟨segments, h, rfl⟩
      exact ⟨rfl, h⟩
    · rintro ⟨rfl, h⟩
      exact ⟨path.segments, h, rfl⟩

/-! ## Rendering -/

/-- What is read before a text without points belongs to its first part. -/
theorem splitAt_append {sep : Char} {rest : List Char} {parts : List (List Char)}
    (hfree : sep ∉ cs) (h : splitAt sep rest = part :: parts) :
    splitAt sep (cs ++ rest) = (cs ++ part) :: parts := by
  induction cs with
  | nil => exact h
  | cons c cs ih =>
    obtain ⟨hc, hfree⟩ := not_or.1 (List.mem_cons.not.1 hfree)
    rw [List.cons_append, splitAt, if_neg (Ne.symm hc), ih hfree]
    rfl

/-- The text of some steps is the indices that come first, and then parts. -/
theorem splitAt_renderRest (h : ∀ segment ∈ segments, IsStep segment) :
    ∃ first parts indices readings, splitAt '.' (renderRest segments) = first :: parts ∧
      IndicesText first indices ∧ List.Forall₂ PartText parts readings ∧
      indices ++ readings.flatten = segments := by
  induction segments with
  | nil => exact ⟨[], [], [], [], rfl, .nil, .nil, rfl⟩
  | cons segment rest ih =>
    obtain ⟨hsegment, hrest⟩ := List.forall_mem_cons.1 h
    obtain ⟨first, parts, indices, readings, hsplit, hfirst, hparts, rfl⟩ := ih hrest
    cases segment with
    | name s =>
      obtain ⟨hne, hpoint, hopen⟩ := hsegment
      refine ⟨[], (s.toList ++ first) :: parts, [], (.name s :: indices) :: readings, ?_, .nil,
        .cons (.mk hne hopen hfirst) hparts, rfl⟩
      rw [renderRest, splitAt, if_pos rfl, splitAt_append hpoint hsplit]
    | index n =>
      have hdigits : NaturalText (Nat.toDigits 10 n) n := .bare (digitsFor_toDigits n)
      have hpoint : '.' ∉ '[' :: (Nat.toDigits 10 n ++ [']']) := by
        simpa using not_mem_of_naturalText (by decide) (by decide) hdigits
      refine ⟨'[' :: (Nat.toDigits 10 n ++ ']' :: first), parts, .index n :: indices, readings, ?_,
        .cons hdigits hsegment hfirst, hparts, rfl⟩
      have hrender : renderRest (.index n :: (indices ++ readings.flatten)) =
          '[' :: (Nat.toDigits 10 n ++ [']']) ++ renderRest (indices ++ readings.flatten) := by
        simp [renderRest]
      rw [hrender, splitAt_append hpoint hsplit]
      simp

/-- The text that is rendered for steps spells these steps. -/
theorem IsPath.spells_render (h : IsPath segments) :
    Spells (String.ofList (render segments)) segments := by
  obtain ⟨⟨name, rest, rfl⟩, hsteps⟩ := h
  obtain ⟨⟨hne, hpoint, hopen⟩, hrest⟩ := List.forall_mem_cons.1 hsteps
  obtain ⟨first, parts, indices, readings, hsplit, hfirst, hparts, rfl⟩ := splitAt_renderRest hrest
  rw [spells_iff_readParts, String.toList_ofList, render, splitAt_append hpoint hsplit,
    readParts_eq_ok_iff]
  exact ⟨(.name name :: indices) :: readings, .cons (.mk hne hopen hfirst) hparts, rfl⟩

theorem IndicesText.isStep (h : IndicesText cs indices) : ∀ segment ∈ indices, IsStep segment := by
  induction h with
  | nil => exact List.forall_mem_nil _
  | cons _ hbound _ ih => exact List.forall_mem_cons.2 ⟨hbound, ih⟩

theorem PartText.exists_name (h : PartText part segments) :
    ∃ name rest, segments = .name name :: rest := by
  cases h
  exact ⟨_, _, rfl⟩

theorem PartText.isStep (h : PartText part segments) (hpoint : '.' ∉ part) :
    ∀ segment ∈ segments, IsStep segment := by
  cases h with
  | mk hne hopen hindices =>
    rw [List.mem_append, not_or] at hpoint
    exact List.forall_mem_cons.2 ⟨⟨hne, hpoint.1, hopen⟩, hindices.isStep⟩

/-- The steps that a text spells can be written. -/
theorem Spells.isPath {text : String} (h : Spells text segments) : IsPath segments := by
  obtain ⟨parts, readings, hsplits, hparts, rfl⟩ := h
  have hsteps {parts : List String} {readings : List (List Segment)}
      (hfree : ∀ part ∈ parts, '.' ∉ part.toList)
      (hparts : List.Forall₂ (fun part reading => PartText part.toList reading) parts readings) :
      ∀ segment ∈ readings.flatten, IsStep segment := by
    induction hparts with
    | nil => exact List.forall_mem_nil _
    | cons hpart _ ih =>
      obtain ⟨hfirst, hrest⟩ := List.forall_mem_cons.1 hfree
      rw [List.flatten_cons, List.forall_mem_append]
      exact ⟨hpart.isStep hfirst, ih hrest⟩
  refine ⟨?_, hsteps hsplits.free hparts⟩
  cases hparts with
  | nil => exact absurd rfl hsplits.nonempty
  | cons hpart _ =>
    obtain ⟨name, rest, rfl⟩ := hpart.exists_name
    exact ⟨name, _, rfl⟩

/-- A text is a path if it is not empty and each of its parts between points is a name with indices
    in brackets; it is then read as these, part by part.  Reading inverts rendering. -/
theorem parse_inverts_render :
    (∀ text, (∃ path, parse text = .ok path) ↔
      text ≠ "" ∧ ∃ parts, SplitsInto '.' text parts ∧
        ∀ part ∈ parts, ∃ reading, PartText part.toList reading) ∧
    (∀ text path, parse text = .ok path →
      path.text = text ∧
      (∃ parts readings, SplitsInto '.' text parts ∧
        List.Forall₂ (fun part reading => PartText part.toList reading) parts readings ∧
        path.segments = readings.flatten) ∧
      ∃ name rest, path.segments = .name name :: rest) ∧
    (∀ segments, IsPath segments →
      parse (String.ofList (render segments)) = .ok ⟨String.ofList (render segments), segments⟩) ∧
    (∀ text path, parse text = .ok path →
      parse (String.ofList (render path.segments)) =
        .ok ⟨String.ofList (render path.segments), path.segments⟩) := by
  have hrender (segments : List Segment) (h : IsPath segments) :
      parse (String.ofList (render segments)) =
        .ok ⟨String.ofList (render segments), segments⟩ :=
    parse_eq_ok_iff.2 ⟨rfl, h.spells_render⟩
  refine ⟨fun text => ?_, fun text path hparse => ?_, hrender, fun text path hparse => ?_⟩
  · rw [← exists_spells_iff]
    constructor
    · rintro ⟨path, hparse⟩
      obtain ⟨-, hspells⟩ := parse_eq_ok_iff.1 hparse
      exact ⟨hspells.ne_empty, _, hspells⟩
    · rintro ⟨-, segments, hspells⟩
      exact ⟨⟨text, segments⟩, parse_eq_ok_iff.2 ⟨rfl, hspells⟩⟩
  · obtain ⟨htext, hspells⟩ := parse_eq_ok_iff.1 hparse
    exact ⟨htext, hspells, hspells.isPath.1⟩
  · exact hrender _ (parse_eq_ok_iff.1 hparse).2.isPath

/-- An index may have a plus sign and zeros in front, and a name may hold a closing bracket; the
    text that is rendered has neither sign nor zeros and is read as the same steps. -/
theorem parse_inverts_render_grid :
    parse "grid[1][+03].größe]" =
        .ok ⟨"grid[1][+03].größe]", [.name "grid", .index 1, .index 3, .name "größe]"]⟩ ∧
      IsPath [.name "grid", .index 1, .index 3, .name "größe]"] ∧
      parse "grid[1][3].größe]" =
        .ok ⟨"grid[1][3].größe]", [.name "grid", .index 1, .index 3, .name "größe]"]⟩ := by
  have hparse : parse "grid[1][+03].größe]" =
      .ok ⟨"grid[1][+03].größe]", [.name "grid", .index 1, .index 3, .name "größe]"]⟩ := by
    decide +kernel
  have hpath : IsPath [.name "grid", .index 1, .index 3, .name "größe]"] := by
    refine ⟨⟨_, _, rfl⟩, ?_⟩
    simp [IsStep]
  have hrender : String.ofList (render [.name "grid", .index 1, .index 3, .name "größe]"]) =
      "grid[1][3].größe]" := by decide
  exact ⟨hparse, hpath, hrender ▸ parse_inverts_render.2.2.1 _ hpath⟩

/-- An index has at most 64 bits. -/
example : parse "a[18446744073709551616]" = .error .badIndex := by decide +kernel

end FieldPath

end Endpoint
