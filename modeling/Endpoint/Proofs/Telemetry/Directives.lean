import Endpoint.Proofs.Except
import Endpoint.Proofs.Json.Entries
import Endpoint.Proofs.Text.Split
import Endpoint.Telemetry.LogSettings
import Mathlib

/-!
# What the text of a filter says

The text of a filter holds the global level and the level of each component, joined by commas.
Levels hold neither commas nor equals signs, so the text can be taken apart again, unless the name
of a component holds a comma: names are not checked, and such a name falls into several parts.
-/

namespace Endpoint

/-- A text is what stands before and after the last occurrence of a separator. -/
structure SplitsAtLast (sep : Char) (text before after : String) : Prop where
  free : sep ∉ after.toList
  joined : before ++ String.singleton sep ++ after = text

theorem SplitsAtLast.eq {sep : Char} {text before after before' after' : String}
    (h : SplitsAtLast sep text before after) (h' : SplitsAtLast sep text before' after') :
    before = before' ∧ after = after' := by
  have hlast : ∀ {before after : String}, SplitsAtLast sep text before after →
      text.toList.reverse.takeWhile (· ≠ sep) = after.toList.reverse ∧
        text.toList.reverse.dropWhile (· ≠ sep) = sep :: before.toList.reverse := by
    rintro before after ⟨hfree, rfl⟩
    have hafter : ∀ c ∈ after.toList.reverse, decide (c ≠ sep) = true := by
      intro c hc
      rw [List.mem_reverse] at hc
      exact decide_eq_true fun heq => hfree (heq ▸ hc)
    rw [String.toList_append, String.toList_append, String.toList_singleton, List.reverse_append,
      List.reverse_append, List.reverse_singleton, List.takeWhile_append_of_pos hafter,
      List.dropWhile_append_of_pos hafter]
    simp
  obtain ⟨htake, hdrop⟩ := hlast h
  obtain ⟨htake', hdrop'⟩ := hlast h'
  rw [htake, List.reverse_inj] at htake'
  rw [hdrop, List.cons_inj_right, List.reverse_inj] at hdrop'
  exact ⟨String.toList_inj.1 hdrop', String.toList_inj.1 htake'⟩

namespace LevelFilter

/-- A filter is found by its name. -/
theorem find?_name (f : LevelFilter) : all.find? (fun g => g.name == f.name) = some f := by
  rcases f with _ | level
  · rfl
  · cases level <;> rfl

theorem name_injective : Function.Injective name := by
  intro f g h
  have hfound := find?_name f
  rw [h, find?_name g] at hfound
  exact (Option.some.inj hfound).symm

/-- Names of filters hold no character that separates directives or their parts. -/
theorem notMem_name (f : LevelFilter) : ',' ∉ f.name.toList ∧ '=' ∉ f.name.toList := by
  rcases f with _ | level
  · decide
  · cases level <;> decide

end LevelFilter

namespace LogSettings

/-- The directive of a component and its filter. -/
def directive (component : String × LevelFilter) : String :=
  component.1 ++ "=" ++ component.2.name

/-- A component under its name, with the filter that its level denotes. -/
def Resolves (given : String × String) (component : String × LevelFilter) : Prop :=
  component.1 = given.1 ∧ LevelFilter.ofText? (trimText given.2) = some component.2

/-- The levels of settings denote filters, the global one and those of the components. -/
structure Denote (s : LogSettings) (general : LevelFilter) (components : Entries LevelFilter) :
    Prop where
  general : LevelFilter.ofText? (trimText s.level) = some general
  components : List.Forall₂ Resolves s.componentLevels components

/-- No component has a comma in its name. -/
def CommaFree (s : LogSettings) : Prop := ∀ name ∈ s.componentLevels.keys, ',' ∉ name.toList

variable {s s' : LogSettings} {general general' : LevelFilter}
  {components components' : Entries LevelFilter} {given : Entries String} {parts : List String}
  {text : String}

/-! ## From levels to the text -/

theorem readLevel_eq_ok_iff {component level : String} {f : LevelFilter} :
    readLevel component level = .ok f ↔ LevelFilter.ofText? (trimText level) = some f := by
  unfold readLevel
  split
  · rename_i h
    rw [h, Except.ok.injEq, Option.some.injEq]
  · rename_i h
    simp [h]

theorem componentDirectives_eq_ok_iff :
    componentDirectives given = .ok parts ↔
      ∃ components, List.Forall₂ Resolves given components ∧
        parts = components.map directive := by
  induction given generalizing parts with
  | nil => simp [componentDirectives, eq_comm]
  | cons entry rest ih =>
    obtain ⟨name, level⟩ := entry
    simp only [componentDirectives, Except.bind_eq_ok_iff, Except.pure_eq_ok_iff,
      readLevel_eq_ok_iff, ih, List.forall₂_cons_left_iff]
    constructor
    · rintro ⟨f, hf, _, ⟨components, hrest, rfl⟩, rfl⟩
      exact ⟨(name, f) :: components, ⟨_, _, ⟨rfl, hf⟩, hrest, rfl⟩, rfl⟩
    · rintro ⟨_, ⟨⟨name', f⟩, components, ⟨hname, hf⟩, hrest, rfl⟩, rfl⟩
      obtain rfl : name' = name := hname
      exact ⟨f, hf, _, ⟨components, hrest, rfl⟩, rfl⟩

/-- The text of the filter joins the directives of what the levels denote. -/
theorem directives_eq_ok_iff :
    s.directives = .ok text ↔ ∃ general components, s.Denote general components ∧
      text = ",".intercalate (general.name :: components.map directive) := by
  simp only [directives, directiveList, Except.map_eq_ok_iff, Except.bind_eq_ok_iff,
    Except.pure_eq_ok_iff, readLevel_eq_ok_iff, componentDirectives_eq_ok_iff]
  constructor
  · rintro ⟨_, ⟨general, hgeneral, _, ⟨components, hcomponents, rfl⟩, rfl⟩, rfl⟩
    exact ⟨general, components, ⟨hgeneral, hcomponents⟩, rfl⟩
  · rintro ⟨general, components, ⟨hgeneral, hcomponents⟩, rfl⟩
    exact ⟨_, ⟨general, hgeneral, _, ⟨components, hcomponents, rfl⟩, rfl⟩, rfl⟩

theorem exists_denote_of_validate (h : s.validate = .ok ()) :
    ∃ general components, s.Denote general components := by
  obtain ⟨text, htext, -⟩ := Except.map_eq_ok_iff.1 h
  obtain ⟨general, components, hdenote, -⟩ := directives_eq_ok_iff.1 htext
  exact ⟨general, components, hdenote⟩

theorem Denote.directives (h : s.Denote general components) :
    s.directives = .ok (",".intercalate (general.name :: components.map directive)) :=
  directives_eq_ok_iff.2 ⟨general, components, h, rfl⟩

theorem Denote.keys (h : s.Denote general components) :
    components.keys = s.componentLevels.keys := by
  have hkeys : ∀ {given : Entries String} {components : Entries LevelFilter},
      List.Forall₂ Resolves given components → components.keys = given.keys := by
    intro given components hall
    induction hall with
    | nil => rfl
    | cons hhead _ ih => exact congrArg₂ List.cons hhead.1 ih
  exact hkeys h.components

theorem Denote.sorted (h : s.Denote general components) (hsorted : s.componentLevels.Sorted) :
    components.Sorted := by
  have hgiven : s.componentLevels.keys.Pairwise (· < ·) := List.pairwise_map.2 hsorted
  rw [← h.keys] at hgiven
  exact List.pairwise_map.1 hgiven

/-! ## From the text to levels -/

theorem comma_notMem_directive {component : String × LevelFilter} :
    ',' ∉ (directive component).toList ↔ ',' ∉ component.1.toList := by
  have hname := component.2.notMem_name.1
  simp [directive, hname]

theorem splitsAtLast_directive (component : String × LevelFilter) :
    SplitsAtLast '=' (directive component) component.1 component.2.name :=
  ⟨component.2.notMem_name.2, rfl⟩

theorem directive_injective : Function.Injective directive := by
  intro component other h
  obtain ⟨hname, hfilter⟩ :=
    (splitsAtLast_directive component).eq (h ▸ splitsAtLast_directive other)
  exact Prod.ext hname (LevelFilter.name_injective hfilter)

theorem Denote.commaFree_iff (h : s.Denote general components) :
    s.CommaFree ↔ ∀ component ∈ components, ',' ∉ component.1.toList := by
  rw [CommaFree, ← h.keys]
  exact List.forall_mem_map

/-- The parts between the commas are the directives if no name of a component holds a comma. -/
theorem Denote.pieces_eq_iff (h : s.Denote general components) :
    Rule.pieces ',' (",".intercalate (general.name :: components.map directive)) =
      general.name :: components.map directive ↔ s.CommaFree := by
  rw [Rule.pieces_eq_iff, h.commaFree_iff]
  constructor
  · intro hsplit component hcomponent
    exact comma_notMem_directive.1 (hsplit.free _
      (List.mem_cons_of_mem _ (List.mem_map_of_mem hcomponent)))
  · intro hfree
    refine ⟨List.cons_ne_nil _ _, ?_, rfl⟩
    rw [List.forall_mem_cons, List.forall_mem_map]
    exact ⟨general.notMem_name.1, fun component hcomponent =>
      comma_notMem_directive.2 (hfree component hcomponent)⟩

/-- Settings without commas in names denote the same if they give the same text. -/
theorem Denote.eq_of_directives (h : s.Denote general components)
    (h' : s'.Denote general' components') (hfree : s.CommaFree) (hfree' : s'.CommaFree)
    (heq : s'.directives = s.directives) : general' = general ∧ components' = components := by
  rw [h.directives, h'.directives, Except.ok.injEq] at heq
  have hparts := h'.pieces_eq_iff.2 hfree'
  rw [heq, h.pieces_eq_iff.2 hfree] at hparts
  obtain ⟨hgeneral, hcomponents⟩ := List.cons_eq_cons.1 hparts
  exact ⟨(LevelFilter.name_injective hgeneral).symm,
    (List.map_injective_iff.2 directive_injective hcomponents).symm⟩

/-- The levels of settings that pass their check denote filters, and the text of the filter is made
    of their names.  Its parts between commas are the name of the global filter and one directive
    for each component, in order, exactly if no component has a comma in its name; a directive
    splits at its last equals sign into the name and the filter of the component.  So settings
    without such names denote the same if they give the same text. -/
theorem directives_split_iff (h : s.validate = .ok ()) :
    ∃ text general components, s.directives = .ok text ∧ s.Denote general components ∧
      (s.componentLevels.Sorted → components.Sorted) ∧
      (Rule.pieces ',' text = general.name :: components.map directive ↔ s.CommaFree) ∧
      (∀ component ∈ components, ∀ before after,
        SplitsAtLast '=' (directive component) before after ↔
          before = component.1 ∧ after = component.2.name) ∧
      (s.CommaFree → ∀ (s' : LogSettings) (general' : LevelFilter)
        (components' : Entries LevelFilter), s'.CommaFree → s'.Denote general' components' →
        s'.directives = .ok text → general' = general ∧ components' = components) := by
  obtain ⟨general, components, hdenote⟩ := exists_denote_of_validate h
  refine ⟨_, general, components, hdenote.directives, hdenote, hdenote.sorted,
    hdenote.pieces_eq_iff, fun component _ before after => ⟨?_, ?_⟩, ?_⟩
  · exact fun hsplit => hsplit.eq (splitsAtLast_directive component)
  · rintro ⟨rfl, rfl⟩
    exact splitsAtLast_directive component
  · intro hfree s' general' components' hfree' hdenote' htext
    exact hdenote.eq_of_directives hdenote' hfree hfree' (htext.trans hdenote.directives.symm)

/-- Production settings with levels of their own for components. -/
def withComponents (levels : Entries String) : LogSettings :=
  { production with componentLevels := levels }

/-- A component with an equals sign in its name, and levels in other forms. -/
def equalsSign : LogSettings := withComponents [("a=b", " DEBUG"), ("db", "1")]

theorem directives_split_iff_equalsSign :
    equalsSign.validate = .ok () ∧ equalsSign.CommaFree ∧ ∃ general components,
      equalsSign.directives = .ok "info,a=b=debug,db=error" ∧
      equalsSign.Denote general components ∧
      Rule.pieces ',' "info,a=b=debug,db=error" = general.name :: components.map directive := by
  have hvalid : equalsSign.validate = .ok () := by rfl
  have htext : equalsSign.directives = .ok "info,a=b=debug,db=error" := by rfl
  have hfree : equalsSign.CommaFree := by
    unfold CommaFree
    decide
  obtain ⟨text, general, components, htext', hdenote, -, hsplit, -, -⟩ :=
    directives_split_iff hvalid
  obtain rfl : "info,a=b=debug,db=error" = text := Except.ok.inj (htext.symm.trans htext')
  exact ⟨hvalid, hfree, general, components, htext, hdenote, hsplit.2 hfree⟩

/-- A component with a comma in its name passes the check and falls into two parts, and settings
    for other components give the same text. -/
theorem accepts_comma :
    let s := withComponents [("a,b", "debug")]
    let t := withComponents [("a", "info"), ("b", "debug")]
    let u := withComponents [("a=info,b", "debug")]
    s.validate = .ok () ∧ s.directives = .ok "info,a,b=debug" ∧
      Rule.pieces ',' "info,a,b=debug" = ["info", "a", "b=debug"] ∧
      t.validate = .ok () ∧ u.validate = .ok () ∧ t.directives = u.directives ∧
      t.componentLevels.keys ≠ u.componentLevels.keys := by
  refine ⟨by rfl, by rfl, by decide, by rfl, by rfl, by rfl, by decide⟩

end LogSettings

end Endpoint
