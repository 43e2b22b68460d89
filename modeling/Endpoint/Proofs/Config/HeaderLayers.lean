import Endpoint.Proofs.Config.Assembly
import Endpoint.Proofs.Config.Layer
import Endpoint.Proofs.Config.Variable
import Mathlib

/-!
# Default headers from several layers

The layers of a configuration know the spellings of a header name as names of their own.  A later
layer replaces what an earlier one gives to the same spelling; what the earlier one gives to another
spelling stays beside it.  Only when a response is written do they meet, in the order of the
spellings, so that the spelling that comes last decides, from whichever layer it is.
-/

namespace Endpoint

/-! ## What layers give to a spelling -/

/-- A layer of a configuration. -/
inductive Layer where
  | preset
  | document (j : Json)
  | environment (stem : String) (vars : List (String × String))

/-- The parts of a name that stands for a header end in the name of the header. -/
theorem Setting.exists_headerName {parts : List String} {name : String}
    (h : ofParts? parts = some (.defaultHeader name)) :
    ∃ part, name = ofParts?.headerName part := by
  unfold ofParts? at h
  split at h <;> cases h
  exact ⟨_, rfl⟩

namespace Layer

/-- What a spelling has once a layer has been laid over what it had. -/
def lay (spelling : String) (below : Option String) : Layer → Option String
  | preset => none
  | document j =>
    match j.locate (Leaf.defaultHeader spelling).form.place with
    | some v => Decoder.string (.ofJson v)
    | none => if j.ObjectsTo (Leaf.defaultHeader spelling).path then below else none
  | environment stem vars =>
    let naming := vars.reverse.find? fun a =>
      Variable.setting? stem a.1 = some (.defaultHeader spelling)
    naming.map Prod.snd <|> below

/-- What a spelling has once layers have been laid over what it had, one after another. -/
def layAll (spelling : String) (below : Option String) (layers : List Layer) : Option String :=
  layers.foldl (fun below layer => layer.lay spelling below) below

/-- What layers give to a spelling. -/
def given (layers : List Layer) (spelling : String) : Option String := layAll spelling none layers

variable {spelling value name : String} {below : Option String} {layer : Layer}
  {before after layers : List Layer}

/-- A layer that gives a value to a spelling replaces what is below. -/
theorem lay_of_sets (h : layer.lay spelling none = some value) (below : Option String) :
    layer.lay spelling below = some value := by
  cases layer with
  | preset => cases h
  | document j =>
    rw [lay] at h ⊢
    split at h
    · exact h
    · split at h <;> cases h
  | environment stem vars =>
    simp only [lay] at h ⊢
    revert h
    cases vars.reverse.find? _ with
    | none => exact fun h => absurd h (by simp)
    | some a => exact id

/-- A layer that gives no value to a spelling keeps what is below or drops it. -/
theorem lay_of_unset (h : layer.lay spelling none = none) (below : Option String) :
    layer.lay spelling below = below ∨ layer.lay spelling below = none := by
  cases layer with
  | preset => exact .inr rfl
  | document j =>
    rw [lay] at h ⊢
    split at h
    · exact .inr h
    · split
      · exact .inl rfl
      · exact .inr rfl
  | environment stem vars =>
    simp only [lay] at h ⊢
    revert h
    cases vars.reverse.find? _ with
    | none => exact fun _ => .inl rfl
    | some a => exact fun h => absurd h (by simp)

/-- Variables name headers in lower case. -/
theorem asciiLower_of_environment {stem : String} {vars : List (String × String)}
    (h : (environment stem vars).lay spelling none ≠ none) : asciiLower spelling = spelling := by
  have hchar (c : Char) : (if c = '_' then '-' else c.toLower).toLower =
      if c = '_' then '-' else c.toLower := by
    split
    · decide
    · exact Char.toLower_toLower_eq_toLower c
  rw [lay] at h
  cases hfound : vars.reverse.find? fun a =>
      Variable.setting? stem a.1 = some (.defaultHeader spelling) with
  | none =>
    rw [hfound] at h
    exact absurd rfl h
  | some a =>
    have hnames := List.find?_some hfound
    obtain ⟨parts, -, hparts⟩ := Option.bind_eq_some_iff.1 (of_decide_eq_true hnames)
    obtain ⟨part, rfl⟩ := Setting.exists_headerName hparts
    simp [asciiLower, Setting.ofParts?.headerName, Function.comp_def, hchar]

/-- A layer gives a value to a name, under one spelling only. -/
structure SetsOnce (layer : Layer) (name spelling value : String) : Prop where
  spells : asciiLower spelling = name
  sets : layer.lay spelling none = some value
  once : ∀ other, asciiLower other = name → layer.lay other none ≠ none → other = spelling

theorem setsOnce_environment {stem : String} {vars : List (String × String)}
    (h : (environment stem vars).lay name none = some value) :
    (environment stem vars).SetsOnce name name value := by
  have hlower : asciiLower name = name :=
    asciiLower_of_environment (Option.isSome_iff_ne_none.1 (Option.isSome_of_eq_some h))
  refine ⟨hlower, h, fun other hother hne => ?_⟩
  exact (asciiLower_of_environment hne).symm.trans hother

/-- A layer has nothing to do with a name. -/
def Leaves (layer : Layer) (name : String) : Prop :=
  ∀ other, asciiLower other = name → ∀ below, layer.lay other below = below

theorem layAll_of_leaves (hspells : asciiLower spelling = name)
    (h : ∀ layer ∈ layers, layer.Leaves name) (below : Option String) :
    layAll spelling below layers = below := by
  induction layers generalizing below with
  | nil => rfl
  | cons layer rest ih =>
    obtain ⟨hlayer, hrest⟩ := List.forall_mem_cons.1 h
    rw [layAll, List.foldl_cons, hlayer spelling hspells]
    exact ih hrest below

/-- After the last layer that has to do with a name. -/
theorem given_of_leaves (hspells : asciiLower spelling = name)
    (hafter : ∀ later ∈ after, later.Leaves name) :
    given (before ++ layer :: after) spelling = layer.lay spelling (given before spelling) := by
  rw [given, layAll, List.foldl_append, List.foldl_cons]
  exact layAll_of_leaves hspells hafter _

/-- The last layer that sets a name decides if no earlier layer uses a spelling that comes after
    its own. -/
theorem SetsOnce.lastSpelling (h : layer.SetsOnce name spelling value)
    (hafter : ∀ later ∈ after, later.Leaves name)
    (hbefore : spelling = name ∨
      ∀ other, asciiLower other = name → given before other ≠ none → other ≤ spelling) :
    LastSpelling (given (before ++ layer :: after)) name spelling value := by
  refine ⟨h.spells, ?_, fun other hother hne => ?_⟩
  · rw [given_of_leaves h.spells hafter]
    exact lay_of_sets h.sets _
  · rcases hbefore with hlower | hbefore
    · rw [hlower, ← hother]
      exact le_asciiLower other
    · rw [given_of_leaves hother hafter] at hne
      by_cases hset : layer.lay other none = none
      · rcases lay_of_unset hset (given before other) with hkept | hdropped
        · exact hbefore other hother (hkept ▸ hne)
        · exact absurd hdropped hne
      · exact h.once other hother hset ▸ String.le_refl other

end Layer

/-! ## The layers of a loader -/

/-- The layer that a step of loading lays, if it lays one. -/
def LoadStep.layer? (around : Surroundings) : LoadStep → Option Layer
  | restart _ => some .preset
  | step => (step.document? around).map .document

/-- The layers of a loader that steps have led to: those of the steps, and the variables of the
    environment last if they were asked for. -/
def Loader.layers (l : Loader) (around : Surroundings) (steps : List LoadStep)
    (environment : Entries String) : List Layer :=
  steps.filterMap (LoadStep.layer? around) ++
    (l.stem.map fun stem => .environment stem (relevant stem environment)).toList

section Loading

variable {l l' : Loader} {around around' : Surroundings} {step : LoadStep} {c c' : Configuration}
  {spelling : String}

/-- What a configuration gives to a spelling of a default header. -/
def Configuration.header? (c : Configuration) (spelling : String) : Option String :=
  Entries.get? spelling c.writer.defaultHeaders

theorem Layer.header?_overlay {j : Json} (hc : c.Canonical) (hj : j.Sorted)
    (h : c.overlay? j = some c') :
    c'.header? spelling = (Layer.document j).lay spelling (c.header? spelling) := by
  have hread {v : Json} {value : Option String}
      (hv : Decoder.optional Decoder.string (.ofJson v) = some value) :
      value = Decoder.string (.ofJson v) := by
    obtain ⟨s, hs, rfl⟩ := Option.map_eq_some_iff.1 hv
    exact hs.symm
  obtain ⟨hnamed, hkept, hreset⟩ := Leaf.of_overlay? hc hj h (.defaultHeader spelling)
  rw [lay]
  by_cases hobjects : j.ObjectsTo (Leaf.defaultHeader spelling).path
  · have hlocate := Json.locate_eq_at? hobjects
    cases hat : j.at? (Leaf.defaultHeader spelling).path with
    | some v =>
      rw [hlocate.trans hat]
      exact hread (hnamed v hat)
    | none =>
      rw [hlocate.trans hat]
      simp only [if_pos hobjects]
      exact hkept hat hobjects
  · have hvalue := hreset hobjects
    cases hlocate : j.locate (Leaf.defaultHeader spelling).form.place with
    | some v =>
      rw [hlocate] at hvalue
      exact hread hvalue
    | none =>
      rw [hlocate] at hvalue
      simp only [if_neg hobjects]
      exact (Option.some.inj hvalue).symm

theorem Loader.defaultHeaders_of_mem_presets (h : c ∈ presets) :
    c.writer.defaultHeaders = [] := by
  rcases List.mem_cons.1 h with rfl | h
  · rfl
  · rcases List.mem_pair.1 h with rfl | rfl <;> rfl

namespace LoadStep

open Loader

/-- A step leaves the files around as they are. -/
theorem around_of_take (htake : (step.take around l).value = .ok (l', around')) :
    ∃ environment, around' = { around with environment := environment } := by
  cases step with
  | restart | environment =>
    obtain ⟨-, rfl⟩ := Prod.mk.inj (Except.ok.inj htake)
    exact ⟨around.environment, rfl⟩
  | file | optionalFile | text =>
    obtain ⟨l₁, -, heq⟩ := Except.map_eq_ok_iff.1 htake
    obtain ⟨-, rfl⟩ := Prod.mk.inj heq
    exact ⟨around.environment, rfl⟩
  | dotenv =>
    obtain ⟨around₁, hread, heq⟩ := Except.map_eq_ok_iff.1 htake
    obtain ⟨-, rfl⟩ := Prod.mk.inj heq
    rw [readDotenv] at hread
    split at hread
    · obtain rfl := Except.ok.inj hread
      exact ⟨around.environment, rfl⟩
    · split at hread
      · rename_i environment _
        exact ⟨environment, (Except.ok.inj hread).symm⟩
      · cases hread

theorem layer?_environment (step : LoadStep) (around : Surroundings)
    (environment : Entries String) :
    step.layer? { around with environment := environment } = step.layer? around := by
  cases step <;> rfl

theorem layer?_of_not_restart (hrestart : ∀ c, step ≠ .restart c) :
    step.layer? around = (step.document? around).map .document := by
  cases step with
  | restart c => exact absurd rfl (hrestart c)
  | _ => rfl

/-- A step lays its layer over what a spelling has. -/
theorem header?_of_take (hl : l.config.Canonical)
    (hpreset : ∀ c, step = .restart c → c ∈ presets)
    (htake : (step.take around l).value = .ok (l', around')) :
    l'.config.header? spelling =
      Layer.layAll spelling (l.config.header? spelling) (step.layer? around).toList := by
  cases changes_of_take htake with
  | restart =>
    show Entries.get? spelling l'.config.writer.defaultHeaders = none
    rw [defaultHeaders_of_mem_presets (hpreset _ rfl)]
    rfl
  | @lays _ j hlays hj hoverlay =>
    have hrestart : ∀ c, step ≠ .restart c := by
      rintro c rfl
      cases hlays
    rw [layer?_of_not_restart hrestart, hlays]
    exact Layer.header?_overlay hl hj hoverlay
  | leaves hrestart hnothing hsame =>
    rw [layer?_of_not_restart hrestart, hnothing, hsame]
    rfl

/-- Steps lay their layers over what a spelling has, one after another. -/
theorem header?_of_takeAll {steps : List LoadStep} {loaders : List Loader} (spelling : String)
    (hl : l.config.Canonical) (hpresets : ∀ c, .restart c ∈ steps → c ∈ presets)
    (htake : (takeAll around l steps).value = (loaders, .ok (l', around'))) :
    l'.config.Canonical ∧ l'.config.header? spelling =
      Layer.layAll spelling (l.config.header? spelling) (steps.filterMap (layer? around)) := by
  induction steps generalizing l around loaders with
  | nil =>
    obtain ⟨-, heq⟩ := Prod.mk.inj htake
    obtain ⟨rfl, -⟩ := Prod.mk.inj (Except.ok.inj heq)
    exact ⟨hl, rfl⟩
  | cons step rest ih =>
    rw [takeAll, Logged.value_bind] at htake
    cases hstep : (step.take around l).value with
    | error e =>
      rw [hstep] at htake
      cases (Prod.mk.inj htake).2
    | ok next =>
      obtain ⟨l₁, around₁⟩ := next
      rw [hstep] at htake
      have hpreset : ∀ c, step = .restart c → c ∈ presets := fun c hc =>
        hpresets c (hc ▸ List.mem_cons_self)
      have hrest : ∀ c, .restart c ∈ rest → c ∈ presets := fun c hc =>
        hpresets c (List.mem_cons_of_mem _ hc)
      have hvalue : (takeAll around₁ l₁ rest).value.2 = .ok (l', around') :=
        (Prod.mk.inj htake).2
      obtain ⟨hcanonical, hheader⟩ :=
        ih (canonical_of_take hl hpreset hstep) hrest (Prod.ext rfl hvalue)
      refine ⟨hcanonical, ?_⟩
      obtain ⟨environment, rfl⟩ := around_of_take hstep
      rw [hheader, header?_of_take hl hpreset hstep, List.filterMap_cons,
        List.filterMap_congr fun step _ => layer?_environment step around environment]
      cases step.layer? around <;> rfl

end LoadStep

namespace Variable

variable {stem : String} {a : String × String} {vars : List (String × String)}

/-- A variable that names a header gives it to the spelling in lower case, and no other variable
    does anything to it. -/
theorem header?_effect (ha : Accepted stem a) (c : Configuration) :
    (effect stem a c).header? spelling =
      if setting? stem a.1 = some (.defaultHeader spelling) then some a.2
      else c.header? spelling := by
  split
  · rename_i hnames
    rw [effect_header hnames]
    exact (Entries.get?_insert ..).trans (if_pos rfl)
  · rename_i hother
    refine get_effect (x := .defaultHeader spelling) ha (fun s hs hleaf => hother ?_) c
    rw [hs]
    cases s with
    | defaultHeader name => exact congrArg _ (congrArg _ (Leaf.defaultHeader.inj hleaf))
    | _ => cases hleaf

theorem header?_foldl_effect (haccepted : ∀ a ∈ vars, Accepted stem a) (c : Configuration) :
    (vars.foldl (fun c a => effect stem a c) c).header? spelling =
      (Layer.environment stem vars).lay spelling (c.header? spelling) := by
  induction vars generalizing c with
  | nil => rfl
  | cons a rest ih =>
    obtain ⟨ha, hrest⟩ := List.forall_mem_cons.1 haccepted
    rw [List.foldl_cons, ih hrest, header?_effect ha, Layer.lay, Layer.lay, List.reverse_cons,
      List.find?_append]
    by_cases hnames : setting? stem a.1 = some (.defaultHeader spelling)
    · cases rest.reverse.find? _ <;> simp [hnames]
    · cases rest.reverse.find? _ <;> simp [hnames]

theorem sorted_effect (ha : Accepted stem a) (hc : c.writer.defaultHeaders.Sorted) :
    (effect stem a c).writer.defaultHeaders.Sorted := by
  rcases ha.cases with ⟨-, heffect⟩ | ⟨s, v, -, -, heffect⟩
  · rw [heffect]
    exact hc
  · rw [heffect]
    cases s with
    | defaultHeader name => exact hc.insert
    | _ => exact hc

theorem sorted_foldl_effect (haccepted : ∀ a ∈ vars, Accepted stem a)
    (hc : c.writer.defaultHeaders.Sorted) :
    (vars.foldl (fun c a => effect stem a c) c).writer.defaultHeaders.Sorted := by
  induction vars generalizing c with
  | nil => exact hc
  | cons a rest ih =>
    obtain ⟨ha, hrest⟩ := List.forall_mem_cons.1 haccepted
    exact ih hrest (sorted_effect ha hc)

end Variable

/-- What is loaded has passed its checks, and the variables have been laid over it last. -/
theorem Loader.header?_of_load {environment : Entries String} (hl : l.config.Canonical)
    (hload : (l.load environment).value = .ok c) :
    c.validate = .ok () ∧ c.writer.defaultHeaders.Sorted ∧ ∀ spelling, c.header? spelling =
      Layer.layAll spelling (l.config.header? spelling)
        (l.stem.map fun stem => .environment stem (relevant stem environment)).toList := by
  cases hstem : l.stem with
  | none =>
    rw [load, hstem] at hload
    obtain ⟨u, hvalid, rfl⟩ := Except.map_eq_ok_iff.1 hload
    exact ⟨hvalid, hl.headers, fun spelling => rfl⟩
  | some stem =>
    rw [value_load hstem] at hload
    rcases Variable.value_applyAll stem (relevant stem environment) l.config with
      ⟨haccepted, hvalue⟩ | ⟨a, -, reason, -, hvalue⟩
    · rw [hvalue] at hload
      obtain ⟨u, hvalid, rfl⟩ := Except.map_eq_ok_iff.1 hload
      exact ⟨hvalid, Variable.sorted_foldl_effect haccepted hl.headers, fun spelling =>
        Variable.header?_foldl_effect haccepted l.config⟩
    · rw [hvalue] at hload
      cases hload

/-- What is loaded gives to a spelling what the layers give to it. -/
theorem Loader.header?_of_steps {steps : List LoadStep} {loaders : List Loader}
    {environment : Entries String} (hpresets : ∀ c, .restart c ∈ steps → c ∈ presets)
    (htake : (LoadStep.takeAll around .new steps).value = (loaders, .ok (l, around')))
    (hload : (l.load environment).value = .ok c) :
    c.validate = .ok () ∧ c.writer.defaultHeaders.Sorted ∧
      c.header? = Layer.given (l.layers around steps environment) := by
  have hsteps (spelling : String) :=
    LoadStep.header?_of_takeAll spelling Configuration.canonical_standard hpresets htake
  obtain ⟨hvalid, hsorted, hheader⟩ := header?_of_load (hsteps "").1 hload
  refine ⟨hvalid, hsorted, funext fun spelling => ?_⟩
  rw [hheader, (hsteps spelling).2, Layer.given, layers, Layer.layAll, Layer.layAll, Layer.layAll,
    List.foldl_append]
  rfl

end Loading

/-! ## Two layers with one header each -/

/-- A layer with one default header. -/
def Json.headerLayer (spelling value : String) : Json :=
  .obj [("response_writer", .obj [("default_headers", .obj [(spelling, .str value)])])]

/-- Whether a layer has one default header and nothing else. -/
def Layer.isHeader (spelling value : String) : Layer → Bool
  | document (.obj [(writer, .obj [(headers, .obj [(name, .str text)])])]) =>
    writer == "response_writer" && headers == "default_headers" && name == spelling && text == value
  | _ => false

theorem Layer.eq_of_isHeader {spelling value : String} {layer : Layer}
    (h : layer.isHeader spelling value = true) :
    layer = document (.headerLayer spelling value) := by
  unfold isHeader at h
  split at h
  · simp only [Bool.and_eq_true, beq_iff_eq] at h
    obtain ⟨⟨⟨rfl, rfl⟩, rfl⟩, rfl⟩ := h
    rfl
  · cases h

theorem Layer.setsOnce_headerLayer (spelling value : String) :
    (Layer.document (.headerLayer spelling value)).SetsOnce (asciiLower spelling) spelling
      value := by
  have hlocate (other : String) :
      (Json.headerLayer spelling value).locate (Leaf.defaultHeader other).form.place =
        if spelling = other then some (.str value) else none := by
    show ((Entries.get? other [(spelling, Json.str value)]).bind some) = _
    rw [Entries.get?, Option.bind_fun_some]
    rfl
  have hlay (other : String) : (Layer.document (.headerLayer spelling value)).lay other none =
      if spelling = other then some value else none := by
    rw [lay, hlocate]
    by_cases hother : spelling = other
    · rw [if_pos hother, if_pos hother]
      rfl
    · rw [if_neg hother, if_neg hother]
      exact ite_self none
  refine ⟨rfl, ?_, fun other hother hne => ?_⟩
  · rw [hlay, if_pos rfl]
  · rw [hlay] at hne
    by_contra hdiffers
    exact hne (if_neg (Ne.symm hdiffers))

/-- Takes in a text that holds a layer with one default header. -/
def LoadStep.headerText (spelling value : String) : LoadStep :=
  .text ("\x7b\"response_writer\": \x7b\"default_headers\": \x7b\"" ++ spelling ++ "\": \"" ++
    value ++ "\"\x7d\x7d\x7d") "json"

/-- Nothing is found around. -/
def Surroundings.nothing : Surroundings := ⟨[], [], []⟩

theorem LoadStep.layer?_headerText {spelling value : String}
    (h : ((headerText spelling value).layer? .nothing).any (Layer.isHeader spelling value) = true) :
    (headerText spelling value).layer? .nothing =
      some (.document (.headerLayer spelling value)) := by
  obtain ⟨layer, hlayer, hheader⟩ := (Option.any_eq_true ..).1 h
  rw [hlayer, Layer.eq_of_isHeader hheader]

namespace Facility

open LoadStep (headerText layer?_headerText)

/-- What is written under a name. -/
def carries (f : Facility) (name : String) : Option String :=
  (f.writer.write (.new .nil) RenderingWriter.listState .normal).value.1.header? name

/-- Takes steps and looks at the loader in the end and at the facility of what it loads. -/
def tried (steps : List LoadStep) (p : Loader → Facility → Bool) : Bool :=
  (LoadStep.takeAll .nothing .new steps).value.2.toOption.any fun next =>
    (next.1.load []).value.toOption.any fun c =>
      (ofConfiguration c).value.toOption.any fun f => p next.1 f

theorem of_tried {steps : List LoadStep} {p : Loader → Facility → Bool}
    (h : tried steps p = true) :
    ∃ loaders l around c f,
      (LoadStep.takeAll .nothing .new steps).value = (loaders, .ok (l, around)) ∧
      (l.load []).value = .ok c ∧ (ofConfiguration c).value = .ok f ∧ p l f = true := by
  obtain ⟨⟨l, around⟩, htake, h⟩ := Except.exists_of_any h
  obtain ⟨c, hload, h⟩ := Except.exists_of_any h
  obtain ⟨f, hf, h⟩ := Except.exists_of_any h
  exact ⟨_, l, around, c, f, Prod.ext rfl htake, hload, hf, h⟩

/-- The layers of a loader that has taken in two texts with one header each. -/
theorem layers_of_headerTexts {spelling value spelling' value' : String} {l : Loader}
    (hfirst : (headerText spelling value).layer? .nothing =
      some (.document (.headerLayer spelling value)))
    (hsecond : (headerText spelling' value').layer? .nothing =
      some (.document (.headerLayer spelling' value')))
    (hstem : l.stem.isNone = true) :
    l.layers .nothing [headerText spelling value, headerText spelling' value'] [] =
      [.document (.headerLayer spelling value), .document (.headerLayer spelling' value')] := by
  rw [Loader.layers, Option.isNone_iff_eq_none.1 hstem, List.filterMap_cons_some hfirst,
    List.filterMap_cons_some hsecond]
  rfl

variable {l : Loader} {around around' : Surroundings} {steps : List LoadStep}
  {loaders : List Loader} {environment : Entries String} {c : Configuration}

/-- A response that does not set a name itself carries what the layers give to the last of the
    spellings of the name.  This is the value of the last layer that sets the name if it does so
    in lower case, as variables always do, or if no layer before it uses a spelling that comes
    after its own. -/
theorem writes_lastSpelling (hpresets : ∀ c, .restart c ∈ steps → c ∈ Loader.presets)
    (htake : (LoadStep.takeAll around .new steps).value = (loaders, .ok (l, around')))
    (hload : (l.load environment).value = .ok c) :
    let layers := l.layers around steps environment
    ∃ f, (ofConfiguration c).value = .ok f ∧
      ∀ (context : RequestContext) (state : ProcessState) (outcome : Outcome) (name : String),
        state.sink.dataSent = false →
        (∀ header ∈ (f.writer.responseFor state outcome).headers, asciiLower header.1 ≠ name) →
        let carried := (f.writer.write context state outcome).value.1.header? name
        ((∃ spelling, asciiLower spelling = name ∧ Layer.given layers spelling ≠ none) →
          ∃ spelling value, LastSpelling (Layer.given layers) name spelling value) ∧
        (∀ spelling value, LastSpelling (Layer.given layers) name spelling value →
          carried = some value) ∧
        (∀ before layer after spelling value, layers = before ++ layer :: after →
          layer.SetsOnce name spelling value → (∀ later ∈ after, later.Leaves name) →
          (spelling = name ∨ ∀ other, asciiLower other = name →
            Layer.given before other ≠ none → other ≤ spelling) →
          carried = some value) ∧
        ∀ stem value, l.stem = some stem →
          (Layer.environment stem (Loader.relevant stem environment)).lay name none = some value →
          carried = some value := by
  intro layers
  obtain ⟨hvalid, hsorted, hgiven⟩ := Loader.header?_of_steps hpresets htake hload
  obtain ⟨f, hf⟩ := exists_value_iff.2 hvalid
  obtain ⟨hnone, -⟩ := writer_of_value hf
  refine ⟨f, hf, fun context state outcome name hunsent hresponse => ?_⟩
  have hcarried : ∀ spelling value, LastSpelling (Layer.given layers) name spelling value →
      (f.writer.write context state outcome).value.1.header? name = some value := by
    intro spelling value hlast
    have hleft : f.LeavesToDefaults none context state outcome name :=
      ⟨headerOf?_eq_none_iff.2 (hnone ▸ hresponse), rfl⟩
    rw [← hgiven] at hlast
    rw [hnone]
    exact hleft.header?_write hf hunsent (headerOf?_of_lastSpelling hsorted hlast)
  refine ⟨?_, hcarried, ?_, ?_⟩
  · rintro ⟨spelling, hspells, hne⟩
    rw [← hgiven] at hne ⊢
    exact exists_lastSpelling hsorted hspells hne
  · intro before layer after spelling value hlayers hsets hafter hbefore
    exact hcarried spelling value (hlayers ▸ hsets.lastSpelling hafter hbefore)
  · intro stem value hstem hsets
    have hlayers : layers = steps.filterMap (LoadStep.layer? around) ++
        .environment stem (Loader.relevant stem environment) :: [] := by
      show l.layers around steps environment = _
      rw [Loader.layers, hstem]
      rfl
    have hlast : LastSpelling (Layer.given layers) name name value := by
      rw [hlayers]
      exact (Layer.setsOnce_environment hsets).lastSpelling (fun later hlater => by cases hlater)
        (.inl rfl)
    exact hcarried name value hlast

/-- The later of two layers uses the lower case and wins. -/
theorem writes_lastSpelling_lower :
    let steps := [headerText "X-A" "1", headerText "x-a" "2"]
    ∃ loaders l around c f, (∀ c, .restart c ∈ steps → c ∈ Loader.presets) ∧
      (LoadStep.takeAll .nothing .new steps).value = (loaders, .ok (l, around)) ∧
      (l.load []).value = .ok c ∧ (ofConfiguration c).value = .ok f ∧
      f.carries "x-a" = some "2" := by
  intro steps
  have htried : tried steps (fun l _ => l.stem.isNone) = true := by decide +kernel
  obtain ⟨loaders, l, around, c, f, htake, hload, hf, hstem⟩ := of_tried htried
  have hpresets : ∀ c, .restart c ∈ steps → c ∈ Loader.presets := by
    simp [steps, headerText]
  have hlayers : l.layers .nothing steps [] =
      [.document (.headerLayer "X-A" "1")] ++ .document (.headerLayer "x-a" "2") :: [] :=
    layers_of_headerTexts (layer?_headerText (by decide +kernel))
      (layer?_headerText (by decide +kernel)) hstem
  obtain ⟨f', hf', hwrites⟩ := writes_lastSpelling hpresets htake hload
  obtain rfl : f = f' := Except.ok.inj (hf.symm.trans hf')
  refine ⟨loaders, l, around, c, f, hpresets, htake, hload, hf, ?_⟩
  obtain ⟨-, -, hlast, -⟩ := hwrites (.new .nil) RenderingWriter.listState .normal "x-a" rfl
    fun header hheader => by cases hheader
  exact hlast _ _ _ _ _ hlayers (Layer.setsOnce_headerLayer "x-a" "2")
    (fun later hlater => by cases hlater) (.inl rfl)

/-- The later of two layers uses capitals, and the earlier one wins. -/
theorem writes_earlier_layer :
    let steps := [headerText "x-a" "1", headerText "X-A" "2"]
    ∃ loaders l around c f first second,
      (LoadStep.takeAll .nothing .new steps).value = (loaders, .ok (l, around)) ∧
      (l.load []).value = .ok c ∧ (ofConfiguration c).value = .ok f ∧
      l.layers .nothing steps [] = [first, second] ∧
      first.SetsOnce "x-a" "x-a" "1" ∧ second.SetsOnce "x-a" "X-A" "2" ∧
      f.carries "x-a" = some "1" := by
  intro steps
  have htried :
      tried steps (fun l f => l.stem.isNone && f.carries "x-a" == some "1") = true := by
    decide +kernel
  obtain ⟨loaders, l, around, c, f, htake, hload, hf, hboth⟩ := of_tried htried
  obtain ⟨hstem, hcarries⟩ := Bool.and_eq_true_iff.1 hboth
  have hlayers : l.layers .nothing steps [] =
      [.document (.headerLayer "x-a" "1"), .document (.headerLayer "X-A" "2")] :=
    layers_of_headerTexts (layer?_headerText (by decide +kernel))
      (layer?_headerText (by decide +kernel)) hstem
  exact ⟨loaders, l, around, c, f, _, _, htake, hload, hf, hlayers,
    Layer.setsOnce_headerLayer "x-a" "1", Layer.setsOnce_headerLayer "X-A" "2",
    eq_of_beq hcarries⟩

end Facility

end Endpoint
