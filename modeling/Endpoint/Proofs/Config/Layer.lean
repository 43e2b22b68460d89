import Endpoint.Config.Loader
import Endpoint.Proofs.Config.Written
import Endpoint.Proofs.Except
import Endpoint.Proofs.Toml.Order

/-!
# What a layer changes

A layer sets the leaf settings that it names and leaves all others as they were.  Only where it has
a list for a section it replaces the section as a whole.
-/

namespace Endpoint

namespace Loader

/-- The configurations that loading can start from. -/
def presets : List Configuration := [.standard, .development, .production]

/-- A loader that loading leads to, from a preset over any number of layers. -/
inductive Reachable : Loader → Prop where
  | new : Reachable .new
  | step {l l' : Loader} {step : LoadStep} {around around' : Surroundings} (hl : Reachable l)
    (hpreset : ∀ c, step = .restart c → c ∈ presets)
    (htake : (step.take around l).value = .ok (l', around')) : Reachable l'

variable {l l' : Loader} {layer : Json}

theorem canonical_of_mem_presets {c : Configuration} (h : c ∈ presets) : c.Canonical := by
  rcases List.mem_cons.1 h with rfl | h
  · exact Configuration.canonical_standard
  · rcases List.mem_pair.1 h with rfl | rfl
    · exact Configuration.canonical_development
    · exact Configuration.canonical_production

theorem addLayer_eq_ok_iff :
    l.addLayer layer = .ok l' ↔
      ∃ c, l.config.overlay? layer = some c ∧ l' = { l with config := c } := by
  rw [addLayer]
  cases l.config.overlay? layer <;> simp [eq_comm]

theorem addText_eq_ok_iff {content format : String} :
    l.addText content format = .ok l' ↔
      ∃ layer, readLayer? format content = some (.ok layer) ∧ l.addLayer layer = .ok l' := by
  rw [addText]
  split <;> simp_all

/-- A layer that is read is in order. -/
theorem sorted_of_readLayer? {format content : String}
    (h : readLayer? format content = some (.ok layer)) : layer.Sorted := by
  rw [readLayer?] at h
  split at h
  · have h := Option.some.inj h
    split at h
    · rename_i j hj
      exact Except.ok.inj h ▸ Toml.sorted_of_read? hj
    · cases h
  · split at h
    · have h := Option.some.inj h
      split at h
      · rename_i j hj
        exact Except.ok.inj h ▸ Json.sorted_of_readText? hj
      · cases h
    · cases h

/-- What a file holds if it is there and can be read. -/
def fileLayer? (around : Surroundings) (path : String) : Option Json := do
  let bytes ← (find? around path).join
  let content ← Utf8.decode? ⟨bytes.toArray⟩
  let format ← extension? path
  let layer ← readLayer? format content
  layer.toOption

theorem of_addFile {around : Surroundings} {path : String}
    (h : (l.addFile around path).value = .ok l') :
    ∃ j, fileLayer? around path = some j ∧ j.Sorted ∧ l.config.overlay? j = some l'.config := by
  rw [addFile] at h
  split at h
  · cases h
  · cases h
  · rename_i bytes hfind
    split at h
    · cases h
    · rename_i content hcontent
      split at h
      · cases h
      · cases h
      · rename_i layer hlayer
        obtain ⟨format, hformat, hread⟩ := Option.bind_eq_some_iff.1 hlayer
        split at h
        · cases h
        · rename_i l₁ hadd
          obtain ⟨c, hc, rfl⟩ := addLayer_eq_ok_iff.1 hadd
          obtain rfl := Except.ok.inj h
          refine ⟨layer, ?_, sorted_of_readLayer? hread, hc⟩
          simp [fileLayer?, hfind, hcontent, hformat, hread, Except.toOption]

end Loader

namespace LoadStep

open Loader

variable {step : LoadStep} {around around' : Surroundings} {l l' : Loader}

/-- What a step of loading lays over the configuration, if it lays something. -/
def document? (around : Surroundings) : LoadStep → Option Json
  | file path | optionalFile path => fileLayer? around path
  | text content format => (readLayer? format content).bind Except.toOption
  | restart _ | environment _ | dotenv => none

/-- What a step of loading does to the configuration: it starts over, lays something over it, or
    leaves it as it is. -/
inductive Changes (around : Surroundings) (l l' : Loader) : LoadStep → Prop where
  | restart : Changes around l l' (.restart l'.config)
  | lays {step : LoadStep} {j : Json} (hlays : step.document? around = some j) (hj : j.Sorted)
    (hoverlay : l.config.overlay? j = some l'.config) : Changes around l l' step
  | leaves {step : LoadStep} (hrestart : ∀ c, step ≠ .restart c)
    (hnothing : step.document? around = none) (hsame : l'.config = l.config) :
    Changes around l l' step

theorem changes_of_take (htake : (step.take around l).value = .ok (l', around')) :
    Changes around l l' step := by
  cases step with
  | restart c =>
    obtain ⟨rfl, -⟩ := Prod.mk.inj (Except.ok.inj htake)
    exact .restart
  | file path =>
    obtain ⟨l₁, hadd, heq⟩ := Except.map_eq_ok_iff.1 htake
    obtain ⟨rfl, -⟩ := Prod.mk.inj heq
    obtain ⟨j, hfile, hj, hoverlay⟩ := of_addFile hadd
    exact .lays hfile hj hoverlay
  | optionalFile path =>
    obtain ⟨l₁, hadd, heq⟩ := Except.map_eq_ok_iff.1 htake
    obtain ⟨rfl, -⟩ := Prod.mk.inj heq
    rw [addOptionalFile] at hadd
    split at hadd
    · obtain ⟨j, hfile, hj, hoverlay⟩ := of_addFile hadd
      exact .lays hfile hj hoverlay
    · rename_i hmissing
      obtain rfl := Except.ok.inj hadd
      have hfind : find? around path = none := by simpa using hmissing
      have hfile : fileLayer? around path = none := by simp [fileLayer?, hfind]
      exact .leaves (fun c => LoadStep.noConfusion) hfile rfl
  | text content format =>
    obtain ⟨l₁, hadd, heq⟩ := Except.map_eq_ok_iff.1 htake
    obtain ⟨rfl, -⟩ := Prod.mk.inj heq
    obtain ⟨j, hread, hlayer⟩ := addText_eq_ok_iff.1 hadd
    obtain ⟨c, hc, rfl⟩ := addLayer_eq_ok_iff.1 hlayer
    have hdocument : (text content format).document? around = some j := by
      rw [document?, hread]
      rfl
    exact .lays hdocument (sorted_of_readLayer? hread) hc
  | environment stem =>
    obtain ⟨rfl, -⟩ := Prod.mk.inj (Except.ok.inj htake)
    exact .leaves (fun c => LoadStep.noConfusion) rfl rfl
  | dotenv =>
    obtain ⟨around₁, -, heq⟩ := Except.map_eq_ok_iff.1 htake
    obtain ⟨rfl, -⟩ := Prod.mk.inj heq
    exact .leaves (fun c => LoadStep.noConfusion) rfl rfl

end LoadStep

namespace Loader

variable {l l' : Loader}

/-- Every step of loading keeps the maps of the configuration in order. -/
theorem canonical_of_take {step : LoadStep} {around around' : Surroundings}
    (hl : l.config.Canonical) (hpreset : ∀ c, step = .restart c → c ∈ presets)
    (htake : (step.take around l).value = .ok (l', around')) : l'.config.Canonical := by
  cases LoadStep.changes_of_take htake with
  | restart => exact canonical_of_mem_presets (hpreset _ rfl)
  | lays _ _ hoverlay => exact Configuration.canonical_of_decode hoverlay
  | leaves _ _ hsame => exact hsame ▸ hl

/-- The maps of a configuration that is being loaded are in order. -/
theorem Reachable.canonical (h : l.Reachable) : l.config.Canonical := by
  induction h with
  | new => exact Configuration.canonical_standard
  | step _ hpreset htake ih => exact canonical_of_take ih hpreset htake

end Loader

namespace Leaf

variable {c c' : Configuration} {layer : Json}

/-- What a leaf setting is once a layer has been laid over a configuration. -/
theorem of_overlay? (hc : c.Canonical) (hlayer : layer.Sorted) (h : c.overlay? layer = some c')
    (x : Leaf) :
    (∀ v, layer.at? x.path = some v → x.form.decode (.ofJson v) = some (x.form.get c')) ∧
    (layer.at? x.path = none → layer.ObjectsTo x.path → x.form.get c' = x.form.get c) ∧
    (¬ layer.ObjectsTo x.path →
      Decoder.withDefault (x.form.get .standard) x.form.decode
        ((layer.locate x.form.place).map .ofJson) = some (x.form.get c')) := by
  have hread := x.reads (c.toJson.overlay layer) c' (hc.sorted_toJson.overlay hlayer) h
  have hleaf : ∀ b, c.toJson.locate x.form.place = some b → b.isObject = false := by
    intro b hb
    rw [x.locate_toJson hc] at hb
    exact x.isObject_encode hb
  refine ⟨fun v hv => ?_, fun hnone hobjects => ?_, fun hobjects => ?_⟩
  · rw [Json.locate_overlay_of_at? hlayer hleaf hv] at hread
    exact hread
  · rw [Json.locate_overlay_of_absent hlayer (x.objectsTo_toJson c) hobjects hnone,
      x.locate_toJson hc] at hread
    exact x.faithful _ _ hread
  · rw [Json.locate_overlay_of_not_objectsTo hlayer hobjects] at hread
    exact hread

end Leaf

/-- Is the truth value `b`. -/
def Json.isBool (b : Bool) : Json → Bool
  | .bool b' => b == b'
  | _ => false

theorem Json.eq_of_isBool {b : Bool} {v : Json} (h : v.isBool b = true) : v = .bool b := by
  cases v with
  | bool b' => exact congrArg Json.bool (eq_of_beq h).symm
  | _ => cases h

namespace Loader

variable {l l' : Loader} {layer : Json} {content format : String}

/-- A text that is laid over a configuration changes the leaf settings that it names to what it
    has for them, and no others as long as it has objects for all sections on the way.  Where it
    has a list for a section, the fields of the section are those of the list, in order, and what
    the list does not have is as usual, whatever it was before. -/
theorem addText_changes_named (hl : l.Reachable) (h : l.addText content format = .ok l') :
    ∃ layer, readLayer? format content = some (.ok layer) ∧ ∀ x : Leaf,
      (∀ v, layer.at? x.path = some v →
        x.form.decode (.ofJson v) = some (x.form.get l'.config)) ∧
      (layer.at? x.path = none → layer.ObjectsTo x.path →
        x.form.get l'.config = x.form.get l.config) ∧
      (¬ layer.ObjectsTo x.path →
        Decoder.withDefault (x.form.get .standard) x.form.decode
          ((layer.locate x.form.place).map .ofJson) = some (x.form.get l'.config)) := by
  obtain ⟨layer, hread, hadd⟩ := addText_eq_ok_iff.1 h
  obtain ⟨c, hc, rfl⟩ := addLayer_eq_ok_iff.1 hadd
  exact ⟨layer, hread, Leaf.of_overlay? hl.canonical (sorted_of_readLayer? hread) hc⟩

theorem Reachable.addText (hl : l.Reachable) (h : l.addText content format = .ok l') :
    l'.Reachable := by
  let nowhere : Surroundings := ⟨[], [], []⟩
  have htake : ((LoadStep.text content format).take nowhere l).value = .ok (l', nowhere) :=
    congrArg (Except.map fun l => (l, nowhere)) h
  exact .step hl (fun c hc => by cases hc) htake

/-- What holds of the layer that a text is read as is found by reading it. -/
theorem of_readLayer? {p : Json → Bool}
    (h : ((readLayer? format content).bind Except.toOption).any p = true)
    (hread : readLayer? format content = some (.ok layer)) : p layer = true := by
  rw [hread] at h
  exact h

/-- What holds once a text has been laid over a configuration is found by doing so. -/
theorem exists_of_addText (l : Loader) (content format : String) (p : Loader → Bool)
    (h : (l.addText content format).toOption.any p = true) :
    ∃ l', l.addText content format = .ok l' ∧ p l' = true :=
  Except.exists_of_any h

/-- Asks for authentication. -/
def authenticationText : String := "\x7b\"handler\": \x7b\"require_authentication\": true\x7d\x7d"

/-- Names the other field of the section on handlers, and has a list for the one on logging. -/
def bindingText : String :=
  "\x7b\"handler\": \x7b\"auto_bind_query\": true\x7d, \"logging\": [false]\x7d"

/-- Has a list for the section on handlers. -/
def listText : String := "\x7b\"handler\": [true]\x7d"

/-- Of three fields one is named, one is kept, and one is read from a list. -/
theorem addText_changes_named_fields :
    ∃ l l', Reachable l ∧ l.config.handler = ⟨false, true⟩ ∧
      l.addText bindingText "json" = .ok l' ∧
      l'.config.handler.autoBindQuery = true ∧ l'.config.handler.requireAuthentication = true ∧
      l'.config.logging.enabled = false := by
  obtain ⟨l, hadd, hl⟩ := exists_of_addText .new authenticationText "json"
    (fun l => decide (l.config.handler = ⟨false, true⟩) &&
      (l.addText bindingText "json").toOption.any fun _ => true) (by decide +kernel)
  obtain ⟨hhandler, hnext⟩ := Bool.and_eq_true_iff.1 hl
  obtain ⟨l', hadd', -⟩ := exists_of_addText l bindingText "json" _ hnext
  have hreachable : l.Reachable := Reachable.new.addText hadd
  obtain ⟨layer, hread, hleaves⟩ := addText_changes_named hreachable hadd'
  have hhandler : l.config.handler = ⟨false, true⟩ := of_decide_eq_true hhandler
  refine ⟨l, l', hreachable, hhandler, hadd', ?_, ?_, ?_⟩
  · have hnamed := of_readLayer? (p := fun layer =>
      (layer.at? (Leaf.autoBindQuery).path).any (Json.isBool true)) (by decide +kernel) hread
    obtain ⟨v, hat, hv⟩ := (Option.any_eq_true ..).1 hnamed
    obtain rfl := Json.eq_of_isBool hv
    exact (Option.some.inj ((hleaves .autoBindQuery).1 _ hat)).symm
  · have hunnamed := of_readLayer? (p := fun layer =>
      (layer.at? (Leaf.requireAuthentication).path).isNone &&
        decide (layer.ObjectsTo (Leaf.requireAuthentication).path)) (by decide +kernel) hread
    obtain ⟨hnone, hobjects⟩ := Bool.and_eq_true_iff.1 hunnamed
    have hkept := (hleaves .requireAuthentication).2.1 (Option.isNone_iff_eq_none.1 hnone)
      (of_decide_eq_true hobjects)
    exact hkept.trans (congrArg HandlerSection.requireAuthentication hhandler)
  · have hlisted := of_readLayer? (p := fun layer =>
      !decide (layer.ObjectsTo (Leaf.logEnabled).path) &&
        (layer.locate (Leaf.logEnabled).form.place).any (Json.isBool false))
      (by decide +kernel) hread
    obtain ⟨hobjects, hlocate⟩ := Bool.and_eq_true_iff.1 hlisted
    have hlist := (hleaves .logEnabled).2.2 (by simpa using hobjects)
    obtain ⟨v, hat, hv⟩ := (Option.any_eq_true ..).1 hlocate
    obtain rfl := Json.eq_of_isBool hv
    rw [hat] at hlist
    exact (Option.some.inj hlist).symm

/-- A list for a section resets a setting that it does not name. -/
theorem addText_resets_unnamed :
    ¬ ∀ (l l' : Loader) (content format : String) (layer : Json), l.Reachable →
      l.addText content format = .ok l' → readLayer? format content = some (.ok layer) →
      ∀ x : Leaf, (layer.at? x.path = none → x.form.get l'.config = x.form.get l.config) ∧
        ∀ v, layer.at? x.path = some v →
          x.form.decode (.ofJson v) = some (x.form.get l'.config) := by
  intro h
  obtain ⟨l, hadd, hl⟩ := exists_of_addText .new authenticationText "json"
    (fun l => decide (l.config.handler = ⟨false, true⟩) &&
      (l.addText listText "json").toOption.any fun l' : Loader =>
        decide (l'.config.handler = ⟨true, false⟩)) (by decide +kernel)
  obtain ⟨hhandler, hnext⟩ := Bool.and_eq_true_iff.1 hl
  obtain ⟨l', hadd', hhandler'⟩ := exists_of_addText l listText "json" _ hnext
  obtain ⟨layer, hread, -⟩ := addText_eq_ok_iff.1 hadd'
  have hnone := of_readLayer? (p := fun layer =>
    (layer.at? (Leaf.requireAuthentication).path).isNone) (by decide +kernel) hread
  have hkept : l'.config.handler.requireAuthentication = l.config.handler.requireAuthentication :=
    (h l l' _ _ layer (Reachable.new.addText hadd) hadd' hread .requireAuthentication).1
      (Option.isNone_iff_eq_none.1 hnone)
  rw [of_decide_eq_true hhandler, of_decide_eq_true hhandler'] at hkept
  cases hkept

end Loader

end Endpoint
