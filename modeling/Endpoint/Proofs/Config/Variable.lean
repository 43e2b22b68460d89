import Endpoint.Config.Loader
import Endpoint.Proofs.Config.Leaf
import Endpoint.Proofs.Except
import Mathlib.Data.List.Nodup

/-!
# What variables do to a configuration

Whether a variable is accepted, and what it then does, does not depend on the configuration that
it is applied to.  It sets one setting and nothing else, so that two variables can be applied in
either order unless they set the same.  Every setting has one variable, but for a default header:
capitals and underscores of its name are lost.

A name that starts with the stem belongs to the loader.  If it does not go on with two underscores
then nothing is loaded, and all other names are as good as absent.
-/

namespace Endpoint

namespace Setting

/-- What a setting can be set to. -/
def Value : Setting → Type
  | wrapMode => WrapMode
  | prettyPrint | autoBindQuery | requireAuthentication | logEnabled | logJson
  | metricsEnabled => Bool
  | bodyField | errorsField | indent | defaultHeader _ | logLevel | metricsAddress => String

/-- Reads what a setting is to be set to; an error says what it should have been. -/
def read : (s : Setting) → String → Except String s.Value
  | wrapMode => readWrapMode
  | prettyPrint | autoBindQuery | requireAuthentication | logEnabled | logJson
  | metricsEnabled => readSwitch
  | bodyField | errorsField | indent | defaultHeader _ | logLevel | metricsAddress => .ok

/-- Sets a setting. -/
def put (c : Configuration) : (s : Setting) → s.Value → Configuration
  | wrapMode, mode => { c with writer := { c.writer with wrapMode := mode } }
  | bodyField, name => { c with writer := { c.writer with
      wrapper := { c.writer.wrapper with bodyField := name } } }
  | errorsField, name => { c with writer := { c.writer with
      wrapper := { c.writer.wrapper with errorsField := name } } }
  | prettyPrint, b => { c with writer := { c.writer with
      marshal := { c.writer.marshal with prettyPrint := b } } }
  | indent, text => { c with writer := { c.writer with
      marshal := { c.writer.marshal with indent := text } } }
  | defaultHeader name, value => c.addHeader name value
  | autoBindQuery, b => { c with handler := { c.handler with autoBindQuery := b } }
  | requireAuthentication, b => { c with handler := { c.handler with requireAuthentication := b } }
  | logEnabled, b => { c with logging := { c.logging with enabled := b } }
  | logLevel, level => { c with logging := { c.logging with level := level } }
  | logJson, b => { c with logging := { c.logging with jsonFormat := b } }
  | metricsEnabled, b => { c with metrics := { c.metrics with enabled := b } }
  | metricsAddress, address => { c with metrics := { c.metrics with address := address } }

/-- Applying a value reads it and sets the setting. -/
theorem apply_eq (s : Setting) (value : String) (c : Configuration) :
    s.apply value c = (s.read value).map (s.put c) := by
  cases s <;> rfl

/-- Different settings can be set in either order. -/
theorem put_comm {s t : Setting} (hne : s ≠ t) (v : s.Value) (w : t.Value) (c : Configuration) :
    t.put (s.put c v) w = s.put (t.put c w) v := by
  cases s with
  | defaultHeader name =>
    cases t with
    | defaultHeader name' =>
      have hname : name ≠ name' := fun h => hne (congrArg defaultHeader h)
      exact congrArg
        (fun headers => { c with writer := { c.writer with defaultHeaders := headers } })
        (Entries.insert_comm hname v w c.writer.defaultHeaders)
    | _ => rfl
  | _ => cases t <;> first | rfl | exact absurd rfl hne

/-- What a setting was set to before is lost. -/
theorem put_put (s : Setting) (v w : s.Value) (c : Configuration) :
    s.put (s.put c v) w = s.put c w := by
  cases s with
  | defaultHeader name =>
    exact congrArg
      (fun headers => { c with writer := { c.writer with defaultHeaders := headers } })
      (Entries.insert_insert name v w c.writer.defaultHeaders)
  | _ => rfl

/-- The leaf setting that is set. -/
def leaf : Setting → Leaf
  | wrapMode => .wrapMode
  | bodyField => .bodyField
  | errorsField => .errorsField
  | prettyPrint => .prettyPrint
  | indent => .indent
  | defaultHeader name => .defaultHeader name
  | autoBindQuery => .autoBindQuery
  | requireAuthentication => .requireAuthentication
  | logEnabled => .logEnabled
  | logLevel => .logLevel
  | logJson => .logJson
  | metricsEnabled => .metricsEnabled
  | metricsAddress => .metricsAddress

/-- All other leaf settings are left as they are. -/
theorem get_put_of_ne {s : Setting} {x : Leaf} (hne : s.leaf ≠ x) (v : s.Value)
    (c : Configuration) : x.form.get (s.put c v) = x.form.get c := by
  cases s with
  | defaultHeader name =>
    cases x with
    | defaultHeader name' =>
      have hname : name ≠ name' := fun h => hne (congrArg Leaf.defaultHeader h)
      exact (Entries.get?_insert ..).trans (if_neg hname)
    | _ => rfl
  | _ => cases x <;> first | rfl | exact absurd rfl hne

/-- The parts of the name of a setting, which for a header are those of one of its names. -/
def parts : Setting → List String
  | wrapMode => ["RESPONSE_WRITER", "WRAP_MODE"]
  | bodyField => ["RESPONSE_WRITER", "WRAPPER", "BODY_FIELD"]
  | errorsField => ["RESPONSE_WRITER", "WRAPPER", "ERRORS_FIELD"]
  | prettyPrint => ["RESPONSE_WRITER", "MARSHAL", "PRETTY_PRINT"]
  | indent => ["RESPONSE_WRITER", "MARSHAL", "INDENT"]
  | defaultHeader name => ["RESPONSE_WRITER", "DEFAULT_HEADERS", name]
  | autoBindQuery => ["HANDLER", "AUTO_BIND_QUERY"]
  | requireAuthentication => ["HANDLER", "REQUIRE_AUTHENTICATION"]
  | logEnabled => ["LOGGING", "ENABLED"]
  | logLevel => ["LOGGING", "LEVEL"]
  | logJson => ["LOGGING", "JSON_FORMAT"]
  | metricsEnabled => ["METRICS", "ENABLED"]
  | metricsAddress => ["METRICS", "ADDR"]

/-- Only a header has more than one name. -/
theorem eq_parts_of_ofParts? {ps : List String} {s : Setting} (h : ofParts? ps = some s) :
    (∃ header, s = defaultHeader header) ∨ ps = s.parts := by
  unfold ofParts? at h
  split at h <;> cases h <;> first | exact .inl ⟨_, rfl⟩ | exact .inr rfl

end Setting

namespace Variable

variable {stem name value reason : String} {a b : String × String} {c : Configuration}
  {vars : List (String × String)}

theorem splitParts_ne_nil (cs : List Char) : splitParts cs ≠ [] := by
  fun_cases splitParts cs <;> simp

theorem intercalate_splitParts (cs : List Char) :
    ['_', '_'].intercalate (splitParts cs) = cs := by
  fun_induction splitParts cs with
  | case1 => rfl
  | case2 rest ih =>
    obtain ⟨part, parts, hparts⟩ := List.exists_cons_of_ne_nil (splitParts_ne_nil rest)
    rw [hparts] at ih ⊢
    rw [List.intercalate_cons_cons, ih]
    rfl
  | case3 c rest hc hnil ih => exact absurd hnil (splitParts_ne_nil rest)
  | case4 c rest hc part parts hparts ih =>
    rw [hparts] at ih
    cases parts with
    | nil => simpa using ih
    | cons next parts =>
      rw [List.intercalate_cons_cons] at ih ⊢
      rw [← ih]
      rfl

/-- The parts of a name give the name back. -/
theorem toList_of_partsAfter? {parts : List String} (h : partsAfter? stem name = some parts) :
    name.toList =
      stem.toList ++ ['_', '_'] ++ ['_', '_'].intercalate (parts.map String.toList) := by
  rw [partsAfter?] at h
  split at h
  · rename_i hlead
    obtain ⟨rest, hrest⟩ := List.isPrefixOf_iff_prefix.1 hlead
    obtain rfl := Option.some.inj h
    rw [← hrest, List.drop_left, List.map_map]
    simp [Function.comp_def, intercalate_splitParts]
  · cases h

theorem partsAfter?_inj {name' : String} {parts : List String}
    (h : partsAfter? stem name = some parts) (h' : partsAfter? stem name' = some parts) :
    name = name' := by
  apply String.toList_inj.1
  rw [toList_of_partsAfter? h, toList_of_partsAfter? h']

/-- Names without the stem and two underscores have no parts. -/
theorem partsAfter?_eq_none_iff :
    partsAfter? stem name = none ↔ ¬ stem.toList ++ ['_', '_'] <+: name.toList := by
  rw [partsAfter?, ← List.isPrefixOf_iff_prefix]
  split <;> simp_all

/-- The setting that a name stands for. -/
def setting? (stem name : String) : Option Setting := (partsAfter? stem name).bind Setting.ofParts?

/-- What a variable does to every configuration; an error says what is wrong with it. -/
def change (stem : String) (a : String × String) :
    Except String (Configuration → Configuration) :=
  match partsAfter? stem a.1 with
  | none => .error "invalid key format"
  | some parts =>
    match Setting.ofParts? parts with
    | none => .ok id
    | some s => (s.read a.2).map fun v c => s.put c v

/-- Whether a variable is accepted does not depend on the configuration. -/
theorem value_apply (stem : String) (a : String × String) (c : Configuration) :
    (apply stem a.1 a.2 c).value =
      match change stem a with
      | .ok f => .ok (f c)
      | .error reason => .error (.badVariable a.1 reason) := by
  rw [apply, change]
  cases partsAfter? stem a.1 with
  | none => rfl
  | some parts =>
    cases hsetting : Setting.ofParts? parts with
    | none => simp only [hsetting]; rfl
    | some s =>
      simp only [hsetting, Setting.apply_eq]
      cases s.read a.2 <;> rfl

/-- What a variable does to a configuration if it is accepted. -/
def effect (stem : String) (a : String × String) : Configuration → Configuration :=
  match change stem a with
  | .ok f => f
  | .error _ => id

/-- The variable is accepted, whatever the configuration. -/
def Accepted (stem : String) (a : String × String) : Prop := ∃ f, change stem a = .ok f

theorem accepted_iff : Accepted stem a ↔ ∃ c', (apply stem a.1 a.2 c).value = .ok c' := by
  rw [value_apply, Accepted]
  cases change stem a <;> simp

theorem Accepted.value_apply (h : Accepted stem a) (c : Configuration) :
    (apply stem a.1 a.2 c).value = .ok (effect stem a c) := by
  obtain ⟨f, hf⟩ := h
  rw [Variable.value_apply, effect, hf]

/-- Variables are applied one after another up to the first that is refused. -/
theorem value_applyAll (stem : String) (vars : List (String × String)) (c : Configuration) :
    ((∀ a ∈ vars, Accepted stem a) ∧
        (applyAll stem vars c).value = .ok (vars.foldl (fun c a => effect stem a c) c)) ∨
      ∃ a ∈ vars, ∃ reason, change stem a = .error reason ∧
        (applyAll stem vars c).value = .error (.badVariable a.1 reason) := by
  induction vars generalizing c with
  | nil => exact .inl ⟨fun a ha => absurd ha List.not_mem_nil, rfl⟩
  | cons a rest ih =>
    rw [applyAll, Logged.value_bind, value_apply]
    cases hchange : change stem a with
    | error reason => exact .inr ⟨a, List.mem_cons_self, reason, hchange, rfl⟩
    | ok f =>
      have hf : effect stem a c = f c := by rw [effect, hchange]
      rcases ih (f c) with ⟨hrest, hvalue⟩ | ⟨b, hb, reason, hreason, hvalue⟩
      · refine .inl ⟨?_, ?_⟩
        · exact List.forall_mem_cons.2 ⟨⟨f, hchange⟩, hrest⟩
        · rw [List.foldl_cons, hf]
          exact hvalue
      · exact .inr ⟨b, List.mem_cons_of_mem _ hb, reason, hreason, hvalue⟩

/-- Two variables that give one header different values. -/
def Collide (stem : String) (a b : String × String) : Prop :=
  ∃ header, setting? stem a.1 = some (.defaultHeader header) ∧
    setting? stem b.1 = some (.defaultHeader header) ∧ a.2 ≠ b.2

/-- An accepted variable either names no setting or sets one. -/
theorem Accepted.cases (h : Accepted stem a) :
    (setting? stem a.1 = none ∧ effect stem a = id) ∨
      ∃ s v, setting? stem a.1 = some s ∧ s.read a.2 = .ok v ∧
        effect stem a = fun c => s.put c v := by
  obtain ⟨f, hf⟩ := h
  rw [effect, hf, setting?]
  rw [change] at hf
  split at hf
  · cases hf
  · rename_i parts hparts
    rw [hparts, Option.bind_some]
    split at hf
    · rename_i hnone
      exact .inl ⟨hnone, (Except.ok.inj hf).symm⟩
    · rename_i s hs
      obtain ⟨v, hv, rfl⟩ := Except.map_eq_ok_iff.1 hf
      exact .inr ⟨s, v, hs, hv, rfl⟩

/-- A variable changes the leaf setting that it names and no other. -/
theorem get_effect {x : Leaf} (ha : Accepted stem a)
    (hx : ∀ s, setting? stem a.1 = some s → s.leaf ≠ x) (c : Configuration) :
    x.form.get (effect stem a c) = x.form.get c := by
  rcases ha.cases with ⟨-, heffect⟩ | ⟨s, v, hs, -, heffect⟩
  · rw [heffect]
    rfl
  · rw [heffect]
    exact Setting.get_put_of_ne (hx s hs) v c

/-- Two names of one setting other than a header are the same. -/
theorem setting?_inj {name' : String} {s : Setting} (h : setting? stem name = some s)
    (h' : setting? stem name' = some s) : (∃ header, s = .defaultHeader header) ∨ name = name' := by
  obtain ⟨parts, hparts, hs⟩ := Option.bind_eq_some_iff.1 h
  obtain ⟨parts', hparts', hs'⟩ := Option.bind_eq_some_iff.1 h'
  rcases Setting.eq_parts_of_ofParts? hs with hheader | rfl
  · exact .inl hheader
  · rcases Setting.eq_parts_of_ofParts? hs' with hheader | rfl
    · exact .inl hheader
    · exact .inr (partsAfter?_inj hparts hparts')

/-- Two variables that do not collide can be applied in either order. -/
theorem effect_comm (hne : a.1 ≠ b.1) (ha : Accepted stem a) (hb : Accepted stem b)
    (hab : ¬ Collide stem a b) (c : Configuration) :
    effect stem b (effect stem a c) = effect stem a (effect stem b c) := by
  rcases ha.cases with ⟨-, ha⟩ | ⟨s, v, hs, hv, ha⟩
  · rw [ha]
    rfl
  rcases hb.cases with ⟨-, hb⟩ | ⟨t, w, ht, hw, hb⟩
  · rw [hb]
    rfl
  rw [ha, hb]
  by_cases hst : s = t
  · subst hst
    rcases setting?_inj hs ht with ⟨header, rfl⟩ | hname
    · have hvalue : a.2 = b.2 := Classical.not_not.1 fun h => hab ⟨header, hs, ht, h⟩
      have hvw : v = w := Except.ok.inj (hv.symm.trans ((congrArg _ hvalue).trans hw))
      rw [hvw]
    · exact absurd hname hne
  · exact Setting.put_comm hst v w c

/-- The value of the header of a variable afterwards is that of the variable. -/
theorem effect_header {header : String} (h : setting? stem a.1 = some (.defaultHeader header))
    (c : Configuration) : effect stem a c = c.addHeader header a.2 := by
  obtain ⟨parts, hparts, hs⟩ := Option.bind_eq_some_iff.1 h
  simp only [effect, change, hparts, hs]
  rfl

/-- Of two variables that collide the later one wins, so that their order matters. -/
theorem Collide.effect (h : Collide stem a b) (c : Configuration) :
    effect stem b (effect stem a c) = effect stem b c ∧ effect stem a c ≠ effect stem b c := by
  obtain ⟨header, ha, hb, hvalue⟩ := h
  rw [effect_header ha, effect_header hb, effect_header hb]
  refine ⟨Setting.put_put (.defaultHeader header) a.2 b.2 c, fun heq => hvalue ?_⟩
  have hheader := congrArg (fun c => Entries.get? header c.writer.defaultHeaders) heq
  simpa [Configuration.addHeader, Entries.get?_insert] using hheader

theorem Collide.symm (h : Collide stem a b) : Collide stem b a := by
  obtain ⟨header, ha, hb, hvalue⟩ := h
  exact ⟨header, hb, ha, hvalue.symm⟩

/-- Both orders of two accepted variables are accepted. -/
theorem apply_twice {ca cb : Configuration} (hne : a.1 ≠ b.1)
    (ha : (apply stem a.1 a.2 c).value = .ok ca) (hb : (apply stem b.1 b.2 c).value = .ok cb) :
    ∃ cab cba, (apply stem b.1 b.2 ca).value = .ok cab ∧ (apply stem a.1 a.2 cb).value = .ok cba ∧
      (cab = cba ↔ ¬ Collide stem a b) ∧ (Collide stem a b → cab = cb ∧ cba = ca) := by
  have hacc : Accepted stem a := accepted_iff.2 ⟨ca, ha⟩
  have hbcc : Accepted stem b := accepted_iff.2 ⟨cb, hb⟩
  rw [hacc.value_apply] at ha
  rw [hbcc.value_apply] at hb
  obtain rfl := Except.ok.inj ha
  obtain rfl := Except.ok.inj hb
  have hlater (h : Collide stem a b) :
      effect stem b (effect stem a c) = effect stem b c ∧
        effect stem a (effect stem b c) = effect stem a c :=
    ⟨(h.effect c).1, (h.symm.effect c).1⟩
  refine ⟨_, _, hbcc.value_apply _, hacc.value_apply _, ⟨fun heq h => ?_, fun h => ?_⟩, hlater⟩
  · obtain ⟨hab, hba⟩ := hlater h
    exact (h.effect c).2 (hba.symm.trans (heq.symm.trans hab))
  · exact effect_comm hne hacc hbcc h c

/-- Variables that are accepted and do not collide can be applied in any order. -/
theorem value_applyAll_perm {vars' : List (String × String)} (hperm : vars.Perm vars')
    (hnames : (vars.map Prod.fst).Nodup) (haccepted : ∀ a ∈ vars, Accepted stem a)
    (hcollide : ∀ a ∈ vars, ∀ b ∈ vars, ¬ Collide stem a b) (c : Configuration) :
    (applyAll stem vars c).value = (applyAll stem vars' c).value := by
  have happly {vars : List (String × String)} (h : ∀ a ∈ vars, Accepted stem a) :
      (applyAll stem vars c).value = .ok (vars.foldl (fun c a => effect stem a c) c) := by
    rcases value_applyAll stem vars c with ⟨-, hvalue⟩ | ⟨a, ha, reason, hreason, -⟩
    · exact hvalue
    · obtain ⟨f, hf⟩ := h a ha
      rw [hf] at hreason
      cases hreason
  rw [happly haccepted, happly fun a ha => haccepted a (hperm.mem_iff.2 ha)]
  refine congrArg Except.ok (hperm.foldl_eq' (fun a ha b hb c => ?_) c)
  by_cases hab : a = b
  · rw [hab]
  · have hne : a.1 ≠ b.1 := fun h => hab (List.inj_on_of_nodup_map hnames ha hb h)
    exact effect_comm hne (haccepted a ha) (haccepted b hb) (hcollide a ha b hb) c

end Variable

namespace Loader

open Variable

variable {l : Loader} {stem name : String} {environment environment' : Entries String}

/-- The variables of an environment that belong to a stem. -/
def relevant (stem : String) (environment : Entries String) : Entries String :=
  environment.filter fun (name, _) => stem.toList.isPrefixOf name.toList

theorem value_load (hstem : l.stem = some stem) (environment : Entries String) :
    (l.load environment).value =
      (applyAll stem (relevant stem environment) l.config).value.bind fun c =>
        c.validate.map fun _ => c := by
  rw [load, hstem]
  rfl

theorem mem_relevant_iff {a : String × String} :
    a ∈ relevant stem environment ↔ a ∈ environment ∧ stem.toList <+: a.1.toList := by
  rw [relevant, List.mem_filter, List.isPrefixOf_iff_prefix]

/-- What is loaded does not depend on the order of the variables if they are accepted and do not
    collide. -/
theorem value_load_perm (hstem : l.stem = some stem) (hperm : environment.Perm environment')
    (hnames : environment.keys.Nodup)
    (haccepted : ∀ a ∈ environment, stem.toList <+: a.1.toList →
      ∃ c, (apply stem a.1 a.2 l.config).value = .ok c)
    (hcollide : ∀ a ∈ environment, ∀ b ∈ environment, ¬ Collide stem a b) :
    (l.load environment).value = (l.load environment').value := by
  have hnames' : ((relevant stem environment).map Prod.fst).Nodup :=
    hnames.sublist (List.filter_sublist.map _)
  have haccepted' : ∀ a ∈ relevant stem environment, Accepted stem a := fun a ha =>
    have ⟨hmem, hlead⟩ := mem_relevant_iff.1 ha
    accepted_iff.2 (haccepted a hmem hlead)
  have hcollide' : ∀ a ∈ relevant stem environment, ∀ b ∈ relevant stem environment,
      ¬ Collide stem a b := fun a ha b hb =>
    hcollide a (mem_relevant_iff.1 ha).1 b (mem_relevant_iff.1 hb).1
  have hperm' : (relevant stem environment).Perm (relevant stem environment') := hperm.filter _
  rw [value_load hstem, value_load hstem,
    value_applyAll_perm hperm' hnames' haccepted' hcollide']

/-- Two variables with different names that are both accepted are accepted in either order, and
    both orders give the same configuration unless the variables give one header different values;
    then the later one wins.  Hence what is loaded does not depend on the order of the variables
    if all of them are accepted and no two collide. -/
theorem variables_in_any_order (l : Loader) (stem : String) :
    (∀ {a b : String × String} {ca cb : Configuration}, a.1 ≠ b.1 →
      (apply stem a.1 a.2 l.config).value = .ok ca →
      (apply stem b.1 b.2 l.config).value = .ok cb →
      ∃ cab cba, (apply stem b.1 b.2 ca).value = .ok cab ∧
        (apply stem a.1 a.2 cb).value = .ok cba ∧
        (cab = cba ↔ ¬ Collide stem a b) ∧ (Collide stem a b → cab = cb ∧ cba = ca)) ∧
    (∀ {environment environment' : Entries String}, l.stem = some stem →
      environment.Perm environment' → environment.keys.Nodup →
      (∀ a ∈ environment, stem.toList <+: a.1.toList →
        ∃ c, (apply stem a.1 a.2 l.config).value = .ok c) →
      (∀ a ∈ environment, ∀ b ∈ environment, ¬ Collide stem a b) →
      (l.load environment).value = (l.load environment').value) :=
  ⟨fun hne ha hb => apply_twice hne ha hb, fun hstem hperm hnames haccepted hcollide =>
    value_load_perm hstem hperm hnames haccepted hcollide⟩

/-- The wrap mode and a header in either order. -/
theorem variables_in_any_order_mode_header :
    let l := Loader.new.useVariables usualStem
    let mode := ("HYPATIA__RESPONSE_WRITER__WRAP_MODE", "Body")
    let header := ("HYPATIA__RESPONSE_WRITER__DEFAULT_HEADERS__X_A", "1")
    (∃ c cm ch, (apply "HYPATIA" mode.1 mode.2 l.config).value = .ok cm ∧
      (apply "HYPATIA" header.1 header.2 l.config).value = .ok ch ∧
      (apply "HYPATIA" header.1 header.2 cm).value = .ok c ∧
      (apply "HYPATIA" mode.1 mode.2 ch).value = .ok c) ∧
    (l.load [mode, header]).value = (l.load [header, mode]).value := by
  intro l mode header
  have hmode : setting? "HYPATIA" mode.1 = some .wrapMode := by decide +kernel
  have hdistinct : ¬ Collide "HYPATIA" mode header := by
    rintro ⟨name, h, -⟩
    rw [hmode] at h
    cases h
  have happly (a : String × String) (ha : a ∈ [mode, header]) :
      ∃ c, (apply "HYPATIA" a.1 a.2 l.config).value = .ok c := by
    rcases List.mem_pair.1 ha with rfl | rfl
    · exact ⟨{ Configuration.standard with
        writer := { WriterSection.standard with wrapMode := .body } }, by decide +kernel⟩
    · exact ⟨Configuration.standard.addHeader "x-a" "1", by decide +kernel⟩
  have hcollide : ∀ a ∈ [mode, header], ∀ b ∈ [mode, header], ¬ Collide "HYPATIA" a b := by
    intro a ha b hb h
    rcases List.mem_pair.1 ha with rfl | rfl <;> rcases List.mem_pair.1 hb with rfl | rfl
    · exact h.choose_spec.2.2 rfl
    · exact hdistinct h
    · exact hdistinct h.symm
    · exact h.choose_spec.2.2 rfl
  obtain ⟨cm, hcm⟩ := happly mode (List.mem_cons_self)
  obtain ⟨ch, hch⟩ := happly header (by simp)
  have horder := variables_in_any_order l "HYPATIA"
  constructor
  · obtain ⟨c, c', hc, hc', heq, -⟩ := horder.1 (by decide) hcm hch
    obtain rfl := heq.2 hdistinct
    exact ⟨c, cm, ch, hcm, hch, hc, hc'⟩
  · exact horder.2 (by decide +kernel) (List.Perm.swap _ _ _) (by decide)
      (fun a ha _ => happly a ha) hcollide

/-- Two names of the header `x-a`, so that the order of their variables matters. -/
theorem header_variables_do_not_commute :
    ¬ ∀ (c : Configuration) (stem : String) (a b : String × String) (ca cb cab cba : Configuration),
      a.1 ≠ b.1 →
      (apply stem a.1 a.2 c).value = .ok ca → (apply stem b.1 b.2 c).value = .ok cb →
      (apply stem b.1 b.2 ca).value = .ok cab → (apply stem a.1 a.2 cb).value = .ok cba →
      cab = cba := by
  intro h
  have hsame := h .standard "HYPATIA"
    ("HYPATIA__RESPONSE_WRITER__DEFAULT_HEADERS__X_A", "1")
    ("HYPATIA__RESPONSE_WRITER__DEFAULT_HEADERS__x_a", "2")
    (Configuration.standard.addHeader "x-a" "1") (Configuration.standard.addHeader "x-a" "2")
    (Configuration.standard.addHeader "x-a" "2") (Configuration.standard.addHeader "x-a" "1")
    (by decide) (by decide +kernel) (by decide +kernel) (by decide +kernel) (by decide +kernel)
  exact absurd hsame (by decide)

/-- A variable that belongs to the stem and is refused keeps everything from being loaded.  The
    error is about it or about another variable that is refused. -/
theorem value_load_of_refused {a : String × String} {reason : String} (hstem : l.stem = some stem)
    (ha : a ∈ environment) (hlead : stem.toList <+: a.1.toList)
    (hrefused : change stem a = .error reason) :
    ∃ b ∈ environment, ∃ reason, change stem b = .error reason ∧
      (l.load environment).value = .error (.badVariable b.1 reason) := by
  rw [value_load hstem]
  rcases value_applyAll stem (relevant stem environment) l.config with
    ⟨haccepted, -⟩ | ⟨b, hb, reason, hreason, hvalue⟩
  · obtain ⟨f, hf⟩ := haccepted a (mem_relevant_iff.2 ⟨ha, hlead⟩)
    rw [hrefused] at hf
    cases hf
  · rw [hvalue]
    exact ⟨b, (mem_relevant_iff.1 hb).1, reason, hreason, rfl⟩

/-- Only variables that belong to the stem are looked at. -/
theorem load_insert_of_foreign (hstem : l.stem = some stem)
    (hlead : ¬ stem.toList <+: name.toList) (value : String) (environment : Entries String) :
    l.load (environment.insert name value) = l.load environment := by
  have hdropped : ∀ v : String, stem.toList.isPrefixOf (name, v).1.toList = false := fun _ =>
    Bool.eq_false_iff.2 fun h => hlead (List.isPrefixOf_iff_prefix.1 h)
  simp only [load, hstem, applyEnvironment]
  rw [Entries.filter_insert_of_dropped hdropped]

/-- A variable whose name is not the stem, two underscores and more changes nothing if its name
    does not start with the stem.  If it does then nothing can be loaded: the error is that the
    name is no name of a setting, unless another variable has been refused first. -/
theorem load_insert_of_not_named (hstem : l.stem = some stem)
    (hname : ¬ stem.toList ++ ['_', '_'] <+: name.toList) (value : String)
    (environment : Entries String) :
    (¬ stem.toList <+: name.toList →
      l.load (environment.insert name value) = l.load environment) ∧
    (stem.toList <+: name.toList →
      ∃ e, (l.load (environment.insert name value)).value = .error e ∧
        (e = .badVariable name "invalid key format" ∨
          ∃ other ∈ environment, ∀ c, (apply stem other.1 other.2 c).value = .error e)) := by
  refine ⟨fun hlead => load_insert_of_foreign hstem hlead value environment, fun hlead => ?_⟩
  have hrefused (value : String) : change stem (name, value) = .error "invalid key format" := by
    rw [change, partsAfter?_eq_none_iff.2 hname]
  obtain ⟨b, hb, reason, hreason, hload⟩ :=
    value_load_of_refused hstem (Entries.mem_insert_self name value environment) hlead
      (hrefused value)
  refine ⟨_, hload, ?_⟩
  rcases Entries.mem_insert hb with rfl | hb
  · rw [hrefused value] at hreason
    rw [Except.error.inj hreason]
    exact .inl rfl
  · refine .inr ⟨b, hb, fun c => ?_⟩
    rw [value_apply, hreason]

/-- A variable of another program, and one whose name only starts like those of the loader. -/
theorem load_insert_of_not_named_path_home :
    let l := Loader.new.useVariables usualStem
    l.load (Entries.insert "PATH" "/bin" []) = l.load [] ∧
      (l.load (Entries.insert "HYPATIA_HOME" "/opt" [])).value =
        .error (.badVariable "HYPATIA_HOME" "invalid key format") := by
  intro l
  have hstem : l.stem = some "HYPATIA" := by decide +kernel
  have hhome : ¬ "HYPATIA".toList ++ ['_', '_'] <+: "HYPATIA_HOME".toList := by decide
  refine ⟨(load_insert_of_not_named hstem (by decide) "/bin" []).1 (by decide), ?_⟩
  obtain ⟨e, he, rfl | ⟨other, hother, -⟩⟩ :=
    (load_insert_of_not_named hstem hhome "/opt" []).2 (by decide)
  · exact he
  · cases hother

/-- A name that goes on with one underscore. -/
theorem load_depends_on_lookalike :
    ¬ ∀ (l : Loader) (stem name value : String) (environment : Entries String),
      l.stem = some stem → ¬ stem.toList ++ ['_', '_'] <+: name.toList →
      (l.load (environment.insert name value)).value = (l.load environment).value := by
  intro h
  have hsame := h (Loader.new.useVariables usualStem) "HYPATIA" "HYPATIA_HOME" "/opt" []
    (by decide +kernel) (by decide)
  have hempty : ((Loader.new.useVariables usualStem).load []).value = .ok .standard := by
    decide +kernel
  have hhome : ((Loader.new.useVariables usualStem).load [("HYPATIA_HOME", "/opt")]).value =
      .error (.badVariable "HYPATIA_HOME" "invalid key format") := by
    decide +kernel
  rw [hempty] at hsame
  cases hsame.symm.trans hhome

end Loader

end Endpoint
