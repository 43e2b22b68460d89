import Endpoint.Proofs.Config.Leaf

/-!
# Configurations as they are written

The JSON form of a configuration has each leaf setting at its place, in a form that is read as
nothing else.  Of a configuration whose maps are in order the form is, too.
-/

namespace Endpoint

/-- The maps are in order. -/
structure Configuration.Canonical (c : Configuration) : Prop where
  headers : c.writer.defaultHeaders.Sorted
  events : (c.faults.messages.map Prod.fst).Sublist FaultEvent.all
  statuses : c.faults.httpMessages.Sorted
  components : c.logging.componentLevels.Sorted

namespace Json

theorem get?_object (name : String) (pairs : List (String × Json)) :
    (object pairs).get? name = Entries.get? name pairs.reverse :=
  Entries.get?_ofList name pairs

theorem objectsTo_object (name : String) (rest : List String) (pairs : List (String × Json)) :
    (object pairs).ObjectsTo (name :: rest) ↔
      ∀ v, Entries.get? name pairs.reverse = some v → v.ObjectsTo rest := by
  rw [ObjectsTo, get?_object]
  exact and_iff_right rfl

theorem objectsTo_nil (j : Json) : j.ObjectsTo [] := trivial

theorem objectsTo_obj (name : String) (entries : Entries Json) :
    (obj entries).ObjectsTo [name] :=
  ⟨rfl, fun _ _ => trivial⟩

theorem locate_object (field : Field) (rest : List Field) (pairs : List (String × Json)) :
    (object pairs).locate (field :: rest) =
      (Entries.get? field.1 pairs.reverse).bind (locate rest) :=
  congrArg (Option.bind · (locate rest)) (Entries.get?_ofList field.1 pairs)

theorem locate_nil (j : Json) : j.locate [] = some j := rfl

theorem locate_entry (key : String) (index : Nat) (entries : Entries String) :
    (obj (Entries.mapValues str entries)).locate [(key, index)] =
      (Entries.get? key entries).map str := by
  rw [locate_singleton]
  exact Entries.get?_mapValues str key entries

end Json

namespace FaultSection

theorem nodup_allEvents : FaultEvent.all.Nodup := by decide

theorem name_injective {e e' : FaultEvent} (h : e.name = e'.name) : e = e' := by
  revert h
  cases e <;> cases e' <;> decide

/-- The wording of an event is written under its name. -/
theorem get?_messages {messages : List (FaultEvent × Wording)}
    (hevents : (messages.map Prod.fst).Sublist FaultEvent.all) (event : FaultEvent) :
    (Json.object (messages.map fun (e, w) => (e.name, w.toJson))).get? event.name =
      (messages.lookup event).map Wording.toJson := by
  have hkeys : Entries.keys (messages.map fun (e, w) => (e.name, w.toJson)) =
      (messages.map Prod.fst).map FaultEvent.name := by
    simp [Entries.keys, Function.comp_def]
  have hnodup := hkeys ▸ (nodup_allEvents.sublist hevents).map fun _ _ => name_injective
  rw [Json.get?_object, Entries.get?_reverse_of_nodup hnodup]
  clear hevents hkeys hnodup
  induction messages with
  | nil => rfl
  | cons m rest ih =>
    obtain ⟨e, w⟩ := m
    by_cases he : event = e
    · subst he
      simp [Entries.get?]
    · have hname : e.name ≠ event.name := fun h => he (name_injective h).symm
      have hne : (event == e) = false := beq_false_of_ne he
      simpa [Entries.get?, hname, List.lookup_cons, hne] using ih

end FaultSection

namespace Leaf

open Decoder

variable {c : Configuration}

/-- A leaf setting is written at its place. -/
theorem locate_toJson (hc : c.Canonical) (x : Leaf) :
    c.toJson.locate x.form.place = x.form.encode (x.form.get c) := by
  cases x with
  | defaultHeader name =>
    simp [form, Form.entry, Configuration.toJson, WriterSection.toJson, Json.locate_object,
      Entries.get?, Json.locate_entry]
  | httpMessage status =>
    simp [form, Form.entry, Configuration.toJson, FaultSection.toJson, Json.locate_object,
      Entries.get?, Json.locate_entry]
  | componentLevel component =>
    simp [form, Form.entry, Configuration.toJson, LogSettings.toJson, Json.locate_object,
      Entries.get?, Json.locate_entry]
  | wording event =>
    have hmessages : (Json.object (c.faults.messages.map fun (e, w) => (e.name, w.toJson))).locate
        [(event.name, 0)] = (c.faults.messages.lookup event).map Wording.toJson := by
      rw [Json.locate_singleton]
      exact FaultSection.get?_messages hc.events event
    simpa [form, Configuration.toJson, FaultSection.toJson, Json.locate_object, Entries.get?]
      using hmessages
  | _ =>
    simp [form, Form.text, Form.flag, Configuration.toJson, WriterSection.toJson,
      WrapperSection.toJson, MarshalSection.toJson, HandlerSection.toJson, LogSettings.toJson,
      MetricsSettings.toJson, Json.locate_object, Entries.get?, Json.locate_nil]

/-- There are only objects on the way to a leaf setting. -/
theorem objectsTo_toJson (c : Configuration) (x : Leaf) : c.toJson.ObjectsTo x.path := by
  cases x <;>
    simp [path, form, Form.entry, Form.text, Form.flag, Json.names, Configuration.toJson,
      WriterSection.toJson, FaultSection.toJson, WrapperSection.toJson, MarshalSection.toJson,
      HandlerSection.toJson, LogSettings.toJson, MetricsSettings.toJson, Json.objectsTo_object,
      Json.objectsTo_obj, Json.objectsTo_nil, Entries.get?]

/-- What is written for a leaf setting is no object. -/
theorem isObject_encode (x : Leaf) {v : x.form.Value} {j : Json} (h : x.form.encode v = some j) :
    j.isObject = false := by
  cases x with
  | defaultHeader | httpMessage | componentLevel | wording =>
    obtain ⟨w, -, rfl⟩ := Option.map_eq_some_iff.1 h
    rfl
  | _ => exact Option.some.inj h ▸ rfl

/-- What is written is read as nothing else. -/
def Form.Faithful (f : Form) : Prop :=
  ∀ v y : f.Value,
    withDefault (f.get .standard) f.decode ((f.encode v).map .ofJson) = some y → y = v

theorem Form.faithful_flag (place : List Json.Field) (get : Configuration → Bool) :
    (flag place get).Faithful := fun _ _ h => (Option.some.inj h).symm

theorem Form.faithful_text (place : List Json.Field) (get : Configuration → String) :
    (text place get).Faithful := fun _ _ h => (Option.some.inj h).symm

theorem Form.faithful_entry (map : List Json.Field) (key : String)
    {get : Configuration → Entries String} (hget : get .standard = []) :
    (entry map key get).Faithful := by
  intro v y h
  cases v with
  | none =>
    have husual : (entry map key get).get .standard = none := by
      exact congrArg (Entries.get? key) hget
    exact (Option.some.inj h).symm.trans husual
  | some s => exact (Option.some.inj h).symm

theorem eq_of_decode_list {α : Type} {d : Decoder α} {encode : α → Json}
    (hd : ∀ a b, d (.ofJson (encode a)) = some b → b = a) {as bs : List α}
    (h : list d (.ofJson (.arr (as.map encode))) = some bs) : bs = as := by
  rw [Document.ofJson, list, Document.ofItems_eq, List.map_map] at h
  have hall := List.forall₂_map_left_iff.1 (forall₂_of_mapM h)
  have heq : List.Forall₂ (fun a b => a = b) as bs := hall.imp fun a b hab => (hd a b hab).symm
  exact (List.forall₂_eq_eq_eq ▸ heq).symm

theorem ofText?_name (category : Category) : Category.ofText? category.name = some category := by
  cases category <;> decide +kernel

theorem decode_errorDefinition (d : ErrorDefinition) :
    ErrorDefinition.decode (.ofJson d.toJson) = some d := by
  have hcategory : ServiceError.decodeCategory (.str d.category.name) = some d.category := by
    rw [ServiceError.decodeCategory, Decoder.string, Option.bind_some, ofText?_name]
  have hfields : Decoder.fields true ["category", "code", "message"] (.ofJson d.toJson) =
      some [some (.str d.category.name), some (.str d.code), some (.str d.message)] := by
    rfl
  rw [ErrorDefinition.decode, hfields]
  simp [hcategory, Decoder.required, Decoder.string]

theorem faithful (x : Leaf) : x.form.Faithful := by
  cases x with
  | defaultHeader | httpMessage | componentLevel => exact Form.faithful_entry _ _ rfl
  | wrapMode =>
    intro v y h
    have hmode : WrapMode.ofName? (WrapMode.name v) = some v := by
      cases v <;> rfl
    exact Option.some.inj (h.symm.trans hmode)
  | wording event =>
    intro v y h
    cases v with
    | none => exact (Option.some.inj h).symm
    | some w => exact (Option.some.inj h).symm
  | serviceErrors =>
    intro v y h
    refine eq_of_decode_list (fun d d' hd => ?_) h
    rw [decode_errorDefinition] at hd
    exact (Option.some.inj hd).symm
  | durationBuckets =>
    intro v y h
    refine eq_of_decode_list (fun bound bound' hbound => ?_) h
    rw [Document.ofJson] at hbound
    split at hbound
    · exact (Option.some.inj hbound).symm
    · cases hbound
  | bodyField | errorsField | indent | logLevel | metricsAddress => exact Form.faithful_text _ _
  | _ => exact Form.faithful_flag _ _

end Leaf

namespace Configuration

open Decoder

variable {c : Configuration}

theorem sorted_of_entries {α : Type} {d : Decoder α} {x : Document} {es : Entries α}
    (h : entries d x = some es) : es.Sorted := by
  rw [entries.eq_def] at h
  split at h
  · obtain ⟨pairs, -, rfl⟩ := Option.map_eq_some_iff.1 h
    exact Entries.sorted_ofList pairs
  · cases h

/-- The events that have something are in the order of all events. -/
theorem sublist_filterMap (f : FaultEvent → Option Wording) (events : List FaultEvent) :
    ((events.filterMap fun e => (f e).map fun w => (e, w)).map Prod.fst).Sublist events := by
  induction events with
  | nil => exact List.Sublist.slnil
  | cons e rest ih =>
    rw [List.filterMap_cons]
    cases f e with
    | none => exact ih.cons e
    | some w => exact ih.cons_cons e

theorem sublist_of_wordingsOf? {named : Entries Wording}
    {messages : List (FaultEvent × Wording)}
    (h : FaultSection.wordingsOf? named = some messages) :
    (messages.map Prod.fst).Sublist FaultEvent.all := by
  rw [FaultSection.wordingsOf?] at h
  split at h
  · obtain rfl := Option.some.inj h
    exact sublist_filterMap _ _
  · cases h

theorem canonical_standard : standard.Canonical :=
  ⟨Entries.sorted_nil, List.nil_sublist _, Entries.sorted_nil, Entries.sorted_nil⟩

theorem canonical_development : development.Canonical :=
  ⟨Entries.sorted_nil, List.nil_sublist _, Entries.sorted_nil, Entries.sorted_nil⟩

theorem canonical_production : production.Canonical :=
  ⟨Entries.sorted_nil, List.nil_sublist _, Entries.sorted_nil, Entries.sorted_nil⟩

/-- A configuration that is read is in order. -/
theorem canonical_of_decode {j : Json} (h : decode (.ofJson j) = some c) : c.Canonical := by
  have hread := readFrom_of_decode h
  refine ⟨?_, ?_, ?_, ?_⟩
  · refine of_fieldOf (P := fun s : WriterSection => s.defaultHeaders.Sorted) hread.writer
      Entries.sorted_nil fun v hwriter => ?_
    exact of_fieldOf (WriterSection.readFrom_of_decode hwriter).defaultHeaders Entries.sorted_nil
      fun _ => sorted_of_entries
  · refine of_fieldOf
      (P := fun s : FaultSection => (s.messages.map Prod.fst).Sublist FaultEvent.all) hread.faults
      (List.nil_sublist _) fun v hfaults => ?_
    refine of_fieldOf
      (P := fun messages : List (FaultEvent × Wording) =>
        (messages.map Prod.fst).Sublist FaultEvent.all)
      (FaultSection.readFrom_of_decode hfaults).messages (List.nil_sublist _)
      fun v hmessages => ?_
    obtain ⟨named, -, hwordings⟩ := Option.bind_eq_some_iff.1 hmessages
    exact sublist_of_wordingsOf? hwordings
  · refine of_fieldOf (P := fun s : FaultSection => s.httpMessages.Sorted) hread.faults
      Entries.sorted_nil fun v hfaults => ?_
    exact of_fieldOf (FaultSection.readFrom_of_decode hfaults).httpMessages Entries.sorted_nil
      fun _ => sorted_of_entries
  · refine of_fieldOf (P := fun s : LogSettings => s.componentLevels.Sorted) hread.logging
      Entries.sorted_nil fun v hlogging => ?_
    exact of_fieldOf (LogSettings.readFrom_of_decode hlogging).componentLevels Entries.sorted_nil
      fun _ => sorted_of_entries

theorem sorted_strings {es : Entries String} (h : es.Sorted) :
    (Json.obj (Entries.mapValues .str es)).Sorted := by
  refine .obj (h.mapValues _) fun entry hentry => ?_
  obtain ⟨e, -, rfl⟩ := List.mem_map.1 hentry
  exact .str _

theorem sorted_list {α : Type} {encode : α → Json} (h : ∀ a, (encode a).Sorted) (as : List α) :
    (Json.arr (as.map encode)).Sorted := by
  refine .arr fun j hj => ?_
  obtain ⟨a, -, rfl⟩ := List.mem_map.1 hj
  exact h a

theorem sorted_messages (messages : List (FaultEvent × Wording)) :
    (Json.object (messages.map fun (e, w) => (e.name, w.toJson))).Sorted := by
  refine .object fun entry hentry => ?_
  obtain ⟨m, -, rfl⟩ := List.mem_map.1 hentry
  exact sorted_list Json.Sorted.str [m.2.code, m.2.template]

theorem sorted_errorDefinition (d : ErrorDefinition) : d.toJson.Sorted :=
  .object (by simp [Json.Sorted.str])

/-- A configuration whose maps are in order is written in order. -/
theorem Canonical.sorted_toJson (hc : c.Canonical) : c.toJson.Sorted := by
  have hwrapper : c.writer.wrapper.toJson.Sorted := .object (by simp [Json.Sorted.str])
  have hmarshal : c.writer.marshal.toJson.Sorted :=
    .object (by simp [Json.Sorted.str, Json.Sorted.bool])
  have hwriter : c.writer.toJson.Sorted :=
    .object (by simp [sorted_strings hc.headers, Json.Sorted.str, hwrapper, hmarshal])
  have hfaults : c.faults.toJson.Sorted :=
    .object (by simp [sorted_messages, sorted_strings hc.statuses])
  have herrors := sorted_list sorted_errorDefinition c.serviceErrors
  have hhandler : c.handler.toJson.Sorted := .object (by simp [Json.Sorted.bool])
  have hlogging : c.logging.toJson.Sorted :=
    .object (by simp [sorted_strings hc.components, Json.Sorted.str, Json.Sorted.bool])
  have hbuckets := sorted_list Json.Sorted.float c.metrics.durationBuckets
  have hmetrics : c.metrics.toJson.Sorted :=
    .object (by simp [Json.Sorted.str, Json.Sorted.bool, hbuckets])
  exact .object (by simp [hwriter, hfaults, herrors, hhandler, hlogging, hmetrics])

/-- Wordings in the order of their events are determined by what is found for each event. -/
theorem eq_filterMap_of_sublist {events : List FaultEvent} (hevents : events.Nodup)
    {messages : List (FaultEvent × Wording)} (h : (messages.map Prod.fst).Sublist events) :
    messages = events.filterMap fun e => (messages.lookup e).map fun w => (e, w) := by
  induction events generalizing messages with
  | nil => exact List.map_eq_nil_iff.1 (List.sublist_nil.1 h)
  | cons e rest ih =>
    obtain ⟨he, hrest⟩ := List.nodup_cons.1 hevents
    rw [List.filterMap_cons]
    cases hms : messages.map Prod.fst with
    | nil =>
      obtain rfl := List.map_eq_nil_iff.1 hms
      simp
    | cons e' events' =>
      rw [hms] at h
      cases h with
      | cons _ h =>
        have hnone : messages.lookup e = none := by
          refine List.lookup_eq_none_iff.2 fun m hm => ?_
          have hmem : m.1 ∈ rest := h.subset (hms ▸ List.mem_map_of_mem hm)
          have hne : e ≠ m.1 := fun heq => he (heq ▸ hmem)
          exact bne_iff_ne.2 hne
        rw [hnone]
        exact ih hrest (hms ▸ h)
      | cons_cons _ h =>
        obtain ⟨⟨e₁, w⟩, later, rfl, rfl, rfl⟩ := List.map_eq_cons_iff.1 hms
        have hlater : ∀ e ∈ rest, ((e₁, w) :: later).lookup e = later.lookup e := by
          intro e hmem
          have hne : (e == e₁) = false := beq_false_of_ne fun heq => he (heq ▸ hmem)
          rw [List.lookup_cons, hne]
        rw [List.filterMap_congr fun e hmem => congrArg _ (hlater e hmem), ← ih hrest h,
          List.lookup_cons_self]
        rfl

/-- A configuration whose maps are in order is determined by its leaf settings. -/
theorem Canonical.ext {c' : Configuration} (hc : c.Canonical) (hc' : c'.Canonical)
    (h : ∀ x : Leaf, x.form.get c = x.form.get c') : c = c' := by
  have hmessages : c.faults.messages = c'.faults.messages := by
    rw [eq_filterMap_of_sublist FaultSection.nodup_allEvents hc.events,
      eq_filterMap_of_sublist FaultSection.nodup_allEvents hc'.events]
    exact List.filterMap_congr fun e _ => congrArg (Option.map fun w => (e, w)) (h (.wording e))
  have hheaders := hc.headers.ext hc'.headers fun name => h (.defaultHeader name)
  have hstatuses := hc.statuses.ext hc'.statuses fun status => h (.httpMessage status)
  have hcomponents := hc.components.ext hc'.components fun name => h (.componentLevel name)
  obtain ⟨⟨_, _, ⟨_, _⟩, ⟨_, _⟩⟩, ⟨_, _⟩, _, ⟨_, _⟩, ⟨_, _, _, _, _, _, _⟩, ⟨_, _, _⟩⟩ := c
  obtain ⟨⟨_, _, ⟨_, _⟩, ⟨_, _⟩⟩, ⟨_, _⟩, _, ⟨_, _⟩, ⟨_, _, _, _, _, _, _⟩, ⟨_, _, _⟩⟩ := c'
  simp only [Configuration.mk.injEq, WriterSection.mk.injEq, WrapperSection.mk.injEq,
    MarshalSection.mk.injEq, FaultSection.mk.injEq, HandlerSection.mk.injEq, LogSettings.mk.injEq,
    MetricsSettings.mk.injEq]
  exact ⟨⟨hheaders, h .wrapMode, ⟨h .bodyField, h .errorsField⟩, h .prettyPrint, h .indent⟩,
    ⟨hmessages, hstatuses⟩, h .serviceErrors, ⟨h .autoBindQuery, h .requireAuthentication⟩,
    ⟨h .logEnabled, h .logLevel, hcomponents, h .logJson, h .spanEvents, h .fileLineInfo,
      h .includeTarget⟩,
    h .metricsEnabled, h .metricsAddress, h .durationBuckets⟩

end Configuration

end Endpoint
