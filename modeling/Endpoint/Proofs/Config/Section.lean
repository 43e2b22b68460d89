import Endpoint.Config.JsonForm
import Endpoint.Proofs.Json.Decoding

/-!
# The fields of sections

Each section that is read holds what its fields are read as, each field on its own, and the usual
value of a field that is missing.
-/

namespace Endpoint

open Decoder

variable {j : Json}

/-- What a field of a record is read as. -/
abbrev Decoder.fieldOf {α : Type} (j : Json) (field : Json.Field) (usual : α) (d : Decoder α) :
    Option α :=
  withDefault usual d ((j.field? field).map .ofJson)

/-- Either a field of a record is missing or it has been read. -/
theorem Decoder.of_fieldOf {α : Type} {P : α → Prop} {field : Json.Field} {usual : α}
    {d : Decoder α} {a : α} (h : fieldOf j field usual d = some a) (husual : P usual)
    (hd : ∀ v, d (.ofJson v) = some a → P a) : P a := by
  cases hv : j.field? field with
  | none =>
    rw [fieldOf, hv] at h
    exact Option.some.inj h ▸ husual
  | some v =>
    rw [fieldOf, hv] at h
    exact hd v h

namespace WrapperSection

structure ReadFrom (j : Json) (s : WrapperSection) : Prop where
  bodyField : fieldOf j ("body_field", 0) standard.bodyField string = some s.bodyField
  errorsField : fieldOf j ("errors_field", 1) standard.errorsField string = some s.errorsField

theorem readFrom_of_decode {s : WrapperSection} (h : decode (.ofJson j) = some s) :
    s.ReadFrom j := by
  obtain ⟨given, hgiven, h⟩ := Option.bind_eq_some_iff.1 h
  obtain rfl := fields_ofJson hgiven
  simp only [List.mapIdx_cons, List.mapIdx_nil] at h
  obtain ⟨body, hbody, h⟩ := Option.bind_eq_some_iff.1 h
  obtain ⟨errors, herrors, h⟩ := Option.bind_eq_some_iff.1 h
  obtain rfl := Option.some.inj h
  exact ⟨hbody, herrors⟩

end WrapperSection

namespace MarshalSection

structure ReadFrom (j : Json) (s : MarshalSection) : Prop where
  prettyPrint : fieldOf j ("pretty_print", 0) standard.prettyPrint bool = some s.prettyPrint
  indent : fieldOf j ("indent", 1) standard.indent string = some s.indent

theorem readFrom_of_decode {s : MarshalSection} (h : decode (.ofJson j) = some s) :
    s.ReadFrom j := by
  obtain ⟨given, hgiven, h⟩ := Option.bind_eq_some_iff.1 h
  obtain rfl := fields_ofJson hgiven
  simp only [List.mapIdx_cons, List.mapIdx_nil] at h
  obtain ⟨pretty, hpretty, h⟩ := Option.bind_eq_some_iff.1 h
  obtain ⟨indent, hindent, h⟩ := Option.bind_eq_some_iff.1 h
  obtain rfl := Option.some.inj h
  exact ⟨hpretty, hindent⟩

end MarshalSection

namespace WriterSection

structure ReadFrom (j : Json) (s : WriterSection) : Prop where
  defaultHeaders :
    fieldOf j ("default_headers", 0) standard.defaultHeaders (entries string) =
      some s.defaultHeaders
  wrapMode :
    fieldOf j ("wrap_mode", 1) standard.wrapMode (alternative WrapMode.ofName?) = some s.wrapMode
  wrapper : fieldOf j ("wrapper", 2) standard.wrapper WrapperSection.decode = some s.wrapper
  marshal : fieldOf j ("marshal", 3) standard.marshal MarshalSection.decode = some s.marshal

theorem readFrom_of_decode {s : WriterSection} (h : decode (.ofJson j) = some s) :
    s.ReadFrom j := by
  obtain ⟨given, hgiven, h⟩ := Option.bind_eq_some_iff.1 h
  obtain rfl := fields_ofJson hgiven
  simp only [List.mapIdx_cons, List.mapIdx_nil] at h
  obtain ⟨headers, hheaders, h⟩ := Option.bind_eq_some_iff.1 h
  obtain ⟨mode, hmode, h⟩ := Option.bind_eq_some_iff.1 h
  obtain ⟨wrapper, hwrapper, h⟩ := Option.bind_eq_some_iff.1 h
  obtain ⟨marshal, hmarshal, h⟩ := Option.bind_eq_some_iff.1 h
  obtain rfl := Option.some.inj h
  exact ⟨hheaders, hmode, hwrapper, hmarshal⟩

end WriterSection

namespace FaultSection

/-- Reads the wordings of events. -/
def decodeMessages : Decoder (List (FaultEvent × Wording)) := fun d =>
  (entries Wording.decode d).bind wordingsOf?

structure ReadFrom (j : Json) (s : FaultSection) : Prop where
  messages : fieldOf j ("messages", 0) standard.messages decodeMessages = some s.messages
  httpMessages :
    fieldOf j ("http_messages", 1) standard.httpMessages (entries string) = some s.httpMessages

theorem readFrom_of_decode {s : FaultSection} (h : decode (.ofJson j) = some s) :
    s.ReadFrom j := by
  obtain ⟨given, hgiven, h⟩ := Option.bind_eq_some_iff.1 h
  obtain rfl := fields_ofJson hgiven
  simp only [List.mapIdx_cons, List.mapIdx_nil] at h
  obtain ⟨named, hnamed, h⟩ := Option.bind_eq_some_iff.1 h
  obtain ⟨messages, hmessages, h⟩ := Option.bind_eq_some_iff.1 h
  obtain ⟨statuses, hstatuses, h⟩ := Option.bind_eq_some_iff.1 h
  obtain rfl := Option.some.inj h
  refine ⟨?_, hstatuses⟩
  cases hfield : j.field? ("messages", 0) with
  | none =>
    rw [hfield] at hnamed
    obtain rfl := Option.some.inj hnamed
    rw [fieldOf, hfield]
    exact hmessages
  | some v =>
    rw [hfield] at hnamed
    rw [fieldOf, hfield]
    exact Option.bind_eq_some_iff.2 ⟨named, hnamed, hmessages⟩

end FaultSection

namespace HandlerSection

structure ReadFrom (j : Json) (s : HandlerSection) : Prop where
  autoBindQuery :
    fieldOf j ("auto_bind_query", 0) standard.autoBindQuery bool = some s.autoBindQuery
  requireAuthentication :
    fieldOf j ("require_authentication", 1) standard.requireAuthentication bool =
      some s.requireAuthentication

theorem readFrom_of_decode {s : HandlerSection} (h : decode (.ofJson j) = some s) :
    s.ReadFrom j := by
  obtain ⟨given, hgiven, h⟩ := Option.bind_eq_some_iff.1 h
  obtain rfl := fields_ofJson hgiven
  simp only [List.mapIdx_cons, List.mapIdx_nil] at h
  obtain ⟨bind, hbind, h⟩ := Option.bind_eq_some_iff.1 h
  obtain ⟨require, hrequire, h⟩ := Option.bind_eq_some_iff.1 h
  obtain rfl := Option.some.inj h
  exact ⟨hbind, hrequire⟩

end HandlerSection

namespace LogSettings

structure ReadFrom (j : Json) (s : LogSettings) : Prop where
  enabled : fieldOf j ("enabled", 0) production.enabled bool = some s.enabled
  level : fieldOf j ("level", 1) production.level string = some s.level
  componentLevels :
    fieldOf j ("component_levels", 2) production.componentLevels (entries string) =
      some s.componentLevels
  jsonFormat : fieldOf j ("json_format", 3) production.jsonFormat bool = some s.jsonFormat
  spanEvents : fieldOf j ("span_events", 4) production.spanEvents bool = some s.spanEvents
  fileLineInfo : fieldOf j ("file_line_info", 5) production.fileLineInfo bool = some s.fileLineInfo
  includeTarget :
    fieldOf j ("include_target", 6) production.includeTarget bool = some s.includeTarget

theorem readFrom_of_decode {s : LogSettings} (h : decode (.ofJson j) = some s) :
    s.ReadFrom j := by
  obtain ⟨given, hgiven, h⟩ := Option.bind_eq_some_iff.1 h
  obtain rfl := fields_ofJson hgiven
  simp only [fieldNames, List.mapIdx_cons, List.mapIdx_nil] at h
  obtain ⟨enabled, henabled, h⟩ := Option.bind_eq_some_iff.1 h
  obtain ⟨level, hlevel, h⟩ := Option.bind_eq_some_iff.1 h
  obtain ⟨components, hcomponents, h⟩ := Option.bind_eq_some_iff.1 h
  obtain ⟨json, hjson, h⟩ := Option.bind_eq_some_iff.1 h
  obtain ⟨spans, hspans, h⟩ := Option.bind_eq_some_iff.1 h
  obtain ⟨file, hfile, h⟩ := Option.bind_eq_some_iff.1 h
  obtain ⟨target, htarget, h⟩ := Option.bind_eq_some_iff.1 h
  obtain rfl := Option.some.inj h
  exact ⟨henabled, hlevel, hcomponents, hjson, hspans, hfile, htarget⟩

end LogSettings

namespace MetricsSettings

structure ReadFrom (j : Json) (s : MetricsSettings) : Prop where
  enabled : fieldOf j ("enabled", 0) standard.enabled bool = some s.enabled
  address : fieldOf j ("addr", 1) standard.address string = some s.address
  durationBuckets :
    fieldOf j ("duration_buckets", 2) standard.durationBuckets (list float) =
      some s.durationBuckets

theorem readFrom_of_decode {s : MetricsSettings} (h : decode (.ofJson j) = some s) :
    s.ReadFrom j := by
  obtain ⟨given, hgiven, h⟩ := Option.bind_eq_some_iff.1 h
  obtain rfl := fields_ofJson hgiven
  simp only [List.mapIdx_cons, List.mapIdx_nil] at h
  obtain ⟨enabled, henabled, h⟩ := Option.bind_eq_some_iff.1 h
  obtain ⟨address, haddress, h⟩ := Option.bind_eq_some_iff.1 h
  obtain ⟨buckets, hbuckets, h⟩ := Option.bind_eq_some_iff.1 h
  obtain rfl := Option.some.inj h
  exact ⟨henabled, haddress, hbuckets⟩

end MetricsSettings

namespace Configuration

structure ReadFrom (j : Json) (c : Configuration) : Prop where
  writer : fieldOf j ("response_writer", 0) standard.writer WriterSection.decode = some c.writer
  faults : fieldOf j ("framework_errors", 1) standard.faults FaultSection.decode = some c.faults
  serviceErrors :
    fieldOf j ("service_errors", 2) standard.serviceErrors (list ErrorDefinition.decode) =
      some c.serviceErrors
  handler : fieldOf j ("handler", 3) standard.handler HandlerSection.decode = some c.handler
  logging : fieldOf j ("logging", 4) standard.logging LogSettings.decode = some c.logging
  metrics : fieldOf j ("metrics", 5) standard.metrics MetricsSettings.decode = some c.metrics

theorem readFrom_of_decode {c : Configuration} (h : decode (.ofJson j) = some c) :
    c.ReadFrom j := by
  obtain ⟨given, hgiven, h⟩ := Option.bind_eq_some_iff.1 h
  obtain rfl := fields_ofJson hgiven
  simp only [sectionNames, List.mapIdx_cons, List.mapIdx_nil] at h
  obtain ⟨writer, hwriter, h⟩ := Option.bind_eq_some_iff.1 h
  obtain ⟨faults, hfaults, h⟩ := Option.bind_eq_some_iff.1 h
  obtain ⟨errors, herrors, h⟩ := Option.bind_eq_some_iff.1 h
  obtain ⟨handler, hhandler, h⟩ := Option.bind_eq_some_iff.1 h
  obtain ⟨logging, hlogging, h⟩ := Option.bind_eq_some_iff.1 h
  obtain ⟨metrics, hmetrics, h⟩ := Option.bind_eq_some_iff.1 h
  obtain rfl := Option.some.inj h
  exact ⟨hwriter, hfaults, herrors, hhandler, hlogging, hmetrics⟩

end Configuration

end Endpoint
