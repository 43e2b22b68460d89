import Endpoint.Proofs.Config.Section
import Mathlib.Data.List.Nodup

/-!
# Leaf settings

A leaf setting is a setting that no other one is a part of: a field of a section that is no
section itself, or an entry of one of the maps.  `Leaf.form` says where each of them stands in the
JSON form of a configuration, and how it is read and written there.
-/

namespace Endpoint

/-- A setting that no other one is a part of. -/
inductive Leaf where
  | defaultHeader (name : String)
  | wrapMode
  | bodyField
  | errorsField
  | prettyPrint
  | indent
  | wording (event : FaultEvent)
  | httpMessage (status : String)
  | serviceErrors
  | autoBindQuery
  | requireAuthentication
  | logEnabled
  | logLevel
  | componentLevel (component : String)
  | logJson
  | spanEvents
  | fileLineInfo
  | includeTarget
  | metricsEnabled
  | metricsAddress
  | durationBuckets
  deriving DecidableEq, Repr

namespace Leaf

/-- Where a leaf setting stands, what it is in a configuration, and how it is read and written. -/
structure Form where
  Value : Type
  place : List Json.Field
  get : Configuration → Value
  decode : Decoder Value
  /-- nothing is written for an entry that a map does not have -/
  encode : Value → Option Json

namespace Form

def flag (place : List Json.Field) (get : Configuration → Bool) : Form :=
  ⟨Bool, place, get, Decoder.bool, fun b => some (.bool b)⟩

def text (place : List Json.Field) (get : Configuration → String) : Form :=
  ⟨String, place, get, Decoder.string, fun s => some (.str s)⟩

/-- An entry of a map from texts to texts. -/
def entry (map : List Json.Field) (key : String) (get : Configuration → Entries String) : Form :=
  ⟨Option String, map ++ [(key, 0)], fun c => Entries.get? key (get c),
    Decoder.optional Decoder.string, Option.map .str⟩

end Form

def form : Leaf → Form
  | defaultHeader name =>
    .entry [("response_writer", 0), ("default_headers", 0)] name fun c => c.writer.defaultHeaders
  | wrapMode =>
    ⟨WrapMode, [("response_writer", 0), ("wrap_mode", 1)], fun c => c.writer.wrapMode,
      Decoder.alternative WrapMode.ofName?, fun mode => some (.str mode.name)⟩
  | bodyField =>
    .text [("response_writer", 0), ("wrapper", 2), ("body_field", 0)]
      fun c => c.writer.wrapper.bodyField
  | errorsField =>
    .text [("response_writer", 0), ("wrapper", 2), ("errors_field", 1)]
      fun c => c.writer.wrapper.errorsField
  | prettyPrint =>
    .flag [("response_writer", 0), ("marshal", 3), ("pretty_print", 0)]
      fun c => c.writer.marshal.prettyPrint
  | indent =>
    .text [("response_writer", 0), ("marshal", 3), ("indent", 1)] fun c => c.writer.marshal.indent
  | wording event =>
    ⟨Option Wording, [("framework_errors", 1), ("messages", 0), (event.name, 0)],
      fun c => c.faults.messages.lookup event, Decoder.optional Wording.decode,
      Option.map Wording.toJson⟩
  | httpMessage status =>
    .entry [("framework_errors", 1), ("http_messages", 1)] status fun c => c.faults.httpMessages
  | serviceErrors =>
    ⟨List ErrorDefinition, [("service_errors", 2)], fun c => c.serviceErrors,
      Decoder.list ErrorDefinition.decode,
      fun ds => some (.arr (ds.map ErrorDefinition.toJson))⟩
  | autoBindQuery =>
    .flag [("handler", 3), ("auto_bind_query", 0)] fun c => c.handler.autoBindQuery
  | requireAuthentication =>
    .flag [("handler", 3), ("require_authentication", 1)] fun c => c.handler.requireAuthentication
  | logEnabled => .flag [("logging", 4), ("enabled", 0)] fun c => c.logging.enabled
  | logLevel => .text [("logging", 4), ("level", 1)] fun c => c.logging.level
  | componentLevel component =>
    .entry [("logging", 4), ("component_levels", 2)] component fun c => c.logging.componentLevels
  | logJson => .flag [("logging", 4), ("json_format", 3)] fun c => c.logging.jsonFormat
  | spanEvents => .flag [("logging", 4), ("span_events", 4)] fun c => c.logging.spanEvents
  | fileLineInfo => .flag [("logging", 4), ("file_line_info", 5)] fun c => c.logging.fileLineInfo
  | includeTarget => .flag [("logging", 4), ("include_target", 6)] fun c => c.logging.includeTarget
  | metricsEnabled => .flag [("metrics", 5), ("enabled", 0)] fun c => c.metrics.enabled
  | metricsAddress => .text [("metrics", 5), ("addr", 1)] fun c => c.metrics.address
  | durationBuckets =>
    ⟨List Binary64, [("metrics", 5), ("duration_buckets", 2)], fun c => c.metrics.durationBuckets,
      Decoder.list Decoder.float, fun bounds => some (.arr (bounds.map .float))⟩

/-- The full key path of a leaf setting. -/
def path (x : Leaf) : List String := Json.names x.form.place

end Leaf

namespace Configuration

open Decoder

theorem reads_writer :
    Reads decode standard [("response_writer", 0)] WriterSection.decode fun c => c.writer :=
  .of_field fun _ _ h => (readFrom_of_decode h).writer

theorem reads_faults :
    Reads decode standard [("framework_errors", 1)] FaultSection.decode fun c => c.faults :=
  .of_field fun _ _ h => (readFrom_of_decode h).faults

theorem reads_handler :
    Reads decode standard [("handler", 3)] HandlerSection.decode fun c => c.handler :=
  .of_field fun _ _ h => (readFrom_of_decode h).handler

theorem reads_logging :
    Reads decode standard [("logging", 4)] LogSettings.decode fun c => c.logging :=
  .of_field fun _ _ h => (readFrom_of_decode h).logging

theorem reads_metrics :
    Reads decode standard [("metrics", 5)] MetricsSettings.decode fun c => c.metrics :=
  .of_field fun _ _ h => (readFrom_of_decode h).metrics

theorem reads_wrapper :
    Reads decode standard [("response_writer", 0), ("wrapper", 2)] WrapperSection.decode
      fun c => c.writer.wrapper :=
  reads_writer.trans (.of_field fun _ _ h => (WriterSection.readFrom_of_decode h).wrapper)

theorem reads_marshal :
    Reads decode standard [("response_writer", 0), ("marshal", 3)] MarshalSection.decode
      fun c => c.writer.marshal :=
  reads_writer.trans (.of_field fun _ _ h => (WriterSection.readFrom_of_decode h).marshal)

end Configuration

namespace FaultSection

theorem mem_allEvents (event : FaultEvent) : event ∈ FaultEvent.all := by
  cases event <;> decide

/-- What is found for an event among those that have something. -/
theorem lookup_filterMap (f : FaultEvent → Option Wording) (event : FaultEvent)
    (events : List FaultEvent) :
    (events.filterMap fun e => (f e).map fun w => (e, w)).lookup event =
      if event ∈ events then f event else none := by
  induction events with
  | nil => rfl
  | cons e rest ih =>
    rw [List.filterMap_cons]
    by_cases he : event = e
    · subst he
      cases hf : f event with
      | some w => simp
      | none => simp [ih, hf]
    · have hne : (event == e) = false := beq_false_of_ne he
      cases hf : f e with
      | some w => simp [List.lookup_cons, hne, he, ih]
      | none => simp [he, ih]

/-- The wording of an event that is read is the one given under its name. -/
theorem lookup_wordingsOf? {named : Entries Wording} {messages : List (FaultEvent × Wording)}
    (h : wordingsOf? named = some messages) (event : FaultEvent) :
    messages.lookup event = Entries.get? event.name named := by
  rw [wordingsOf?] at h
  split at h
  · obtain rfl := Option.some.inj h
    rw [lookup_filterMap, if_pos (mem_allEvents event)]
  · cases h

theorem reads_wording (event : FaultEvent) (index : Nat) :
    Decoder.Reads decodeMessages [] [(event.name, index)] (Decoder.optional Wording.decode)
      (List.lookup event) := by
  intro j messages hj h
  obtain ⟨named, hnamed, hmessages⟩ := Option.bind_eq_some_iff.1 h
  rw [lookup_wordingsOf? hmessages]
  exact Decoder.reads_entries Wording.decode event.name index j named hj hnamed

end FaultSection

namespace Leaf

open Decoder

/-- A configuration that is read has what stands at the place of a leaf setting, or the usual value
    of this setting if nothing does. -/
theorem reads (x : Leaf) :
    Reads Configuration.decode .standard x.form.place x.form.decode x.form.get := by
  cases x with
  | defaultHeader name =>
    exact (Configuration.reads_writer.trans
      (.of_field fun _ _ h => (WriterSection.readFrom_of_decode h).defaultHeaders)).trans
        (reads_entries string name 0)
  | wrapMode =>
    exact Configuration.reads_writer.trans
      (.of_field fun _ _ h => (WriterSection.readFrom_of_decode h).wrapMode)
  | bodyField =>
    exact Configuration.reads_wrapper.trans
      (.of_field fun _ _ h => (WrapperSection.readFrom_of_decode h).bodyField)
  | errorsField =>
    exact Configuration.reads_wrapper.trans
      (.of_field fun _ _ h => (WrapperSection.readFrom_of_decode h).errorsField)
  | prettyPrint =>
    exact Configuration.reads_marshal.trans
      (.of_field fun _ _ h => (MarshalSection.readFrom_of_decode h).prettyPrint)
  | indent =>
    exact Configuration.reads_marshal.trans
      (.of_field fun _ _ h => (MarshalSection.readFrom_of_decode h).indent)
  | wording event =>
    exact (Configuration.reads_faults.trans
      (.of_field fun _ _ h => (FaultSection.readFrom_of_decode h).messages)).trans
        (FaultSection.reads_wording event 0)
  | httpMessage status =>
    exact (Configuration.reads_faults.trans
      (.of_field fun _ _ h => (FaultSection.readFrom_of_decode h).httpMessages)).trans
        (reads_entries string status 0)
  | serviceErrors => exact .of_field fun _ _ h => (Configuration.readFrom_of_decode h).serviceErrors
  | autoBindQuery =>
    exact Configuration.reads_handler.trans
      (.of_field fun _ _ h => (HandlerSection.readFrom_of_decode h).autoBindQuery)
  | requireAuthentication =>
    exact Configuration.reads_handler.trans
      (.of_field fun _ _ h => (HandlerSection.readFrom_of_decode h).requireAuthentication)
  | logEnabled =>
    exact Configuration.reads_logging.trans
      (.of_field fun _ _ h => (LogSettings.readFrom_of_decode h).enabled)
  | logLevel =>
    exact Configuration.reads_logging.trans
      (.of_field fun _ _ h => (LogSettings.readFrom_of_decode h).level)
  | componentLevel component =>
    exact (Configuration.reads_logging.trans
      (.of_field fun _ _ h => (LogSettings.readFrom_of_decode h).componentLevels)).trans
        (reads_entries string component 0)
  | logJson =>
    exact Configuration.reads_logging.trans
      (.of_field fun _ _ h => (LogSettings.readFrom_of_decode h).jsonFormat)
  | spanEvents =>
    exact Configuration.reads_logging.trans
      (.of_field fun _ _ h => (LogSettings.readFrom_of_decode h).spanEvents)
  | fileLineInfo =>
    exact Configuration.reads_logging.trans
      (.of_field fun _ _ h => (LogSettings.readFrom_of_decode h).fileLineInfo)
  | includeTarget =>
    exact Configuration.reads_logging.trans
      (.of_field fun _ _ h => (LogSettings.readFrom_of_decode h).includeTarget)
  | metricsEnabled =>
    exact Configuration.reads_metrics.trans
      (.of_field fun _ _ h => (MetricsSettings.readFrom_of_decode h).enabled)
  | metricsAddress =>
    exact Configuration.reads_metrics.trans
      (.of_field fun _ _ h => (MetricsSettings.readFrom_of_decode h).address)
  | durationBuckets =>
    exact Configuration.reads_metrics.trans
      (.of_field fun _ _ h => (MetricsSettings.readFrom_of_decode h).durationBuckets)

end Leaf

end Endpoint
