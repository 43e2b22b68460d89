import Endpoint.Json.Decoder
import Endpoint.Log.Event
import Endpoint.Telemetry.Error
import Endpoint.Text.Blank

/-!
# Log settings

How events are logged: from which level on, with levels of their own for single components,
and in which form.  The levels are put together into the text of a filter, the global level
first and then the components in the order of their names.
-/

namespace Endpoint

/-- Which events are let through: none, or those up to a level. -/
inductive LevelFilter where
  | off
  | upTo (level : Level)
  deriving DecidableEq, Repr

namespace LevelFilter

/-- All filters; the numbers that stand for them count from zero. -/
def all : List LevelFilter :=
  [off, upTo .error, upTo .warn, upTo .info, upTo .debug, upTo .trace]

/-- The name of a filter in lower case. -/
def name : LevelFilter → String
  | off => "off"
  | upTo level => asciiLower level.name

/-- Whether events of a level are let through. -/
def allows : LevelFilter → Level → Bool
  | off, _ => false
  | upTo greatest, level => decide (level.rank ≤ greatest.rank)

/-- Reads a filter from its name in any ASCII case or from its number.  The empty text
    lets errors through. -/
def ofText? (text : String) : Option LevelFilter :=
  match readUnsigned? 64 text with
  | some n => all[n]?
  | none =>
    if text.isEmpty then some (upTo .error) else all.find? fun f => f.name == asciiLower text

end LevelFilter

/-- How events are logged. -/
structure LogSettings where
  enabled : Bool
  level : String
  /-- levels of single components -/
  componentLevels : Entries String
  /-- whether lines are JSON -/
  jsonFormat : Bool
  /-- whether the beginning and the end of spans are logged -/
  spanEvents : Bool
  /-- whether lines tell the file and the line they come from -/
  fileLineInfo : Bool
  /-- whether lines tell the component -/
  includeTarget : Bool
  deriving DecidableEq, Repr

namespace LogSettings

/-- Settings for development: text for people, in detail. -/
def development : LogSettings := ⟨true, "debug", [], false, true, true, true⟩

/-- Settings for production: JSON, without detail. -/
def production : LogSettings := ⟨true, "info", [], true, false, false, true⟩

/-- Reads the level given for a component; white space around it does not matter. -/
def readLevel (component level : String) : Except TelemetryError LevelFilter :=
  match LevelFilter.ofText? (trimText level) with
  | some f => .ok f
  | none => .error (.invalidLevel component level)

/-- The directives of components. -/
def componentDirectives : Entries String → Except TelemetryError (List String)
  | [] => .ok []
  | (component, level) :: rest => do
    let f ← readLevel component level
    let later ← componentDirectives rest
    pure ((component ++ "=" ++ f.name) :: later)

/-- What stands for all components in messages. -/
def anyComponent : String := "*"

/-- The directives of the filter one by one. -/
def directiveList (s : LogSettings) : Except TelemetryError (List String) := do
  let f ← readLevel anyComponent s.level
  let components ← componentDirectives s.componentLevels
  pure (f.name :: components)

/-- The text of the filter. -/
def directives (s : LogSettings) : Except TelemetryError String :=
  s.directiveList.map (",".intercalate ·)

/-- Whether all levels are levels. -/
def validate (s : LogSettings) : Except TelemetryError Unit := s.directives.map fun _ => ()

/-- The names of the fields in order. -/
def fieldNames : List String :=
  ["enabled", "level", "component_levels", "json_format", "span_events", "file_line_info",
    "include_target"]

/-- Reads settings from a document; what is not given is as in production. -/
def decode : Decoder LogSettings := fun d => do
  let usual := production
  match ← Decoder.fields true fieldNames d with
  | [enabled, level, components, json, spans, file, target] =>
    some {
      enabled := ← Decoder.withDefault usual.enabled Decoder.bool enabled
      level := ← Decoder.withDefault usual.level Decoder.string level
      componentLevels := ← Decoder.withDefault usual.componentLevels
        (Decoder.entries Decoder.string) components
      jsonFormat := ← Decoder.withDefault usual.jsonFormat Decoder.bool json
      spanEvents := ← Decoder.withDefault usual.spanEvents Decoder.bool spans
      fileLineInfo := ← Decoder.withDefault usual.fileLineInfo Decoder.bool file
      includeTarget := ← Decoder.withDefault usual.includeTarget Decoder.bool target }
  | _ => none

def toJson (s : LogSettings) : Json :=
  .object [("enabled", .bool s.enabled), ("level", .str s.level),
    ("component_levels", .obj (Entries.mapValues .str s.componentLevels)),
    ("json_format", .bool s.jsonFormat), ("span_events", .bool s.spanEvents),
    ("file_line_info", .bool s.fileLineInfo), ("include_target", .bool s.includeTarget)]

end LogSettings

end Endpoint
