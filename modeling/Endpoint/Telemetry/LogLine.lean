import Endpoint.Telemetry.LogFilter

/-!
# Log lines

What is printed of a log: one line for each event that the filter lets through, with the
spans it happened in, and lines for the beginning and the end of spans where these are asked
for.  The time of a line is not part of it.
-/

namespace Endpoint

/-- The value of a field in a line. -/
def EventValue.toJson : EventValue → Json
  | text s => .str s
  | number i => .int i
  | flag b => .bool b

/-- Fields as an object; a later field replaces an earlier one of its name. -/
def fieldsJson (fields : List (String × EventValue)) : Json :=
  .object (fields.map fun (name, v) => (name, v.toJson))

namespace Span

/-- What a line tells of a span. -/
def toJson (s : Span) : Json :=
  .object ((s.fields.map fun (name, v) => (name, v.toJson)) ++ [("name", .str s.name)])

end Span

/-- How a log is printed. -/
structure LogOutput where
  settings : LogSettings
  filter : LogFilter

namespace LogOutput

/-- One line; `current` is the span it is about. -/
def line (o : LogOutput) (level : Level) (target : String) (fields : List (String × EventValue))
    (current : Option Span) (spans : List Span) : Json :=
  .object ([("level", .str level.name), ("fields", fieldsJson fields)]
    ++ (if o.settings.includeTarget then [("target", .str target)] else [])
    ++ (if o.settings.fileLineInfo then
        [("has_filename", .bool true), ("has_line_number", .bool true)]
      else [])
    ++ (match current with
      | some s => [("span", s.toJson), ("spans", .arr (spans.map Span.toJson))]
      | none => []))

/-- The line for the beginning or the end of a span that is let through, if such lines are
    asked for. -/
def spanLine (o : LogOutput) (word : String) (s : Span) (around : List Span) : List Json :=
  if o.settings.spanEvents && o.filter.allowsSpan s then
    [o.line s.level s.target [("message", .text word)] (some s) around]
  else []

/-- The lines of a log inside some spans, the outermost first. -/
def linesWithin (o : LogOutput) (spans : List Span) : List LogEntry → List Json
  | [] => []
  | .opened s :: rest =>
    o.spanLine "new" s (spans.filter o.filter.allowsSpan) ++ linesWithin o (spans ++ [s]) rest
  | .closed :: rest =>
    (match spans.getLast? with
      | some s => o.spanLine "close" s (spans.dropLast.filter o.filter.allowsSpan)
      | none => []) ++ linesWithin o spans.dropLast rest
  | .event e :: rest =>
    let shown := spans.filter o.filter.allowsSpan
    (if o.filter.allowsEvent spans e then
      [o.line e.level e.target (("message", .text e.message) :: e.fields) shown.getLast? shown]
    else []) ++ linesWithin o spans rest

/-- The lines of a log. -/
def lines (o : LogOutput) (log : List LogEntry) : List Json := o.linesWithin [] log

end LogOutput

end Endpoint
