import Endpoint.Config.Basic
import Endpoint.Config.Error
import Endpoint.Log.Event

/-!
# Environment variables

A variable whose name consists of a common stem, two underscores and the name of a setting
replaces the value of that setting.  The parts of the name of a setting are joined by two
underscores.  A header is named in capitals with underscores for hyphens.
-/

namespace Endpoint

/-- A setting that a variable can replace. -/
inductive Setting where
  | wrapMode
  | bodyField
  | errorsField
  | prettyPrint
  | indent
  | defaultHeader (name : String)
  | autoBindQuery
  | requireAuthentication
  | logEnabled
  | logLevel
  | logJson
  | metricsEnabled
  | metricsAddress
  deriving DecidableEq, Repr

namespace Setting

/-- The setting that the parts of a name stand for. -/
def ofParts? : List String → Option Setting
  | ["RESPONSE_WRITER", "WRAP_MODE"] => some wrapMode
  | ["RESPONSE_WRITER", "WRAPPER", "BODY_FIELD"] => some bodyField
  | ["RESPONSE_WRITER", "WRAPPER", "ERRORS_FIELD"] => some errorsField
  | ["RESPONSE_WRITER", "MARSHAL", "PRETTY_PRINT"] => some prettyPrint
  | ["RESPONSE_WRITER", "MARSHAL", "INDENT"] => some indent
  | ["RESPONSE_WRITER", "DEFAULT_HEADERS", name] => some (defaultHeader (headerName name))
  | ["HANDLER", "AUTO_BIND_QUERY"] => some autoBindQuery
  | ["HANDLER", "REQUIRE_AUTHENTICATION"] => some requireAuthentication
  | ["LOGGING", "ENABLED"] => some logEnabled
  | ["LOGGING", "LEVEL"] => some logLevel
  | ["LOGGING", "JSON_FORMAT"] => some logJson
  | ["METRICS", "ENABLED"] => some metricsEnabled
  | ["METRICS", "ADDR"] => some metricsAddress
  | _ => none
where
  /-- The header that a part stands for. -/
  headerName (part : String) : String :=
    String.ofList (part.toList.map fun c => if c = '_' then '-' else c.toLower)

/-- The words for true and false, in any ASCII case. -/
def readSwitch (value : String) : Except String Bool :=
  let word := asciiLower value
  if ["true", "1", "yes", "on"].contains word then .ok true
  else if ["false", "0", "no", "off"].contains word then .ok false
  else .error "expected boolean"

/-- The mode that a value names in any ASCII case. -/
def readWrapMode (value : String) : Except String WrapMode :=
  match WrapMode.ofName? (asciiLower value) with
  | some mode => .ok mode
  | none => .error "expected 'wrap' or 'body'"

/-- Replaces the value of a setting; an error says what the value should have been. -/
def apply (s : Setting) (value : String) (c : Configuration) : Except String Configuration :=
  match s with
  | wrapMode => (readWrapMode value).map fun mode =>
    { c with writer := { c.writer with wrapMode := mode } }
  | bodyField =>
    .ok { c with writer := { c.writer with
      wrapper := { c.writer.wrapper with bodyField := value } } }
  | errorsField =>
    .ok { c with writer := { c.writer with
      wrapper := { c.writer.wrapper with errorsField := value } } }
  | prettyPrint => (readSwitch value).map fun b =>
    { c with writer := { c.writer with marshal := { c.writer.marshal with prettyPrint := b } } }
  | indent =>
    .ok { c with writer := { c.writer with marshal := { c.writer.marshal with indent := value } } }
  | defaultHeader name =>
    .ok { c with writer := { c.writer with
      defaultHeaders := Entries.insert name value c.writer.defaultHeaders } }
  | autoBindQuery => (readSwitch value).map fun b =>
    { c with handler := { c.handler with autoBindQuery := b } }
  | requireAuthentication => (readSwitch value).map fun b =>
    { c with handler := { c.handler with requireAuthentication := b } }
  | logEnabled => (readSwitch value).map fun b =>
    { c with logging := { c.logging with enabled := b } }
  | logLevel => .ok { c with logging := { c.logging with level := value } }
  | logJson => (readSwitch value).map fun b =>
    { c with logging := { c.logging with jsonFormat := b } }
  | metricsEnabled => (readSwitch value).map fun b =>
    { c with metrics := { c.metrics with enabled := b } }
  | metricsAddress => .ok { c with metrics := { c.metrics with address := value } }

end Setting

namespace Variable

/-- Where the loading of configurations logs. -/
def logTarget : String := "hypatia::config"

/-- Splits a name at every two underscores. -/
def splitParts : List Char → List (List Char)
  | [] => [[]]
  | '_' :: '_' :: rest => [] :: splitParts rest
  | c :: rest =>
    match splitParts rest with
    | [] => [[c]]
    | part :: parts => (c :: part) :: parts

/-- The parts of a variable's name after the stem and two underscores. -/
def partsAfter? (stem name : String) : Option (List String) :=
  let lead := stem.toList ++ ['_', '_']
  if lead.isPrefixOf name.toList then
    some ((splitParts (name.toList.drop lead.length)).map String.ofList)
  else none

/-- Applies a variable to a configuration.  One that names no setting is logged. -/
def apply (stem name value : String) (c : Configuration) :
    Logged (Except ConfigError Configuration) :=
  match partsAfter? stem name with
  | none => pure (.error (.badVariable name "invalid key format"))
  | some parts =>
    match Setting.ofParts? parts with
    | none => do
      Logged.event .warn logTarget "Ignoring unknown configuration variable" [("var", .text name)]
      pure (.ok c)
    | some setting =>
      match setting.apply value c with
      | .ok c => pure (.ok c)
      | .error reason => pure (.error (.badVariable name reason))

/-- Applies variables one after another. -/
def applyAll (stem : String) : List (String × String) → Configuration →
    Logged (Except ConfigError Configuration)
  | [], c => pure (.ok c)
  | (name, value) :: rest, c => do
    match ← apply stem name value c with
    | .error e => pure (.error e)
    | .ok c => applyAll stem rest c

/-- Applies those variables of an environment whose names start with the stem. -/
def applyEnvironment (stem : String) (environment : Entries String) (c : Configuration) :
    Logged (Except ConfigError Configuration) :=
  applyAll stem (environment.filter fun (name, _) => stem.toList.isPrefixOf name.toList) c

end Variable

end Endpoint
