import Endpoint.Error.Basic

/-!
# Configuration errors

What can go wrong when a configuration is loaded, checked or put to use.
-/

namespace Endpoint

/-- Why there is no configuration. -/
inductive ConfigError where
  | fileNotFound (path : String)
  | unreadableFile (path : String)
  /-- a text that is not TOML -/
  | toml
  /-- a text that is not JSON, or a layer that does not make a configuration -/
  | json
  | invalidValue (field reason : String)
  | badVariable (name reason : String)
  | invalid (reason : String)
  /-- a code with several predefined errors -/
  | repeatedCode (code : String)
  deriving DecidableEq, Repr

namespace ConfigError

/-- The name of the kind of an error. -/
def kind : ConfigError → String
  | fileNotFound _ => "FileNotFound"
  | unreadableFile _ => "ReadError"
  | toml => "TomlError"
  | json => "JsonError"
  | invalidValue _ _ => "InvalidValue"
  | badVariable _ _ => "EnvParseError"
  | invalid _ => "ValidationError"
  | repeatedCode _ => "ServiceErrors"

/-- What is said of an error; nothing of a text that does not follow its grammar. -/
def message? : ConfigError → Option String
  | fileNotFound path => some ("configuration file not found: " ++ path)
  | unreadableFile path => some ("failed to read configuration file: " ++ path)
  | toml | json => none
  | invalidValue field reason =>
    some ("invalid configuration value for " ++ field ++ ": " ++ reason)
  | badVariable name reason =>
    some ("failed to parse environment variable " ++ name ++ ": " ++ reason)
  | invalid reason => some ("configuration validation failed: " ++ reason)
  | repeatedCode code =>
    some ("invalid service error definitions: " ++ Catalogue.repeatedMessage code)

end ConfigError

end Endpoint
