import Endpoint.Config.Dotenv
import Endpoint.Config.JsonForm
import Endpoint.Config.Validation
import Endpoint.Config.Variable
import Endpoint.Toml.Document
import Endpoint.Unicode.Case

/-!
# Loading configurations

A loader starts from a configuration and lays files and texts over it, each of which changes
only the settings that it names.  Variables of the environment come last, whenever they are
asked for.
-/

namespace Endpoint

/-- What a program finds around it: files and directories by their paths, and the
    variables of its environment.  The names and the values of all variables are taken to be
    Unicode texts; an environment with others cannot be read, and the attempt panics. -/
structure Surroundings where
  files : Entries (List UInt8)
  directories : List String
  environment : Entries String

/-- A configuration that is being loaded. -/
structure Loader where
  config : Configuration
  /-- the stem of the names of variables, if these are asked for -/
  stem : Option String
  fileLoaded : Bool

namespace Loader

/-- The stem of the names of variables if no other is given. -/
def usualStem : String := "HYPATIA"

/-- Nothing loaded yet. -/
def new : Loader := ⟨.standard, none, false⟩

/-- Starts over with a configuration. -/
def startWith (l : Loader) (c : Configuration) : Loader := { l with config := c }

/-- Lays a value over the configuration. -/
def addLayer (l : Loader) (layer : Json) : Except ConfigError Loader :=
  match l.config.overlay? layer with
  | some c => .ok { l with config := c }
  | none => .error .json

/-- Reads a text in a format; none for other formats than `toml` and `json`. -/
def readLayer? (format content : String) : Option (Except ConfigError Json) :=
  if asciiLower format = "toml" then
    some (match Toml.read? content with
      | some j => .ok j
      | none => .error .toml)
  else if asciiLower format = "json" then
    some (match Json.readText? content with
      | some j => .ok j
      | none => .error .json)
  else none

/-- Lays a text in a format over the configuration. -/
def addText (l : Loader) (content format : String) : Except ConfigError Loader :=
  match readLayer? format content with
  | none => .error (.invalid ("unsupported configuration format: " ++ format))
  | some (.error e) => .error e
  | some (.ok layer) => l.addLayer layer

/-- Asks for variables whose names start with a stem in capitals. -/
def useVariables (l : Loader) (stem : String) : Loader :=
  { l with stem := some (Unicode.upper stem) }

/-- The names on a path, without those that lead nowhere else. -/
def pathNames (path : String) : List String :=
  (((FieldPath.splitAt '/' path.toList).filter fun n => n ≠ [] ∧ n ≠ ['.'])).map String.ofList

/-- The extension of the last name on a path: what follows its last point, unless that is its
    first character. -/
def extension? (path : String) : Option String :=
  match (pathNames path).getLast? with
  | none => none
  | some name =>
    let after := name.toList.reverse.takeWhile (· != '.')
    if name = ".." ∨ name.length ≤ after.length + 1 then none
    else some (String.ofList after.reverse)

/-- What is found at a path: a file, or a directory. -/
def find? (around : Surroundings) (path : String) : Option (Option (List UInt8)) :=
  let name := "/".intercalate (pathNames path)
  if path.isEmpty ∨ path.toList.head? = some '/' then none
  else if name.isEmpty ∨ around.directories.contains name then some none
  else if path.toList.getLast? = some '/' then none
  else (Entries.get? name around.files).map some

/-- Lays a file over the configuration; its extension tells the format. -/
def addFile (l : Loader) (around : Surroundings) (path : String) :
    Logged (Except ConfigError Loader) :=
  match find? around path with
  | none => pure (.error (.fileNotFound path))
  | some none => pure (.error (.unreadableFile path))
  | some (some bytes) =>
    match Utf8.decode? ⟨bytes.toArray⟩ with
    | none => pure (.error (.unreadableFile path))
    | some content =>
      match (extension? path).bind fun format => readLayer? format content with
      | none => pure (.error (.invalid ("unsupported configuration file format: " ++ path)))
      | some (.error e) => pure (.error e)
      | some (.ok layer) =>
        match l.addLayer layer with
        | .error e => pure (.error e)
        | .ok l => do
          Logged.event .debug Variable.logTarget "Loaded configuration file" [("path", .text path)]
          pure (.ok { l with fileLoaded := true })

/-- Lays a file over the configuration if there is one. -/
def addOptionalFile (l : Loader) (around : Surroundings) (path : String) :
    Logged (Except ConfigError Loader) :=
  if (find? around path).isSome then l.addFile around path else pure (.ok l)

/-- Adds the variables of the file `.env` to the environment if there is such a file. -/
def readDotenv (around : Surroundings) : Except ConfigError Surroundings :=
  match Entries.get? ".env" around.files with
  | none => .ok around
  | some file =>
    match Dotenv.load file around.environment with
    | .ok environment => .ok { around with environment := environment }
    | .error e => .error (.invalid ("failed to load .env: " ++ e.message))

/-- The loaded configuration with the variables asked for, which must pass its checks. -/
def load (l : Loader) (environment : Entries String) :
    Logged (Except ConfigError Configuration) := do
  let applied ← match l.stem with
    | some stem => Variable.applyEnvironment stem environment l.config
    | none => pure (.ok l.config)
  pure (applied.bind fun c => c.validate.map fun _ => c)

/-- The loaded configuration as it is. -/
def loadUnchecked (l : Loader) : Configuration := l.config

end Loader

/-- A step of loading. -/
inductive LoadStep where
  | restart (c : Configuration)
  | file (path : String)
  | optionalFile (path : String)
  | text (content format : String)
  | environment (stem : String)
  | dotenv

/-- Takes a step of loading. -/
def LoadStep.take (step : LoadStep) (around : Surroundings) (l : Loader) :
    Logged (Except ConfigError (Loader × Surroundings)) :=
  let stay (r : Except ConfigError Loader) : Except ConfigError (Loader × Surroundings) :=
    r.map fun l => (l, around)
  match step with
  | restart c => pure (.ok (l.startWith c, around))
  | file path => do pure (stay (← l.addFile around path))
  | optionalFile path => do pure (stay (← l.addOptionalFile around path))
  | text content format => pure (stay (l.addText content format))
  | environment stem => pure (.ok (l.useVariables stem, around))
  | dotenv => pure ((Loader.readDotenv around).map fun around => (l, around))

/-- Takes steps of loading up to the first that fails; gives the loaders after each of them,
    and what came of the last. -/
def LoadStep.takeAll (around : Surroundings) (l : Loader) :
    List LoadStep → Logged (List Loader × Except ConfigError (Loader × Surroundings))
  | [] => pure ([], .ok (l, around))
  | step :: rest => do
    match ← step.take around l with
    | .error e => pure ([], .error e)
    | .ok (l, around) =>
      let (later, result) ← takeAll around l rest
      pure (l :: later, result)

end Endpoint
