import GraphFilter.Settings.Basic
import GraphFilter.Settings.Toml

/-!
# `GraphFilter.Settings.Load` — where settings come from

Settings start from their defaults, or from a file; variables of the environment come on top, each
for one setting; what results is checked as a whole. How a file is read and which log filters there
are is left to libraries.

## Contents
- **Errors.** `SettingsError`, with the problems that a check may find.
- **Files.** `Settings.ofToml?`.
- **Log filters.** `Settings.filterDefect?`.
- **Environment.** `Settings.ofEnvironment` reads the variables in a fixed order.
- **Loading over libraries.** `Settings.Libraries`, with its checks (`Libraries.problems`) and
  `Libraries.load`.
- **Loading.** `Settings.load`, over the libraries of the program.
-/

namespace GraphFilter

/-! ## Errors -/

/-- Something wrong with a setting. -/
inductive SettingsProblem
  /-- Entities cannot be bound to this name. -/
  | entityVariable (name : String)
  /-- This is no log filter, for a reason. -/
  | logLevel (filter reason : String)
  deriving DecidableEq, Repr

/-- The text of a problem. -/
def SettingsProblem.message : SettingsProblem → String
  | .entityVariable name => s!"entity_variable '{name}' must match [A-Za-z_][A-Za-z0-9_]*"
  | .logLevel filter reason => s!"log_level '{filter}' is not a valid filter: {reason}"

/-- A variable of the environment that overrides a setting. -/
inductive SettingsVariable
  | entityVariable
  | identifierStrategy
  | executionMode
  | includeSubsidiary
  | logLevel
  deriving DecidableEq, Repr

/-- The name of a variable. -/
def SettingsVariable.name : SettingsVariable → String
  | .entityVariable => "SIEVE_ENTITY_VARIABLE"
  | .identifierStrategy => "SIEVE_IDENTIFIER_STRATEGY"
  | .executionMode => "SIEVE_EXECUTION_MODE"
  | .includeSubsidiary => "SIEVE_INCLUDE_SUBSIDIARY"
  | .logLevel => "SIEVE_LOG_LEVEL"

/-- Why settings cannot be loaded. Where a library fails, its own account of it is kept. -/
inductive SettingsError
  /-- The file cannot be read. -/
  | unreadable (path cause : String)
  /-- The file holds no settings. -/
  | noSettings (cause : String)
  /-- A variable of the environment has no value of its setting. -/
  | invalidValue (key : SettingsVariable) (value reason : String)
  /-- The settings have problems. -/
  | invalid (problems : List SettingsProblem)
  deriving DecidableEq, Repr

/-- The text of an error. -/
def SettingsError.message : SettingsError → String
  | .unreadable path cause => s!"Failed to read settings file {path}: {cause}"
  | .noSettings cause => s!"Failed to parse settings file: {cause}"
  | .invalidValue key value reason => s!"Invalid value '{value}' for {key.name}: {reason}"
  | .invalid problems =>
    "Settings validation failed: " ++
      String.intercalate "; " (problems.map SettingsProblem.message)

namespace Settings

/-! ## Files -/

/-- The settings that a document gives; any other name, and any other kind of value, is refused. -/
def Given.ofDocument? : Toml.Document → Option Given
  | [] => some {}
  | (name, entry) :: rest => do
    let given ← Given.ofDocument? rest
    match name with
    | "entity_variable" => return { given with entityVariable := some (← entry.text?) }
    | "identifier_strategy" =>
      let strategy ← entry.choice?.bind IdentifierStrategy.ofName?
      return { given with identifierStrategy := some strategy }
    | "execution_mode" =>
      let mode ← entry.choice?.bind ExecutionMode.ofName?
      return { given with executionMode := some mode }
    | "include_subsidiary" => return { given with includeSubsidiary := some (← entry.flag?) }
    | "log_level" => return { given with logLevel := some (← entry.text?) }
    | _ => none

/-- The settings in the text of a file, if it holds settings. -/
def ofToml? (source : String) : Option Settings :=
  ((Toml.parse? source).bind Given.ofDocument?).map fun given => given.over {}

/-! ## Log filters -/

/-- The names of the levels of a log filter. -/
def levelNames : List String :=
  ["off", "error", "warn", "info", "debug", "trace", "0", "1", "2", "3", "4", "5", ""]

/-- Whether one directive of a log filter is valid: the name of a level, the name of a target, or a
    target with the name of a level behind `=`. -/
def isDirective (directive : String) : Bool :=
  match (directive.splitOn "=").reverse with
  | level :: _ :: _ => levelNames.contains (Text.lowercase level)
  | _ => true

/-- Whether a log filter is valid: every directive of it is. -/
def isLogFilter (filter : String) : Bool :=
  (filter.splitOn ",").all isDirective

/-- What is wrong with a log filter. -/
def filterDefect? (filter : String) : Option String :=
  if isLogFilter filter then none
  else some ("error parsing level filter: expected one of " ++
    "\"off\", \"error\", \"warn\", \"info\", \"debug\", \"trace\", or a number 0-5")

/-! ## Environment -/

/-- The truth value that a word names; the error is a message. -/
def boolOfWord (word : String) : Except String Bool :=
  match Text.lowercase (Text.trim word) with
  | "1" | "true" | "yes" | "on" => .ok true
  | "0" | "false" | "no" | "off" => .ok false
  | _ => .error "expected a boolean"

/-- The value of a variable, if it is set, as the value of a setting. -/
def readVariable {α : Type} (env : String → Option String) (key : SettingsVariable)
    (ofWord : String → Except String α) : Except SettingsError (Option α) :=
  match env key.name with
  | none => .ok none
  | some word =>
    match ofWord word with
    | .ok a => .ok (some a)
    | .error reason => .error (.invalidValue key word reason)

/-- The settings that variables of the environment give. -/
def ofEnvironment (env : String → Option String) : Except SettingsError Given := do
  let strategy ← readVariable env .identifierStrategy IdentifierStrategy.ofWord
  let mode ← readVariable env .executionMode ExecutionMode.ofWord
  let includeSubsidiary ← readVariable env .includeSubsidiary boolOfWord
  return {
    entityVariable := env SettingsVariable.entityVariable.name
    identifierStrategy := strategy
    executionMode := mode
    includeSubsidiary := includeSubsidiary
    logLevel := env SettingsVariable.logLevel.name }

/-! ## Loading over libraries -/

/-- A settings file: its path and its text, or the cause why it cannot be read. -/
structure File where
  path : String
  contents : Except String String

/-- The line that tells of a file. -/
def fileLines : Option File → Journal
  | some file => [.info s!"Loading settings from {file.path}"]
  | none => []

/-- What settings leave to libraries. -/
structure Libraries where
  /-- The settings in the text of a file, with defaults for those that it does not give, or the
      cause why it holds none. -/
  ofToml : String → Except String Settings
  /-- What is wrong with a log filter, if anything is. -/
  filterDefect? : String → Option String

namespace Libraries

variable (libraries : Libraries)

/-- What is wrong with the settings. -/
def problems (s : Settings) : List SettingsProblem :=
  (if Text.isIdentifier s.entityVariable then [] else [.entityVariable s.entityVariable]) ++
    match libraries.filterDefect? s.logLevel with
    | none => []
    | some reason => [.logLevel s.logLevel reason]

/-- Check settings. It is odd to write names of properties into queries. -/
def validate (s : Settings) : Except SettingsError Unit × Journal :=
  let odd := match s.identifierStrategy with
    | .inline => [.warn "Inline identifier strategy writes property names into query text"]
    | .dynamicKey => []
  match libraries.problems s with
  | [] =>
    let line := s!"Settings validated: variable '{s.entityVariable}', " ++
      s!"strategy {s.identifierStrategy.name}, mode {s.executionMode.name}"
    (.ok (), odd ++ [.info line])
  | problems => (.error (.invalid problems), odd)

/-- The settings in the text of a file. -/
def ofText (source : String) : Except SettingsError Settings :=
  (libraries.ofToml source).mapError .noSettings

/-- The settings in a file. -/
def ofFile (file : File) : Except SettingsError Settings :=
  match file.contents with
  | .ok source => libraries.ofText source
  | .error cause => .error (.unreadable file.path cause)

/-- The settings in an optional file, or the defaults. -/
def ofOptionalFile : Option File → Except SettingsError Settings
  | some file => libraries.ofFile file
  | none => .ok {}

/-- Load settings: the file, or the defaults, under the variables of the environment, checked. -/
def load (file : Option File) (env : String → Option String) :
    Except SettingsError Settings × Journal :=
  match libraries.ofOptionalFile file with
  | .error e => (.error e, fileLines file)
  | .ok base =>
    match ofEnvironment env with
    | .error e => (.error e, fileLines file)
    | .ok given =>
      let settings := given.over base
      let (checked, journal) := libraries.validate settings
      (checked.map fun _ => settings, fileLines file ++ journal)

end Libraries

/-! ## Loading -/

/-- The libraries of the program. A text without settings is not looked into for its cause. -/
def Libraries.standard : Libraries where
  ofToml source := (Settings.ofToml? source).elim (.error "not a document of settings") .ok
  filterDefect? := Settings.filterDefect?

/-- The settings in the text of a file. -/
def ofToml (source : String) : Except SettingsError Settings :=
  Libraries.standard.ofText source

/-- Check settings. -/
def validate (s : Settings) : Except SettingsError Unit × Journal :=
  Libraries.standard.validate s

/-- Load settings from an optional file and the environment. -/
def load (file : Option File) (env : String → Option String) :
    Except SettingsError Settings × Journal :=
  Libraries.standard.load file env

end Settings

end GraphFilter
