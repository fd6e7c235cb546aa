import GraphFilter.CommandLine.Arguments
import GraphFilter.Settings.Load
import GraphFilter.Store.Memory

/-!
# `GraphFilter.CommandLine.Run` — the commands of the program

A command reads its files through a `Host`, which stands for the machine, and either prints a
document, writes it to a file, or fails. The settings are loaded before anything else, and arguments
that are no words of theirs fail before a file is read.

## Contents
- **Hosts.** `Host`, `CommandError`.
- **Commands.** One function each, joined in `Command.run`.
- **The program.** `run` answers a list of arguments.
-/

namespace GraphFilter.CommandLine

/-! ## Hosts -/

/-- The machine as a command sees it. What fails tells the cause. -/
structure Host (m : Type → Type) where
  /-- The text of a file, unless it cannot be read or is no text. -/
  read : String → m (Except String String)
  /-- Replace a file, unless that is impossible. -/
  write : String → String → m (Except String Unit)
  /-- The variables of the environment. -/
  env : String → Option String
  /-- What is wrong with a text that has a defect. -/
  explain : String → Json.Defect → String

/-- Why a command fails. -/
inductive CommandError
  /-- A file cannot be read or written. -/
  | file (cause : String)
  /-- A file holds no JSON, or JSON of another shape. -/
  | json (cause : String)
  | condition (e : Condition.Error)
  | engine (e : EngineError)
  /-- The graph cannot be loaded. -/
  | store (e : StoreError)
  | settings (e : SettingsError)
  | argument (message : String)
  deriving DecidableEq, Repr

/-- The text of an error. -/
def CommandError.message : CommandError → String
  | .file cause => s!"Failed to read input file: {cause}"
  | .json cause => s!"Failed to parse JSON input: {cause}"
  | .condition e => s!"Invalid condition: {e.message}"
  | .engine e => s!"Filtering failed: {e.message}"
  | .store e => s!"Failed to load graph: {e.message}"
  | .settings e => s!"Invalid settings: {e.message}"
  | .argument message => s!"Invalid argument: {message}"

/-- A command: it may fail, and it keeps a journal. -/
abbrev Action (m : Type → Type) := ExceptT CommandError (StateT Journal m)

namespace Action

variable {m : Type → Type} [Monad m] {α : Type}

/-- Go on with a result or fail. -/
def ofResult {ε : Type} (wrap : ε → CommandError) (result : Except ε α) : Action m α :=
  ExceptT.mk (pure (result.mapError wrap))

/-- Go on with a result or fail, after writing lines. -/
def ofNoted {ε : Type} (wrap : ε → CommandError) (noted : Except ε α × Journal) : Action m α := do
  modifyThe Journal (· ++ noted.2)
  ofResult wrap noted.1

/-- The text of a file, if it can be read. -/
def tryFile (host : Host m) (path : String) : Action m (Except String String) :=
  ExceptT.mk do
    let contents ← (host.read path : m (Except String String))
    return .ok contents

/-- The text of a file. -/
def readFile (host : Host m) (path : String) : Action m String := do
  ofResult .file (← tryFile host path)

/-- The document in a file. -/
def readJson (host : Host m) (path : String) : Action m Json := do
  let source ← readFile host path
  match Json.parse? source with
  | some j => return j
  | none => throw (.json (host.explain source .malformed))

/-- The document in a file that may not be asked for. -/
def readOptionalJson (host : Host m) : Option String → Action m (Option Json)
  | some path => some <$> readJson host path
  | none => return none

/-- The condition in a file. -/
def readCondition (host : Host m) (path : String) : Action m Condition := do
  ofResult .condition (Condition.decode (← readJson host path))

end Action

/-! ## Commands -/

/-- Where a document goes. -/
structure Printed where
  document : Json
  output : Option String := none

variable {m : Type → Type} [Monad m]

/-- Compile a condition under the settings and report the query. -/
def compileReport (settings : Settings) (kind : EntityKind) (strategy : IdentifierStrategy)
    (c : Condition) : Except Condition.Error Json := do
  let compiler : Query.Compiler :=
    { kind := kind, binder := settings.entityVariable, strategy := strategy }
  let predicate ← compiler.predicate c
  let query := Query.ReadQuery.ofPredicate compiler.dialect kind compiler.binder predicate
  return .object
    [("kind", .string query.kind.name), ("fragment", .ofOption .string predicate.fragment),
      ("query", .string query.text), ("parameters", query.parameters.toJson)]

/-- The strategy of an optional word, or that of the settings. -/
def chooseStrategy (settings : Settings) : Option String → Except String IdentifierStrategy
  | some word => IdentifierStrategy.ofWord word
  | none => .ok settings.identifierStrategy

/-- Run a command under the settings. -/
def Command.run (host : Host m) (settings : Settings) : Command → Action m Printed
  | .validate path => do
    let c ← Action.readCondition host path
    return { document := c.toJson }
  | .compile path target strategy => do
    let kind ← Action.ofResult .argument (EntityKind.ofWord target)
    let strategy ← Action.ofResult .argument (chooseStrategy settings strategy)
    let c ← Action.readCondition host path
    let report ← Action.ofResult .condition (compileReport settings kind strategy c)
    return { document := report }
  | .filter graph nodes edges includeSubsidiary output => do
    let contents ← Action.tryFile host graph
    let g ← Action.ofNoted .store (Graph.load host.explain graph contents)
    let engine : Engine Id := { store := .memory g, options := settings.options }
    let request : Engine.Request :=
      { nodes := ← Action.readOptionalJson host nodes
        edges := ← Action.readOptionalJson host edges
        includeSubsidiary := if includeSubsidiary then some true else none }
    let answer ← Action.ofNoted .engine (Id.run ((engine.filterGraph request).run.run []))
    return { document := answer.toJson, output := output }
  | .consolidate path includeSubsidiary output => do
    let source ← Action.readFile host path
    let answer ← Action.ofResult (fun defect => .json (host.explain source defect))
      (Subgraph.reader.ofText source)
    let closed := answer.consolidate (includeSubsidiary || settings.includeSubsidiary)
    return { document := closed.toJson, output := output }

/-- Load the settings, from a file if one is named. -/
def loadSettings (host : Host m) (config : Option String) : Action m Settings := do
  let file ← match config with
    | some path => some <$> (Settings.File.mk path <$> Action.tryFile host path)
    | none => pure none
  Action.ofNoted .settings (Settings.load file host.env)

/-- Print a document, or write it to its file; the result is what is printed. -/
def deliver (host : Host m) (printed : Printed) : Action m String := do
  let text := printed.document.pretty
  match printed.output with
  | none => return text ++ "\n"
  | some path =>
    let written ← ExceptT.mk do
      let done ← (host.write path text : m (Except String Unit))
      return .ok done
    Action.ofResult .file written
    return ""

/-! ## The program -/

/-- How a run of the program ends. -/
structure Ending where
  exitCode : UInt32
  stdout : String := ""
  error : Option CommandError := none
  journal : Journal := []

/-- The line that tells the version. -/
def versionLine : String := "sieve 0.1.0\n"

/-- A short account of the commands. -/
def usage : String :=
  String.intercalate "\n"
    [ "Graph filter-condition engine",
      "",
      "sieve [--config FILE] validate CONDITION",
      "sieve [--config FILE] compile CONDITION [--target KIND] [--strategy NAME]",
      "sieve [--config FILE] filter GRAPH [--nodes FILE] [--edges FILE] [--include-subsidiary]",
      "      [--output FILE]",
      "sieve [--config FILE] consolidate RESULT [--include-subsidiary] [--output FILE]",
      "" ]

/-- Run a command from loading the settings to delivering its document. -/
def perform (host : Host m) (config : Option String) (command : Command) : Action m String := do
  let settings ← loadSettings host config
  let printed ← command.run host settings
  deliver host printed

/-- Run the program on its arguments. A request that is refused ends with 1, arguments that make no
    sense with 2. -/
def run (host : Host m) (arguments : List String) : m Ending :=
  match Invocation.ofArguments arguments with
  | .version => return { exitCode := 0, stdout := versionLine }
  | .help => return { exitCode := 0, stdout := usage }
  | .misuse => return { exitCode := 2 }
  | .run config command => do
    let (result, journal) ← (perform host config command).run.run []
    match result with
    | .ok text => return { exitCode := 0, stdout := text, journal := journal }
    | .error e => return { exitCode := 1, error := some e, journal := journal }

end GraphFilter.CommandLine
