/-!
# `GraphFilter.CommandLine.Arguments` — the arguments of the program

The program has four commands. Each takes one file and options of its own; `--config` may stand
before the name of the command or after it. The words are read from left to right, and a request for
help or for the version ends the reading.

## Contents
- **Commands.** `Command`, `Invocation`.
- **Words.** `Word`, the value of an option (`takeOption`), and what a command was `Given`.
- **Reading.** `Invocation.ofArguments`.
-/

namespace GraphFilter.CommandLine

/-! ## Commands -/

/-- What the program is asked to do, by which files and options. -/
inductive Command
  /-- Check a condition and write it in its plain form. -/
  | validate (condition : String)
  /-- Compile a condition to a query. -/
  | compile (condition target : String) (strategy : Option String)
  /-- Filter a graph. -/
  | filter (graph : String) (nodes edges : Option String) (includeSubsidiary : Bool)
      (output : Option String)
  /-- Close an answer. -/
  | consolidate (answer : String) (includeSubsidiary : Bool) (output : Option String)
  deriving DecidableEq, Repr

/-- What the arguments ask for. -/
inductive Invocation
  | run (config : Option String) (command : Command)
  | version
  | help
  /-- The arguments make no sense. -/
  | misuse
  deriving DecidableEq, Repr

/-! ## Words -/

/-- The names of the commands. -/
inductive CommandName
  | validate
  | compile
  | filter
  | consolidate
  deriving DecidableEq, Repr

/-- The command of a name. -/
def CommandName.ofName? : String → Option CommandName
  | "validate" => some .validate
  | "compile" => some .compile
  | "filter" => some .filter
  | "consolidate" => some .consolidate
  | _ => none

/-- The options of a command that take a value. -/
def CommandName.valued : CommandName → List String
  | .validate => ["config"]
  | .compile => ["config", "target", "strategy"]
  | .filter => ["config", "nodes", "edges", "output"]
  | .consolidate => ["config", "output"]

/-- The options of a command that take no value. -/
def CommandName.flags : CommandName → List String
  | .validate | .compile => []
  | .filter | .consolidate => ["include-subsidiary"]

/-- A word of the arguments. -/
inductive Word
  /-- `--name` or `--name=value`. -/
  | long (name : String) (value : Option String)
  /-- Letters behind one dash. -/
  | short (letters : List Char)
  /-- Two dashes alone: only plain words follow. -/
  | escape
  | plain (word : String)

/-- What kind of word a word is. A single dash is a plain word. -/
def Word.ofString (word : String) : Word :=
  match word.toList with
  | ['-', '-'] => .escape
  | '-' :: '-' :: rest =>
    let name := rest.takeWhile (· != '=')
    match rest.dropWhile (· != '=') with
    | [] => .long (String.ofList name) none
    | _ :: value => .long (String.ofList name) (some (String.ofList value))
  | '-' :: c :: rest => .short (c :: rest)
  | _ => .plain word

/-- What a command was given: its plain words, its options in order, each at most once, and the
    flags that are set. -/
structure Given where
  plain : List String := []
  options : List (String × String) := []
  flags : List String := []

/-- The value of an option. -/
def Given.option? (g : Given) (name : String) : Option String :=
  g.options.lookup name

/-- Give an option a value; none if it has one. -/
def Given.addOption (g : Given) (name value : String) : Option Given :=
  if (g.option? name).isSome then none else some { g with options := g.options ++ [(name, value)] }

/-- Set a flag; none if it is set. -/
def Given.addFlag (g : Given) (name : String) : Option Given :=
  if g.flags.contains name then none else some { g with flags := g.flags ++ [name] }

/-- The value of an option, and the words after it: the value behind `=`, or else the next word,
    which must be plain. -/
def takeOption (value : Option String) (words : List String) : Option (String × List String) :=
  match value, words with
  | some value, words => some (value, words)
  | none, [] => none
  | none, word :: rest =>
    match Word.ofString word with
    | .plain value => some (value, rest)
    | _ => none

/-! ## Reading -/

/-- What reading the words of a command comes to. -/
inductive Outcome
  | given (g : Given)
  | help
  | misuse

/-- Read the words after the name of a command. An option whose value is a word of its own takes
    the next word too, so `fuel` words are read at most. -/
def readWords (name : CommandName) : (fuel : Nat) → Given → List String → Outcome
  | _, g, [] => .given g
  | 0, _, _ :: _ => .misuse
  | fuel + 1, g, word :: rest =>
    match Word.ofString word with
    | .escape => .given { g with plain := g.plain ++ rest }
    | .plain file =>
      if g.plain.isEmpty then readWords name fuel { g with plain := [file] } rest else .misuse
    | .short ('h' :: _) => .help
    | .short _ => .misuse
    | .long "help" none => .help
    | .long option value =>
      if name.valued.contains option then
        match takeOption value rest with
        | none => .misuse
        | some (value, rest) =>
          match g.addOption option value with
          | some g => readWords name fuel g rest
          | none => .misuse
      else if name.flags.contains option && value.isNone then
        match g.addFlag option with
        | some g => readWords name fuel g rest
        | none => .misuse
      else .misuse

/-- The command that was given; it has exactly one plain word, its file. -/
def CommandName.command? (name : CommandName) (g : Given) : Option Command :=
  match g.plain with
  | [file] =>
    some <|
      let stubs := g.flags.contains "include-subsidiary"
      match name with
      | .validate => .validate file
      | .compile => .compile file ((g.option? "target").getD "nodes") (g.option? "strategy")
      | .filter => .filter file (g.option? "nodes") (g.option? "edges") stubs (g.option? "output")
      | .consolidate => .consolidate file stubs (g.option? "output")
  | _ => none

/-- Read the words of a command; its own `--config` counts before the one in front. -/
def readCommand (config : Option String) (name : CommandName) (words : List String) : Invocation :=
  match readWords name words.length {} words with
  | .help => .help
  | .misuse => .misuse
  | .given g =>
    match name.command? g with
    | some command => .run (g.option? "config" <|> config) command
    | none => .misuse

/-- Read the words after `help`: none, or the name of one command. -/
def readHelp : List String → Invocation
  | [] => .help
  | [word] => if word = "help" || (CommandName.ofName? word).isSome then .help else .misuse
  | _ => .misuse

/-- Read all words, at most `fuel` of them in front of the command. -/
def readInvocation : (fuel : Nat) → (config : Option String) → List String → Invocation
  | 0, _, _ | _, _, [] => .misuse
  | fuel + 1, config, word :: rest =>
    match Word.ofString word with
    | .escape => .misuse
    | .plain word =>
      if word = "help" then readHelp rest
      else
        match CommandName.ofName? word with
        | some name => readCommand config name rest
        | none => .misuse
    | .short ('h' :: _) => .help
    | .short ('V' :: _) => .version
    | .short _ => .misuse
    | .long "help" none => .help
    | .long "version" none => .version
    | .long "config" value =>
      match takeOption value rest with
      | some (value, rest) =>
        if config.isSome then .misuse else readInvocation fuel (some value) rest
      | none => .misuse
    | .long _ _ => .misuse

/-- What the arguments ask for. -/
def Invocation.ofArguments (arguments : List String) : Invocation :=
  readInvocation arguments.length none arguments

end GraphFilter.CommandLine
