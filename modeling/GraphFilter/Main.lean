import GraphFilter.CommandLine.Run

/-!
# `GraphFilter.Main` — the program

Connects the commands to the machine: files, environment, standard output and standard error.
-/

open GraphFilter GraphFilter.CommandLine

/-- The text of a file, unless it cannot be read or is no text. -/
def readTextFile (path : String) : IO (Except String String) := do
  return (← (IO.FS.readFile path).toBaseIO).mapError toString

/-- Replace a file, unless that is impossible. -/
def writeTextFile (path text : String) : IO (Except String Unit) := do
  return (← (IO.FS.writeFile path text).toBaseIO).mapError toString

/-- A short account of a defect in a text. -/
def explainDefect : Json.Defect → String
  | .malformed => "not a JSON text"
  | .misshapen => "a document of another shape"

/-- The machine that the program runs on, with the variables that it looks at. -/
def machine : IO (Host IO) := do
  let names : List String :=
    [ SettingsVariable.entityVariable.name, SettingsVariable.identifierStrategy.name,
      SettingsVariable.executionMode.name, SettingsVariable.includeSubsidiary.name,
      SettingsVariable.logLevel.name ]
  let settings ← names.mapM fun name => do return (name, ← IO.getEnv name)
  return {
    read := readTextFile
    write := writeTextFile
    env := fun name => (settings.lookup name).join
    explain := fun _ => explainDefect }

/-- Run the program: journal and errors go to standard error. -/
def main (arguments : List String) : IO UInt32 := do
  let host ← machine
  let ending ← run host arguments
  for line in ending.journal do
    IO.eprintln line.render
  if let some e := ending.error then
    IO.eprintln e.message
  if ending.exitCode == 2 then
    IO.eprint usage
  IO.print ending.stdout
  return ending.exitCode
