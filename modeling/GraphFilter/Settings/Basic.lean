import GraphFilter.Engine
import GraphFilter.Json.Reader

/-!
# `GraphFilter.Settings.Basic` — settings of the program

Five settings, each with a default. As a document they form a record in which every member may be
left out and no other may stand.
-/

namespace GraphFilter

open Json (Reader Draft Defect Member Record)

/-- The settings of the program. -/
structure Settings where
  /-- The name that queries bind entities to. -/
  entityVariable : String := "n"
  identifierStrategy : IdentifierStrategy := .dynamicKey
  executionMode : ExecutionMode := .auto
  /-- Whether requests that do not say get stubs for missing ends of edges. -/
  includeSubsidiary : Bool := false
  /-- Which journal lines are shown. -/
  logLevel : String := "info"

namespace Settings

/-- The options of an engine under these settings. -/
def options (s : Settings) : EngineOptions where
  binder := s.entityVariable
  strategy := s.identifierStrategy
  mode := s.executionMode
  includeSubsidiary := s.includeSubsidiary

/-- The settings as an object. -/
def toJson (s : Settings) : Json :=
  .object
    [("entity_variable", .string s.entityVariable),
      ("identifier_strategy", .string s.identifierStrategy.name),
      ("execution_mode", .string s.executionMode.name),
      ("include_subsidiary", .bool s.includeSubsidiary), ("log_level", .string s.logLevel)]

/-! ## Members -/

/-- The settings that a source gives. -/
structure Given where
  entityVariable : Option String := none
  identifierStrategy : Option IdentifierStrategy := none
  executionMode : Option ExecutionMode := none
  includeSubsidiary : Option Bool := none
  logLevel : Option String := none

/-- The given settings on top of others. -/
def Given.over (g : Given) (s : Settings) : Settings where
  entityVariable := g.entityVariable.getD s.entityVariable
  identifierStrategy := g.identifierStrategy.getD s.identifierStrategy
  executionMode := g.executionMode.getD s.executionMode
  includeSubsidiary := g.includeSubsidiary.getD s.includeSubsidiary
  logLevel := g.logLevel.getD s.logLevel

/-- Reads a choice among names: the name, or an object whose only member has that name and is
    `null`. Nothing else starts a choice. -/
def choice {α : Type} (ofName? : String → Option α) : Reader α := fun d =>
  match d.expose with
  | .string (some name) =>
    match ofName? name with
    | some a => .ok a
    | none => .error .misshapen
  | .object ((some name, value) :: others) closed deep =>
    if deep then .error .malformed
    else
      match ofName? name, value.expose with
      | none, _ => .error .misshapen
      | some a, .null => if closed && others.isEmpty then .ok a else .error .malformed
      | some _, value => .error (Reader.unwanted value)
  | _ => .error .malformed

/-- Reads settings; a setting that is left out has its default. -/
def reader : Reader Settings :=
  let record : Record Given :=
    { members :=
        [ .field "entity_variable" .string (·.entityVariable) fun s x =>
            { s with entityVariable := some x },
          .field "identifier_strategy" (choice IdentifierStrategy.ofName?) (·.identifierStrategy)
            fun s x => { s with identifierStrategy := some x },
          .field "execution_mode" (choice ExecutionMode.ofName?) (·.executionMode) fun s x =>
            { s with executionMode := some x },
          .field "include_subsidiary" .bool (·.includeSubsidiary) fun s x =>
            { s with includeSubsidiary := some x },
          .field "log_level" .string (·.logLevel) fun s x => { s with logLevel := some x } ]
      allowsOthers := false }
  record.read {} fun given => some (given.over {})

end Settings

end GraphFilter
