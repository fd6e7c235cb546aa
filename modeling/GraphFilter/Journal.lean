/-!
# `GraphFilter.Journal` — messages that accompany a result

An operation may tell its caller what it did and what is odd about a request. It does so in a
journal: a list of lines, oldest first, that grows while the operation runs.
-/

namespace GraphFilter

/-- How much a line matters. -/
inductive Level
  | info
  | warn
  deriving DecidableEq, Repr

/-- A line of a journal. -/
structure JournalLine where
  level : Level
  text : String
  deriving DecidableEq, Repr

namespace JournalLine

/-- A line that tells what was done. -/
def info (text : String) : JournalLine :=
  ⟨.info, text⟩

/-- A line that tells what is odd. -/
def warn (text : String) : JournalLine :=
  ⟨.warn, text⟩

/-- A line with its level in front. -/
def render (line : JournalLine) : String :=
  match line.level with
  | .info => "INFO " ++ line.text
  | .warn => "WARN " ++ line.text

end JournalLine

/-- The lines of an operation, oldest first. -/
abbrev Journal := List JournalLine

end GraphFilter
