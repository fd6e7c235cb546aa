/-!
# `GraphFilter.Query.Dialect` — the phrases of a query language

A query is put together from a handful of phrases; a `Dialect` says how a query language writes each
of them. `Dialect.cypher` is the language of graph databases that bind parameters as `$name`.
-/

namespace GraphFilter.Query

/-- The phrases of a query language. The first argument of a phrase about a bound entity is the
    name that it is bound to. -/
structure Dialect where
  name : String
  /-- An identifier in the quotes of the language. -/
  quote : String → String
  /-- A reference to a named parameter. -/
  placeholder : String → String
  /-- The pattern that binds every node. -/
  nodePattern : String → String
  /-- The pattern that binds every edge. -/
  edgePattern : String → String
  /-- The bound node has the label that a placeholder holds. -/
  hasLabel : String → String → String
  /-- The bound edge has the type that a placeholder holds. -/
  hasType : String → String → String
  /-- The property whose name a placeholder holds. -/
  dynamicProperty : String → String → String
  /-- The property of a name that is written into the query. -/
  inlineProperty : String → String → String :=
    fun binder property => binder ++ "." ++ quote property

/-- A backtick inside backticks is written twice. -/
def doubleBacktick (c : Char) : List Char :=
  if c = '\x60' then ['\x60', '\x60'] else [c]

/-- A name between backticks. -/
def backtickQuoted (name : String) : String :=
  String.ofList ('\x60' :: (name.toList.flatMap doubleBacktick ++ ['\x60']))

/-- Cypher. -/
def Dialect.cypher : Dialect where
  name := "Cypher"
  quote := backtickQuoted
  placeholder key := s!"${key}"
  nodePattern binder := s!"({binder})"
  edgePattern binder := s!"()-[{binder}]->()"
  hasLabel binder placeholder := s!"{placeholder} IN labels({binder})"
  hasType binder placeholder := s!"type({binder}) = {placeholder}"
  dynamicProperty binder placeholder := s!"{binder}[{placeholder}]"

end GraphFilter.Query
