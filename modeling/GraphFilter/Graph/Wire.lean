import GraphFilter.Graph.Subgraph
import GraphFilter.Json.Reader

/-!
# `GraphFilter.Graph.Wire` — graphs and answers as JSON

Every type has a `toJson`, which fixes the order of its members, and a `reader`. Lists and maps may
be left out and are empty then; ids and the type of an edge may not.
-/

namespace GraphFilter

open Json (Reader Member Record)

/-! ## Values and maps -/

/-- Reads a property value. -/
def Value.reader : Reader Value := fun d =>
  match Json.Reader.json d with
  | .ok j =>
    match Value.accept? j with
    | some v => .ok v
    | none => .error .misshapen
  | .error defect => .error defect

/-- A map of values as an object, its members sorted. -/
def Dict.toJson (d : Dict Value) : Json :=
  .object (d.entries.map fun e => (e.1, e.2.toJson))

/-! ## Entities -/

/-- A node as an object. -/
def Node.toJson (n : Node) : Json :=
  .object
    [("id", .int n.id), ("labels", .array (n.labels.map .string)),
      ("properties", n.properties.toJson)]

/-- An edge as an object. -/
def Edge.toJson (e : Edge) : Json :=
  .object
    [("id", .int e.id), ("type", .string e.type), ("from", .int e.source), ("to", .int e.target),
      ("properties", e.properties.toJson)]

/-- A graph as an object. -/
def Graph.toJson (g : Graph) : Json :=
  .object [("nodes", .array (g.nodes.map Node.toJson)), ("edges", .array (g.edges.map Edge.toJson))]

/-- The members of a node while it is read. -/
structure Node.Members where
  id : Option EntityId := none
  labels : Option (List String) := none
  properties : Option Properties := none

/-- The members of a node; its labels may be called `types`. -/
def Node.record : Record Node.Members where
  members :=
    [ .field "id" .int64 (·.id) fun s x => { s with id := some x },
      { Member.field "labels" (.list .string) (·.labels) fun s x =>
          { s with labels := some x } with
        names := ["labels", "types"] },
      .field "properties" (.dict Value.reader) (·.properties) fun s x =>
        { s with properties := some x } ]

/-- Reads a node. -/
def Node.reader : Reader Node :=
  Node.record.read {} fun s => do
    return ⟨← s.id, s.labels.getD [], s.properties.getD .empty⟩

/-- The members of an edge while it is read. -/
structure Edge.Members where
  id : Option EntityId := none
  type : Option String := none
  source : Option EntityId := none
  target : Option EntityId := none
  properties : Option Properties := none

/-- The members of an edge. -/
def Edge.record : Record Edge.Members where
  members :=
    [ .field "id" .int64 (·.id) fun s x => { s with id := some x },
      .field "type" .string (·.type) fun s x => { s with type := some x },
      .field "from" .int64 (·.source) fun s x => { s with source := some x },
      .field "to" .int64 (·.target) fun s x => { s with target := some x },
      .field "properties" (.dict Value.reader) (·.properties) fun s x =>
        { s with properties := some x } ]

/-- Reads an edge. -/
def Edge.reader : Reader Edge :=
  Edge.record.read {} fun s => do
    return ⟨← s.id, ← s.type, ← s.source, ← s.target, s.properties.getD .empty⟩

/-- The two lists of a graph or an answer while they are read. -/
structure ListPair (α β : Type) where
  nodes : Option (List α) := none
  edges : Option (List β) := none

/-- The members of a graph or an answer. -/
def ListPair.record {α β : Type} (node : Reader α) (edge : Reader β) : Record (ListPair α β) where
  members :=
    [ .field "nodes" (.list node) (·.nodes) fun s x => { s with nodes := some x },
      .field "edges" (.list edge) (·.edges) fun s x => { s with edges := some x } ]

/-- Reads a graph. -/
def Graph.reader : Reader Graph :=
  (ListPair.record Node.reader Edge.reader).read {} fun s =>
    some ⟨s.nodes.getD [], s.edges.getD []⟩

/-! ## Answers -/

/-- A node of an answer as an object; the mark of a stub is written only when set. -/
def NodeRef.toJson (n : NodeRef) : Json :=
  .object (("id", .int n.id) :: if n.subsidiary then [("subsidiary", .bool true)] else [])

/-- An edge of an answer as an object. -/
def EdgeRef.toJson (e : EdgeRef) : Json :=
  .object [("id", .int e.id), ("from", .int e.source), ("to", .int e.target)]

/-- An answer as an object. -/
def Subgraph.toJson (s : Subgraph) : Json :=
  .object
    [("nodes", .array (s.nodes.map NodeRef.toJson)), ("edges", .array (s.edges.map EdgeRef.toJson))]

/-- The members of a node of an answer while it is read. -/
structure NodeRef.Members where
  id : Option EntityId := none
  subsidiary : Option Bool := none

/-- Reads a node of an answer. -/
def NodeRef.reader : Reader NodeRef :=
  let record : Record NodeRef.Members :=
    { members :=
        [ .field "id" .int64 (·.id) fun s x => { s with id := some x },
          .field "subsidiary" .bool (·.subsidiary) fun s x => { s with subsidiary := some x } ] }
  record.read {} fun s => do return ⟨← s.id, s.subsidiary.getD false⟩

/-- The members of an edge of an answer while it is read. -/
structure EdgeRef.Members where
  id : Option EntityId := none
  source : Option EntityId := none
  target : Option EntityId := none

/-- Reads an edge of an answer. -/
def EdgeRef.reader : Reader EdgeRef :=
  let record : Record EdgeRef.Members :=
    { members :=
        [ .field "id" .int64 (·.id) fun s x => { s with id := some x },
          .field "from" .int64 (·.source) fun s x => { s with source := some x },
          .field "to" .int64 (·.target) fun s x => { s with target := some x } ] }
  record.read {} fun s => do return ⟨← s.id, ← s.source, ← s.target⟩

/-- Reads an answer. -/
def Subgraph.reader : Reader Subgraph :=
  (ListPair.record NodeRef.reader EdgeRef.reader).read {} fun s =>
    some ⟨s.nodes.getD [], s.edges.getD []⟩

end GraphFilter
