import GraphFilter.Journal
import GraphFilter.Store.Basic

/-!
# `GraphFilter.Store.Memory` — stores that need no database

`GraphStore.memory` holds a graph and only hands it out. `GraphStore.canned` is the opposite: it
answers every query with what it was given beforehand and hands nothing out.
-/

namespace GraphFilter

variable {m : Type → Type} [Monad m]

/-- A store that holds a graph in memory. It leaves conditions to the engine. -/
def GraphStore.memory (g : Graph) : GraphStore m where
  name := "memory"
  fetchNodes := pure (.ok g.nodes)
  fetchEdges := pure (.ok g.edges)

/-- A store that answers queries with fixed nodes and edges and path requests with a fixed path. -/
def GraphStore.canned (answer path : Subgraph) : GraphStore m where
  name := "recording"
  fetchNodes := pure (.error (.unsupported "recording" .fetchNodes))
  fetchEdges := pure (.error (.unsupported "recording" .fetchEdges))
  supportsPushdown := true
  queryNodes _ := pure (.ok answer.nodes)
  queryEdges _ := pure (.ok answer.edges)
  shortestPath _ := pure (.ok path)

/-- The graph in a file whose text is given, or the cause why the file cannot be read. What is wrong
    with a text that holds no graph is left to `explain`. -/
def Graph.load (explain : String → Json.Defect → String) (path : String)
    (contents : Except String String) : Except StoreError Graph × Journal :=
  match contents with
  | .error cause => (.error (.unreadable cause), [])
  | .ok source =>
    match Graph.reader.ofText source with
    | .error defect => (.error (.noGraph defect (explain source defect)), [])
    | .ok g =>
      let line := s!"Loaded graph from {path}: {g.nodes.length} node(s), {g.edges.length} edge(s)"
      (.ok g, [.info line])

end GraphFilter
