import GraphFilter.Query.ReadQuery

/-!
# `GraphFilter.Store.Basic` — what an engine asks of a graph store

A store hands out its entities, so that conditions can be evaluated here. One that evaluates
conditions itself answers queries with references to the entities that match. What a store does not
offer it refuses by name.

## Contents
- **Errors.** `StoreError` with its wording.
- **Stores.** `GraphStore` is a store whose calls run in a monad.
- **Calls.** `GraphStore.recorded` lets a store keep a list of the calls that it was given.
-/

namespace GraphFilter

/-! ## Errors -/

/-- Something that a store may be unable to do. -/
inductive StoreOperation
  | queryNodes
  | queryEdges
  | shortestPath
  | fetchNodes
  | fetchEdges
  deriving DecidableEq, Repr

/-- The words for an operation. -/
def StoreOperation.text : StoreOperation → String
  | .queryNodes => "node pushdown"
  | .queryEdges => "edge pushdown"
  | .shortestPath => "shortest path"
  | .fetchNodes => "fetching nodes"
  | .fetchEdges => "fetching edges"

/-- Why a store fails. Where a library fails, its own account of it is kept. -/
inductive StoreError
  /-- The store does not offer the operation. -/
  | unsupported (store : String) (operation : StoreOperation)
  /-- The file of a graph cannot be read. -/
  | unreadable (cause : String)
  /-- The file of a graph holds no graph. -/
  | noGraph (defect : Json.Defect) (cause : String)
  /-- A query failed, with a message of the store. -/
  | query (message : String)
  deriving DecidableEq, Repr

/-- The text of an error. -/
def StoreError.message : StoreError → String
  | .unsupported store operation => s!"The {store} store does not support {operation.text}"
  | .unreadable cause => s!"Failed to read graph document: {cause}"
  | .noGraph _ cause => s!"Failed to parse graph document: {cause}"
  | .query message => s!"Store query failed: {message}"

/-! ## Stores -/

/-- A graph store. A store that `supportsPushdown` evaluates conditions itself. -/
structure GraphStore (m : Type → Type) [Monad m] where
  name : String
  fetchNodes : m (Except StoreError (List Node))
  fetchEdges : m (Except StoreError (List Edge))
  supportsPushdown : Bool := false
  queryNodes : Query.ReadQuery → m (Except StoreError (List NodeRef)) :=
    fun _ => pure (.error (.unsupported name .queryNodes))
  queryEdges : Query.ReadQuery → m (Except StoreError (List EdgeRef)) :=
    fun _ => pure (.error (.unsupported name .queryEdges))
  shortestPath : Query.PathRequest → m (Except StoreError Subgraph) :=
    fun _ => pure (.error (.unsupported name .shortestPath))

/-! ## Calls -/

/-- A call that a store was given. -/
inductive StoreCall
  | fetchNodes
  | fetchEdges
  | queryNodes (q : Query.ReadQuery)
  | queryEdges (q : Query.ReadQuery)
  | shortestPath (r : Query.PathRequest)

/-- Note a call, then make it. -/
def StoreCall.noting {m : Type → Type} [Monad m] {α : Type} (call : StoreCall) (answer : m α) :
    StateT (List StoreCall) m α := do
  modify (· ++ [call])
  answer

/-- The same store, keeping the calls that it was given, oldest first. -/
def GraphStore.recorded {m : Type → Type} [Monad m] (s : GraphStore m) :
    GraphStore (StateT (List StoreCall) m) where
  name := s.name
  fetchNodes := StoreCall.fetchNodes.noting s.fetchNodes
  fetchEdges := StoreCall.fetchEdges.noting s.fetchEdges
  supportsPushdown := s.supportsPushdown
  queryNodes q := (StoreCall.queryNodes q).noting (s.queryNodes q)
  queryEdges q := (StoreCall.queryEdges q).noting (s.queryEdges q)
  shortestPath r := (StoreCall.shortestPath r).noting (s.shortestPath r)

end GraphFilter
