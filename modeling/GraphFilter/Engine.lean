import GraphFilter.Condition.Validity
import GraphFilter.Condition.Wire
import GraphFilter.Journal
import GraphFilter.Selection
import GraphFilter.Store.Basic

/-!
# `GraphFilter.Engine` — requests answered over a store

An engine decodes the conditions of a request, evaluates them here or has the store evaluate them,
and makes a closed subgraph of the answers. Whatever is wrong with a request is found before the
store is asked for the part of the answer that it concerns.

## Contents
- **Options.** `ExecutionMode`, `EngineOptions`.
- **Runs.** An operation of an engine fails with an `EngineError` and keeps a journal.
- **Selecting.** `Engine.selectNodes` and `Engine.selectEdges` answer one condition.
- **Requests.** `Engine.filterNodes`, `Engine.filterEdges`, `Engine.filterGraph`,
  `Engine.shortestPath`.
-/

namespace GraphFilter

/-! ## Options -/

/-- Where conditions are evaluated. -/
inductive ExecutionMode
  /-- By the store if it can, otherwise here. -/
  | auto
  | inMemory
  | pushdown
  deriving DecidableEq, Repr

namespace ExecutionMode

/-- The name of a mode. -/
def name : ExecutionMode → String
  | .auto => "auto"
  | .inMemory => "in-memory"
  | .pushdown => "pushdown"

/-- The mode of exactly this name. -/
def ofName? : String → Option ExecutionMode
  | "auto" => some .auto
  | "in-memory" => some .inMemory
  | "pushdown" => some .pushdown
  | _ => none

/-- The mode that a word of settings names; the error is a message. -/
def ofWord (word : String) : Except String ExecutionMode :=
  let word := Text.normalizeWord word
  if word = "memory" then .ok .inMemory
  else
    match ofName? word with
    | some mode => .ok mode
    | none => .error s!"unknown execution mode '{word}'"

end ExecutionMode

/-- What an engine does when a request does not say. -/
structure EngineOptions where
  /-- The name that queries bind entities to. -/
  binder : String := "n"
  strategy : IdentifierStrategy := .dynamicKey
  mode : ExecutionMode := .auto
  /-- Whether missing ends of edges get stubs. -/
  includeSubsidiary : Bool := false

/-! ## Runs -/

/-- Why a request is not answered. -/
inductive EngineError
  | condition (e : Condition.Error)
  | store (e : StoreError)
  deriving DecidableEq, Repr

namespace EngineError

/-- Whether the request is at fault, and not the store. -/
def isClientError : EngineError → Bool
  | .condition _ => true
  | .store _ => false

/-- The text of an error. -/
def message : EngineError → String
  | .condition e => s!"Invalid condition: {e.message}"
  | .store e => s!"Store error: {e.message}"

end EngineError

/-- An operation of an engine: it calls a store, writes lines and may fail. The lines stay when it
    fails. -/
abbrev Run (m : Type → Type) := ExceptT EngineError (StateT Journal m)

namespace Run

variable {m : Type → Type} [Monad m] {α : Type}

/-- Write a line. -/
def note (line : JournalLine) : Run m Unit :=
  modifyThe Journal (· ++ [line])

/-- Write a line several times. -/
def noteTimes (n : Nat) (line : JournalLine) : Run m Unit :=
  modifyThe Journal (· ++ List.replicate n line)

/-- Fail if the request is at fault. -/
def ofCondition (checked : Except Condition.Error α) : Run m α :=
  ExceptT.mk (pure (checked.mapError .condition))

/-- Make a call to a store. -/
def ofStore (call : m (Except StoreError α)) : Run m α :=
  ExceptT.mk do
    let answer ← (call : m (Except StoreError α))
    return answer.mapError .store

end Run

/-- A store with the options of the requests to it. -/
structure Engine (m : Type → Type) [Monad m] where
  store : GraphStore m
  options : EngineOptions := {}

namespace Engine

variable {m : Type → Type} [Monad m]

/-! ## Selecting -/

/-- The compiler for the entities of a kind. -/
def compiler (engine : Engine m) (kind : EntityKind) : Query.Compiler where
  kind := kind
  binder := engine.options.binder
  strategy := engine.options.strategy

/-- Warn of empty disjunctions in a condition that is compiled. -/
def noteUnconstrained (engine : Engine m) (kind : EntityKind) (c : Condition) : Run m Unit :=
  Run.noteTimes (Query.Compiler.emptyAnys engine.options.strategy c)
    (.warn s!"Empty 'any' condition places no constraint on {kind.name}s")

/-- Warn of empty disjunctions in a condition that is evaluated. -/
def noteMatchesAll (kind : EntityKind) (c : Condition) : Run m Unit :=
  Run.noteTimes c.emptyAnys (.warn s!"Empty 'any' condition matches every {kind.name}")

/-- The query that a store is given for a condition. -/
def compile (engine : Engine m) (kind : EntityKind) (c : Condition) : Run m Query.ReadQuery := do
  engine.noteUnconstrained kind c
  Run.ofCondition ((engine.compiler kind).query c)

/-- Whether the store evaluates conditions. -/
def usesPushdown (engine : Engine m) : Bool :=
  match engine.options.mode with
  | .auto => engine.store.supportsPushdown
  | .inMemory => false
  | .pushdown => true

/-- Answer a condition on the entities of a kind, by a query or on all entities of the store. -/
def select {E R : Type} (engine : Engine m) (kind : EntityKind)
    (query : Query.ReadQuery → m (Except StoreError (List R)))
    (fetch : m (Except StoreError (List E))) (evaluate : Condition → List E → List R)
    (c : Condition) : Run m (List R) := do
  Run.ofCondition c.validate
  if engine.usesPushdown then
    let q ← engine.compile kind c
    Run.ofStore (query q)
  else
    let candidates ← Run.ofStore fetch
    noteMatchesAll kind c
    return evaluate c candidates

/-- The nodes that a condition selects, each once. -/
def selectNodes (engine : Engine m) (c : Condition) : Run m (List NodeRef) := do
  let nodes ← engine.select .node engine.store.queryNodes engine.store.fetchNodes
    Condition.selectNodes c
  return firstPerId NodeRef.id nodes

/-- The edges that a condition selects, each once. -/
def selectEdges (engine : Engine m) (c : Condition) : Run m (List EdgeRef) := do
  let edges ← engine.select .edge engine.store.queryEdges engine.store.fetchEdges
    Condition.selectEdges c
  return firstPerId EdgeRef.id edges

/-! ## Requests -/

/-- A request for a subgraph: a condition for each kind, absent when there is no constraint, and
    whether missing ends of edges get stubs, absent when the options decide. -/
structure Request where
  nodes : Option Json := none
  edges : Option Json := none
  includeSubsidiary : Option Bool := none

/-- A request as an object; absent members are left out. -/
def Request.toJson (r : Request) : Json :=
  .object
    ((r.nodes.map fun j => ("nodes", j)).toList ++ (r.edges.map fun j => ("edges", j)).toList ++
      (r.includeSubsidiary.map fun b => ("include_subsidiary", .bool b)).toList)

/-- The members of a request while it is read. -/
structure Request.Members where
  nodes : Option (Option Json) := none
  edges : Option (Option Json) := none
  includeSubsidiary : Option (Option Bool) := none

/-- Reads a request; a member that is `null` counts as absent. -/
def Request.reader : Json.Reader Request :=
  let record : Json.Record Request.Members :=
    { members :=
        [ .field "nodes" (.nullable .json) (·.nodes) fun s x => { s with nodes := some x },
          .field "edges" (.nullable .json) (·.edges) fun s x => { s with edges := some x },
          .field "include_subsidiary" (.nullable .bool) (·.includeSubsidiary) fun s x =>
            { s with includeSubsidiary := some x } ] }
  record.read {} fun s =>
    some ⟨s.nodes.getD none, s.edges.getD none, s.includeSubsidiary.getD none⟩

/-- Read a condition, or have none that constrains anything. -/
def decodeOrAll : Option Json → Except Condition.Error Condition
  | some payload => Condition.decode payload
  | none => .ok (.all [])

/-- The nodes that a condition in a document selects. -/
def filterNodes (engine : Engine m) (payload : Json) : Run m (List NodeRef) := do
  let c ← Run.ofCondition (Condition.decode payload)
  engine.selectNodes c

/-- The edges that a condition in a document selects. -/
def filterEdges (engine : Engine m) (payload : Json) : Run m (List EdgeRef) := do
  let c ← Run.ofCondition (Condition.decode payload)
  engine.selectEdges c

/-- The closed subgraph of the nodes and edges that a request selects. Both conditions are read
    before the store is called. -/
def filterGraph (engine : Engine m) (request : Request) : Run m Subgraph := do
  let nodeCondition ← Run.ofCondition (decodeOrAll request.nodes)
  let edgeCondition ← Run.ofCondition (decodeOrAll request.edges)
  let nodes ← engine.selectNodes nodeCondition
  let edges ← engine.selectEdges edgeCondition
  let withStubs := request.includeSubsidiary.getD engine.options.includeSubsidiary
  let result := Subgraph.consolidate ⟨nodes, edges⟩ withStubs
  Run.note (.info
    s!"Filtered graph: {result.nodes.length} node(s), {result.edges.length} edge(s)")
  return result

/-- A shortest path between two nodes, through nodes that a condition lets through. The store finds
    it; the condition is compiled before. -/
def shortestPath (engine : Engine m) (source target : EntityId) (maxHops : Option UInt32)
    (nodeFilter : Option Json) : Run m Subgraph := do
  let c ← Run.ofCondition (decodeOrAll nodeFilter)
  engine.noteUnconstrained .node c
  let predicate ← Run.ofCondition ((engine.compiler .node).predicate c)
  Run.note (.info
    s!"Shortest path {source.toInt} -> {target.toInt} via the {engine.store.name} store")
  let path ← Run.ofStore (engine.store.shortestPath ⟨source, target, maxHops, predicate⟩)
  return path.consolidate engine.options.includeSubsidiary

end Engine

end GraphFilter
