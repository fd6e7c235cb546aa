import GraphFilter.Query.Predicate

/-!
# `GraphFilter.Query.ReadQuery` — queries for a store

A read query binds every entity of a kind, keeps those that a predicate lets through and returns
them. A query is written clause by clause: `Draft` holds its text and parameters so far.
-/

namespace GraphFilter.Query

/-! ## Clause by clause -/

/-- A query under construction. -/
structure Draft where
  text : String := ""
  parameters : Parameters := .empty

namespace Draft

/-- Bind every entity of a kind. -/
def addMatch (d : Dialect) (kind : EntityKind) (binder : String) (q : Draft) : Draft :=
  let pattern := match kind with
    | .node => d.nodePattern binder
    | .edge => d.edgePattern binder
  { q with text := q.text ++ "MATCH " ++ pattern }

/-- Keep what a predicate lets through, and take over its parameters. -/
def addWhere (p : Predicate) (q : Draft) : Draft where
  text := match p.fragment with
    | some fragment => q.text ++ " WHERE " ++ fragment
    | none => q.text
  parameters := q.parameters.union p.parameters

/-- Return what is bound. -/
def addReturn (binder : String) (q : Draft) : Draft :=
  { q with text := q.text ++ " RETURN " ++ binder }

end Draft

/-! ## Read queries -/

/-- A query for the entities of one kind. -/
structure ReadQuery where
  kind : EntityKind
  text : String
  parameters : Parameters

/-- The query for the entities of a kind that a predicate lets through. -/
def ReadQuery.ofPredicate (d : Dialect) (kind : EntityKind) (binder : String) (p : Predicate) :
    ReadQuery :=
  let q := Draft.addReturn binder (Draft.addWhere p (Draft.addMatch d kind binder {}))
  ⟨kind, q.text, q.parameters⟩

/-- The query for the entities that a condition lets through. -/
def Compiler.query (compiler : Compiler) (c : Condition) : Except Condition.Error ReadQuery := do
  let p ← compiler.predicate c
  return .ofPredicate compiler.dialect compiler.kind compiler.binder p

/-- A query as an object. -/
def ReadQuery.toJson (q : ReadQuery) : Json :=
  .object
    [("kind", .string q.kind.name), ("text", .string q.text), ("parameters", q.parameters.toJson)]

/-! ## Paths -/

/-- A request for a shortest path between two nodes, through nodes that a predicate lets through. -/
structure PathRequest where
  source : EntityId
  target : EntityId
  maxHops : Option UInt32 := none
  nodePredicate : Predicate := {}

/-- A path request as an object; a bound on the length is written only when there is one. -/
def PathRequest.toJson (r : PathRequest) : Json :=
  .object
    ([("from", .int r.source), ("to", .int r.target)] ++
      (r.maxHops.map fun n => ("max_hops", .int (Int64.ofNat n.toNat))).toList ++
      [("node_predicate", r.nodePredicate.toJson)])

/-- The members of a path request while it is read. -/
structure PathRequest.Members where
  source : Option EntityId := none
  target : Option EntityId := none
  maxHops : Option (Option UInt32) := none
  nodePredicate : Option Predicate := none

/-- Reads a path request. -/
def PathRequest.reader : Json.Reader PathRequest :=
  let record : Json.Record PathRequest.Members :=
    { members :=
        [ .field "from" .int64 (·.source) fun s x => { s with source := some x },
          .field "to" .int64 (·.target) fun s x => { s with target := some x },
          .field "max_hops" (.nullable .uint32) (·.maxHops) fun s x => { s with maxHops := some x },
          .field "node_predicate" Predicate.reader (·.nodePredicate) fun s x =>
            { s with nodePredicate := some x } ] }
  record.read {} fun s => do
    return ⟨← s.source, ← s.target, s.maxHops.getD none, s.nodePredicate.getD {}⟩

end GraphFilter.Query
