import GraphFilter.Condition.Visitor
import GraphFilter.Graph.Subgraph

/-!
# `GraphFilter.Selection` — conditions evaluated on lists of entities

A walk over a condition narrows a list of candidates: an `all` narrows by one filter after the
other, an `any` gives every filter the same candidates and joins what they keep, the first of each
id. An `any` without filters keeps all candidates.
-/

namespace GraphFilter

variable {E : Type} [Entity E]

/-- Keep what some filter keeps, the first of each id; without filters keep everything. -/
def keepAny (filters : List (List E → List E)) (candidates : List E) : List E :=
  match filters with
  | [] => candidates
  | filters => firstPerId Entity.id (filters.flatMap fun filter => filter candidates)

/-- The visitor that narrows a list of candidates. -/
def selector : Condition.Visitor Id (List E) where
  ofType name candidates := candidates.filter fun e => Entity.hasType e name
  matchProperty property value candidates :=
    candidates.filter fun e => Condition.hasProperty e property value
  any := keepAny

/-- The candidates that a condition selects. -/
def Condition.select (c : Condition) (candidates : List E) : List E :=
  Id.run (c.visit selector candidates)

/-- The nodes that a condition selects, as an answer. -/
def Condition.selectNodes (c : Condition) (candidates : List Node) : List NodeRef :=
  (c.select candidates).map Node.ref

/-- The edges that a condition selects, as an answer. -/
def Condition.selectEdges (c : Condition) (candidates : List Edge) : List EdgeRef :=
  (c.select candidates).map Edge.ref

/-- The number of empty disjunctions that a walk meets: every node is visited once. -/
def Condition.emptyAnys (c : Condition) : Nat :=
  c.preorder.countP Condition.isEmptyAny

end GraphFilter
