import GraphFilter.Proofs.Engine.Calls
import GraphFilter.Proofs.Engine.Returns
import GraphFilter.Proofs.Graph.Delivery
import GraphFilter.Proofs.Selection.Meaning
import GraphFilter.Sample.Films
import GraphFilter.Store.Memory

/-!
# `GraphFilter.Proofs.Engine.MemoryAnswers` — the subgraph that a request selects from a graph

Over a store that only holds a graph, a request is answered by reading two conditions, evaluating
each on a list, dropping repeated ids twice and closing the outcome. Together that is: the nodes that
one condition admits, and the edges that the other admits, with their ends.

## Contents
- **Matching.** `Graph.matching` is what two conditions admit, and the engine selects it.
- **Main result.** `filterGraph_memory_delivers`.
-/

namespace GraphFilter

/-! ## Matching -/

namespace Graph

/-- The nodes and the edges of a graph that two conditions admit. -/
def matching (g : Graph) (nodeCondition edgeCondition : Condition) : Subgraph where
  nodes := (g.nodes.filter fun node => nodeCondition.admits node).map Node.ref
  edges := (g.edges.filter fun edge => edgeCondition.admits edge).map Edge.ref

variable {g : Graph} {nodeCondition edgeCondition : Condition}

theorem selectNodes_perm_matching (h : (g.nodes.map Node.id).Nodup) :
    (nodeCondition.selectNodes g.nodes).Perm (g.matching nodeCondition edgeCondition).nodes :=
  (nodeCondition.select_perm_filter h).map Node.ref

theorem selectEdges_perm_matching (h : (g.edges.map Edge.id).Nodup) :
    (edgeCondition.selectEdges g.edges).Perm (g.matching nodeCondition edgeCondition).edges :=
  (edgeCondition.select_perm_filter h).map Edge.ref

theorem nodup_ids_selectNodes (h : (g.nodes.map Node.id).Nodup) :
    ((nodeCondition.selectNodes g.nodes).map NodeRef.id).Nodup := by
  unfold Condition.selectNodes
  rw [List.map_map]
  exact nodeCondition.nodup_ids_select h

theorem nodup_ids_selectEdges (h : (g.edges.map Edge.id).Nodup) :
    ((edgeCondition.selectEdges g.edges).map EdgeRef.id).Nodup := by
  unfold Condition.selectEdges
  rw [List.map_map]
  exact edgeCondition.nodup_ids_select h

/-- No node of a graph is a stub. -/
theorem not_subsidiary_of_mem_selectNodes {node : NodeRef}
    (h : node ∈ nodeCondition.selectNodes g.nodes) : node.subsidiary = false := by
  obtain ⟨n, -, rfl⟩ := List.mem_map.mp h
  rfl

end Graph

/-! ## Main result -/

namespace Engine

variable {m : Type → Type} [Monad m] [LawfulMonad m]

/-- An engine over a store that holds a graph. -/
def serving (g : Graph) (options : EngineOptions) : Engine m where
  store := .memory g
  options := options

omit [LawfulMonad m] in
/-- Such a store evaluates no conditions, so the engine does unless it is told not to. -/
theorem serving_usesPushdown (g : Graph) {options : EngineOptions} (hmode : options.mode ≠ .pushdown) :
    (serving g options : Engine m).usesPushdown = false := by
  unfold usesPushdown serving
  cases hoption : options.mode with
  | auto => rfl
  | inMemory => rfl
  | pushdown => exact absurd hoption hmode

/-- **A request over a graph is answered with the subgraph that it asks for.** From a graph with
    distinct ids come the nodes that the one condition admits and the edges that the other admits,
    either those between such nodes or all of them with a stub for every end that is missing. -/
theorem filterGraph_memory_delivers (g : Graph) (options : EngineOptions) (request : Request)
    {nodeCondition edgeCondition : Condition}
    (hnodeIds : (g.nodes.map Node.id).Nodup) (hedgeIds : (g.edges.map Edge.id).Nodup)
    (hmode : options.mode ≠ .pushdown)
    (hnodes : decodeOrAll request.nodes = .ok nodeCondition)
    (hedges : decodeOrAll request.edges = .ok edgeCondition) :
    ∃ answer, ((serving g options : Engine m).filterGraph request).Returns answer ∧
      (g.matching nodeCondition edgeCondition).Delivers
        (request.includeSubsidiary.getD options.includeSubsidiary) answer := by
  have hpushdown : (serving g options : Engine m).usesPushdown = false := serving_usesPushdown g hmode
  have hanswer : ((serving g options : Engine m).filterGraph request).Returns
      (Subgraph.consolidate ⟨nodeCondition.selectNodes g.nodes, edgeCondition.selectEdges g.edges⟩
        (request.includeSubsidiary.getD options.includeSubsidiary)) := by
    refine returns_filterGraph hnodes hedges ?_ ?_
    · exact returns_select_fetched (validate_of_decodeOrAll hnodes) hpushdown rfl
    · exact returns_select_fetched (validate_of_decodeOrAll hedges) hpushdown rfl
  refine ⟨_, hanswer, ?_⟩
  exact Subgraph.consolidate_delivers (Graph.selectNodes_perm_matching hnodeIds)
    (Graph.selectEdges_perm_matching hedgeIds) (Graph.nodup_ids_selectNodes hnodeIds)
    (Graph.nodup_ids_selectEdges hedgeIds) (fun _ => Graph.not_subsidiary_of_mem_selectNodes) _

/-- A request for the people of a graph and for who directed what, with stubs. -/
def directorsRequest : Request where
  nodes := some (Condition.ofType "Person").toJson
  edges := some (Condition.ofType "DIRECTED").toJson
  includeSubsidiary := some true

/-- The films come along as stubs, and the actors without an edge. -/
theorem filterGraph_memory_delivers_films :
    ∃ answer, ((serving Sample.films {} : Engine Id).filterGraph directorsRequest).Returns answer ∧
      (answer.nodes.filter fun node => !node.subsidiary).Perm
        [⟨1, false⟩, ⟨2, false⟩, ⟨5, false⟩, ⟨6, false⟩] ∧
      answer.edges.Perm [⟨100, 1, 3⟩, ⟨101, 1, 4⟩, ⟨104, 6, 7⟩] ∧
      { id := 7, subsidiary := true } ∈ answer.nodes.filter NodeRef.subsidiary := by
  have hnodeIds : (Sample.films.nodes.map Node.id).Nodup := by decide
  have hedgeIds : (Sample.films.edges.map Edge.id).Nodup := by decide
  have hmatching : Sample.films.matching (.ofType "Person") (.ofType "DIRECTED") =
      ⟨[⟨1, false⟩, ⟨2, false⟩, ⟨5, false⟩, ⟨6, false⟩],
        [⟨100, 1, 3⟩, ⟨101, 1, 4⟩, ⟨104, 6, 7⟩]⟩ := by decide
  obtain ⟨answer, hreturns, hdelivers⟩ := filterGraph_memory_delivers (m := Id) Sample.films {}
    directorsRequest hnodeIds hedgeIds (by decide) rfl rfl
  rw [hmatching] at hdelivers
  refine ⟨answer, hreturns, hdelivers.nodes, hdelivers.all_edges rfl, ?_⟩
  exact ((hdelivers.stubs rfl).2 _).mpr ⟨⟨104, 6, 7⟩, by decide, 7, by decide, by decide, rfl⟩

end Engine

end GraphFilter
