import GraphFilter.Proofs.Graph.Consolidation

/-!
# `GraphFilter.Proofs.Graph.Delivery` — what consolidation makes of nodes and edges that were found

Who asks for nodes and edges does not care in which order they are found. As long as they are found
without repetitions, consolidation delivers the same: the nodes, and either the edges between them or
all edges with stubs.

## Contents
- **Stubs among nodes.** `mem_absentEnds` says which ends get stubs; then what stays of nodes and
  stubs when either is left out.
- **Delivering.** `Subgraph.Delivers`, and `consolidate_delivers` for any order.
-/

namespace GraphFilter

namespace Subgraph

/-! ## Stubs among nodes -/

theorem mem_absentEnds {answer : Subgraph} {i : EntityId} :
    i ∈ answer.absentEnds ↔
      (∃ edge ∈ answer.distinctEdges, i ∈ edge.ends) ∧
        i ∉ answer.distinctNodes.map NodeRef.id := by
  unfold absentEnds
  rw [List.mem_eraseDups, List.mem_filter, List.mem_flatMap, Bool.not_eq_true', ← Bool.not_eq_true,
    hasNode_iff]

theorem nodup_stubs {ids : List EntityId} (h : ids.Nodup) : (ids.map NodeRef.stub).Nodup :=
  h.map fun _ _ hstub => congrArg NodeRef.id hstub

theorem filter_stubs (ids : List EntityId) :
    (ids.map NodeRef.stub).filter NodeRef.subsidiary = ids.map NodeRef.stub := by
  rw [List.filter_eq_self]
  intro node hnode
  obtain ⟨i, -, rfl⟩ := List.mem_map.mp hnode
  rfl

theorem filter_not_stubs (ids : List EntityId) :
    ((ids.map NodeRef.stub).filter fun node => !node.subsidiary) = [] := by
  rw [List.filter_eq_nil_iff]
  intro node hnode
  obtain ⟨i, -, rfl⟩ := List.mem_map.mp hnode
  exact Bool.false_ne_true

/-- Nodes none of which is a stub: leaving out stubs changes nothing. -/
theorem filter_not_subsidiary {nodes : List NodeRef} (h : ∀ node ∈ nodes, node.subsidiary = false) :
    (nodes.filter fun node => !node.subsidiary) = nodes := by
  rw [List.filter_eq_self]
  intro node hnode
  rw [h node hnode]
  rfl

theorem filter_subsidiary {nodes : List NodeRef} (h : ∀ node ∈ nodes, node.subsidiary = false) :
    nodes.filter NodeRef.subsidiary = [] := by
  rw [List.filter_eq_nil_iff]
  intro node hnode
  rw [h node hnode]
  exact Bool.false_ne_true

/-! ## Delivering -/

/-- What an answer holds when these nodes and edges are wanted, none of the nodes being a stub. -/
structure Delivers (wanted : Subgraph) (withStubs : Bool) (answer : Subgraph) : Prop where
  /-- Apart from stubs the nodes are the wanted ones. -/
  nodes : (answer.nodes.filter fun node => !node.subsidiary).Perm wanted.nodes
  /-- Without stubs a wanted edge is there if both its ends are wanted. -/
  inner_edges : withStubs = false →
    answer.edges.Perm (wanted.edges.filter fun edge =>
      ∀ i ∈ edge.ends, i ∈ wanted.nodes.map NodeRef.id)
  no_stubs : withStubs = false → ∀ node ∈ answer.nodes, node.subsidiary = false
  /-- With stubs every wanted edge is there. -/
  all_edges : withStubs = true → answer.edges.Perm wanted.edges
  /-- With stubs there is one for every end that is not wanted itself. -/
  stubs : withStubs = true →
    (answer.nodes.filter NodeRef.subsidiary).Nodup ∧
    ∀ node, node ∈ answer.nodes.filter NodeRef.subsidiary ↔
      ∃ edge ∈ wanted.edges, ∃ i ∈ edge.ends,
        i ∉ wanted.nodes.map NodeRef.id ∧ node = { id := i, subsidiary := true }

section Delivering

variable {found wanted : Subgraph} (hnodes : found.nodes.Perm wanted.nodes)
  (hedges : found.edges.Perm wanted.edges) (hnodeIds : (found.nodes.map NodeRef.id).Nodup)
  (hedgeIds : (found.edges.map EdgeRef.id).Nodup)
  (hplain : ∀ node ∈ found.nodes, node.subsidiary = false)

include hnodes hedges hnodeIds hedgeIds hplain

theorem consolidate_false_delivers : wanted.Delivers false (found.consolidate false) := by
  have hids : (found.nodes.map NodeRef.id).Perm (wanted.nodes.map NodeRef.id) :=
    hnodes.map NodeRef.id
  have hends : found.hasEnds = fun edge =>
      decide (∀ i ∈ edge.ends, i ∈ wanted.nodes.map NodeRef.id) := by
    rw [hasEnds_eq, distinctNodes_of_nodup hnodeIds]
    simp only [hids.mem_iff]
  rw [consolidate_false, distinctNodes_of_nodup hnodeIds, distinctEdges_of_nodup hedgeIds, hends]
  refine ⟨?_, fun _ => hedges.filter _, fun _ => hplain, (nomatch ·), (nomatch ·)⟩
  rw [filter_not_subsidiary hplain]
  exact hnodes

theorem consolidate_true_delivers : wanted.Delivers true (found.consolidate true) := by
  have hids : (found.nodes.map NodeRef.id).Perm (wanted.nodes.map NodeRef.id) :=
    hnodes.map NodeRef.id
  rw [consolidate_true, distinctNodes_of_nodup hnodeIds, distinctEdges_of_nodup hedgeIds]
  refine ⟨?_, (nomatch ·), (nomatch ·), fun _ => hedges, ?_⟩
  · rw [List.filter_append, filter_not_subsidiary hplain, filter_not_stubs, List.append_nil]
    exact hnodes
  · intro _
    rw [List.filter_append, filter_subsidiary hplain, filter_stubs, List.nil_append]
    refine ⟨nodup_stubs found.nodup_absentEnds, ?_⟩
    intro node
    rw [List.mem_map]
    simp only [mem_absentEnds, distinctNodes_of_nodup hnodeIds, distinctEdges_of_nodup hedgeIds,
      hids.mem_iff, hedges.mem_iff]
    constructor
    · rintro ⟨i, ⟨⟨edge, hedge, hi⟩, habsent⟩, rfl⟩
      exact ⟨edge, hedge, i, hi, habsent, rfl⟩
    · rintro ⟨edge, hedge, i, hi, habsent, rfl⟩
      exact ⟨i, ⟨⟨edge, hedge, hi⟩, habsent⟩, rfl⟩

/-- **Consolidation delivers what was found,** in whatever order it was found. -/
theorem consolidate_delivers (withStubs : Bool) :
    wanted.Delivers withStubs (found.consolidate withStubs) := by
  cases withStubs with
  | false => exact consolidate_false_delivers hnodes hedges hnodeIds hedgeIds hplain
  | true => exact consolidate_true_delivers hnodes hedges hnodeIds hedgeIds hplain

end Delivering

end Subgraph

end GraphFilter
