import GraphFilter.Proofs.Graph.FirstOccurrences

/-!
# `GraphFilter.Proofs.Graph.Consolidation` — what a consolidated answer holds

Consolidation goes through the edges once and knows more nodes after each edge that got stubs. What
comes out does not depend on the way: it is read off the first occurrences in the answer.

## Contents
- **Closing.** `closeEdges_false` and `closeEdges_true`: the pass over the edges, in closed form.
- **Consolidation.** `consolidate_false` and `consolidate_true` in terms of `distinctNodes`,
  `distinctEdges` and `absentEnds`, and `isClosed_consolidate`.
- **Closed answers.** `consolidate_absorbs`: a closed answer is done with, and only a closed one.
-/

namespace GraphFilter

/-! ## Closing -/

/-- Whether all ends of an edge are known is decided by going through the ends. Ids being finite in
    number, it could also be decided by going through all ids. -/
instance EdgeRef.decidableEnds (edge : EdgeRef) (known : List EntityId) :
    Decidable (∀ i ∈ edge.ends, i ∈ known) :=
  List.decidableBAll (fun i => i ∈ known) edge.ends

theorem missingEnds_eq_nil_iff {known : List EntityId} {edge : EdgeRef} :
    edge.missingEnds known = [] ↔ ∀ i ∈ edge.ends, i ∈ known :=
  firstPerIdFrom_eq_nil_iff

/-- One edge without stubs: it stays if it misses no end. -/
theorem closeEdges_false_cons (known : List EntityId) (edge : EdgeRef) (rest : List EdgeRef) :
    closeEdges false known (edge :: rest) =
      if edge.missingEnds known = [] then
        ⟨(closeEdges false known rest).nodes, edge :: (closeEdges false known rest).edges⟩
      else closeEdges false known rest := by
  conv => lhs; unfold closeEdges
  cases edge.missingEnds known with
  | nil => rfl
  | cons i others => rfl

/-- One edge with stubs: it stays, and the ends that it misses are known from then on. -/
theorem closeEdges_true_cons (known : List EntityId) (edge : EdgeRef) (rest : List EdgeRef) :
    closeEdges true known (edge :: rest) =
      ⟨(edge.missingEnds known).map NodeRef.stub ++
          (closeEdges true (known ++ edge.missingEnds known) rest).nodes,
        edge :: (closeEdges true (known ++ edge.missingEnds known) rest).edges⟩ := by
  conv => lhs; unfold closeEdges
  cases edge.missingEnds known with
  | nil =>
    rw [List.append_nil]
    rfl
  | cons i others => rfl

/-- Without stubs no node is added, and the edges with both ends among the nodes stay. -/
theorem closeEdges_false (known : List EntityId) (edges : List EdgeRef) :
    closeEdges false known edges =
      ⟨[], edges.filter fun edge => ∀ i ∈ edge.ends, i ∈ known⟩ := by
  induction edges with
  | nil => rfl
  | cons edge rest ih =>
    rw [closeEdges_false_cons, ih]
    by_cases hends : ∀ i ∈ edge.ends, i ∈ known
    · rw [if_pos (missingEnds_eq_nil_iff.mpr hends), List.filter_cons_of_pos (by simpa using hends)]
    · rw [if_neg (fun hnil => hends (missingEnds_eq_nil_iff.mp hnil)),
        List.filter_cons_of_neg (by simpa using hends)]

/-- With stubs every edge stays, and each end that is not known gets a stub where it is first
    met. -/
theorem closeEdges_true (known : List EntityId) (edges : List EdgeRef) :
    closeEdges true known edges =
      ⟨(firstPerIdFrom (fun i => i) known (edges.flatMap EdgeRef.ends)).map NodeRef.stub, edges⟩ := by
  induction edges generalizing known with
  | nil => rfl
  | cons edge rest ih =>
    -- What the edge misses is what its ends add to the first occurrences, and the rest has seen it.
    rw [closeEdges_true_cons, ih, List.flatMap_cons, firstPerIdFrom_append, List.map_id',
      List.map_append]
    rfl

/-! ## Consolidation -/

namespace Subgraph

/-- The first node of each id, in order. -/
def distinctNodes (answer : Subgraph) : List NodeRef :=
  answer.nodes.eraseDupsBy fun a b => a.id == b.id

/-- The first edge of each id, in order. -/
def distinctEdges (answer : Subgraph) : List EdgeRef :=
  answer.edges.eraseDupsBy fun a b => a.id == b.id

/-- Whether a node of an answer has an id. -/
def hasNode (answer : Subgraph) (i : EntityId) : Bool :=
  answer.distinctNodes.any fun node => node.id == i

/-- Whether both ends of an edge are among the nodes of an answer. -/
def hasEnds (answer : Subgraph) (edge : EdgeRef) : Bool :=
  answer.hasNode edge.source && answer.hasNode edge.target

/-- The ends of the edges that are not among the nodes, each where it is first met. -/
def absentEnds (answer : Subgraph) : List EntityId :=
  ((answer.distinctEdges.flatMap EdgeRef.ends).filter fun i => !answer.hasNode i).eraseDups

variable (answer : Subgraph)

theorem distinctNodes_eq : answer.distinctNodes = firstPerId NodeRef.id answer.nodes :=
  (firstPerId_eq_eraseDupsBy answer.nodes).symm

theorem distinctEdges_eq : answer.distinctEdges = firstPerId EdgeRef.id answer.edges :=
  (firstPerId_eq_eraseDupsBy answer.edges).symm

theorem distinctNodes_of_nodup {answer : Subgraph} (h : (answer.nodes.map NodeRef.id).Nodup) :
    answer.distinctNodes = answer.nodes := by
  rw [distinctNodes_eq, firstPerId_eq_self h]

theorem distinctEdges_of_nodup {answer : Subgraph} (h : (answer.edges.map EdgeRef.id).Nodup) :
    answer.distinctEdges = answer.edges := by
  rw [distinctEdges_eq, firstPerId_eq_self h]

theorem hasNode_iff {i : EntityId} :
    answer.hasNode i = true ↔ i ∈ answer.distinctNodes.map NodeRef.id := by
  unfold hasNode
  rw [List.any_eq_true, List.mem_map]
  simp only [beq_iff_eq]

theorem hasEnds_iff {edge : EdgeRef} :
    answer.hasEnds edge = true ↔ ∀ i ∈ edge.ends, i ∈ answer.distinctNodes.map NodeRef.id := by
  unfold hasEnds EdgeRef.ends
  rw [Bool.and_eq_true, hasNode_iff, hasNode_iff, List.forall_mem_cons, List.forall_mem_singleton]

theorem hasEnds_eq :
    answer.hasEnds = fun edge =>
      decide (∀ i ∈ edge.ends, i ∈ answer.distinctNodes.map NodeRef.id) := by
  funext edge
  rw [Bool.eq_iff_iff, decide_eq_true_eq, hasEnds_iff]

theorem absentEnds_eq :
    answer.absentEnds =
      firstPerIdFrom (fun i => i) (answer.distinctNodes.map NodeRef.id)
        (answer.distinctEdges.flatMap EdgeRef.ends) := by
  rw [firstPerIdFrom_eq_eraseDupsBy]
  unfold absentEnds List.eraseDups
  congr 1
  refine List.filter_congr ?_
  intro i _
  rw [Bool.eq_iff_iff, decide_eq_true_eq, Bool.not_eq_true', ← Bool.not_eq_true, hasNode_iff]

/-- The ids known at the start of the pass are those of the first nodes. -/
theorem consolidate_eq (withStubs : Bool) :
    answer.consolidate withStubs =
      ⟨answer.distinctNodes ++
          (closeEdges withStubs (answer.distinctNodes.map NodeRef.id) answer.distinctEdges).nodes,
        (closeEdges withStubs (answer.distinctNodes.map NodeRef.id) answer.distinctEdges).edges⟩ := by
  rw [distinctNodes_eq, distinctEdges_eq]
  rfl

/-- Without stubs the first nodes stay, and of the first edges those with both ends. -/
theorem consolidate_false :
    answer.consolidate false =
      ⟨answer.distinctNodes, answer.distinctEdges.filter answer.hasEnds⟩ := by
  rw [consolidate_eq, closeEdges_false, List.append_nil, hasEnds_eq]

/-- With stubs the first nodes and the first edges all stay, and the absent ends get stubs. -/
theorem consolidate_true :
    answer.consolidate true =
      ⟨answer.distinctNodes ++ answer.absentEnds.map NodeRef.stub, answer.distinctEdges⟩ := by
  rw [consolidate_eq, closeEdges_true, ← absentEnds_eq]

/-- Consolidation does not mind if the first occurrences were picked before. -/
theorem consolidate_firstPerId (nodes : List NodeRef) (edges : List EdgeRef) (withStubs : Bool) :
    consolidate ⟨firstPerId NodeRef.id nodes, firstPerId EdgeRef.id edges⟩ withStubs =
      consolidate ⟨nodes, edges⟩ withStubs := by
  simp only [consolidate_eq, distinctNodes_eq, distinctEdges_eq, firstPerId_firstPerId]

theorem nodup_ids_distinctNodes : (answer.distinctNodes.map NodeRef.id).Nodup := by
  rw [distinctNodes_eq]
  exact nodup_map_firstPerIdFrom [] answer.nodes

theorem nodup_ids_distinctEdges : (answer.distinctEdges.map EdgeRef.id).Nodup := by
  rw [distinctEdges_eq]
  exact nodup_map_firstPerIdFrom [] answer.edges

theorem nodup_absentEnds : answer.absentEnds.Nodup := by
  have hnodup : (answer.absentEnds.map fun i => i).Nodup := by
    rw [absentEnds_eq]
    exact nodup_map_firstPerIdFrom _ _
  rwa [List.map_id'] at hnodup

/-- An end of an edge that stays is the id of a node that stays, or it is absent. -/
theorem mem_ids_or_absentEnds {edge : EdgeRef} (hedge : edge ∈ answer.distinctEdges)
    {i : EntityId} (hi : i ∈ edge.ends) :
    i ∈ answer.distinctNodes.map NodeRef.id ∨ i ∈ answer.absentEnds := by
  have hend : i ∈ answer.distinctEdges.flatMap EdgeRef.ends := List.mem_flatMap.mpr ⟨edge, hedge, hi⟩
  have hfound := @mem_map_firstPerIdFrom _ (fun i => i) (answer.distinctNodes.map NodeRef.id) _ _ hend
  rwa [← absentEnds_eq, List.map_id'] at hfound

theorem map_id_stub (ids : List EntityId) : (ids.map NodeRef.stub).map NodeRef.id = ids := by
  rw [List.map_map]
  exact List.map_id ids

/-- **A consolidated answer is closed.** -/
theorem isClosed_consolidate (withStubs : Bool) : (answer.consolidate withStubs).IsClosed := by
  cases withStubs with
  | false =>
    rw [consolidate_false]
    refine ⟨answer.nodup_ids_distinctNodes, ?_, ?_⟩
    · exact answer.nodup_ids_distinctEdges.sublist (List.filter_sublist.map EdgeRef.id)
    · intro edge hedge i hi
      obtain ⟨-, hends⟩ := List.mem_filter.mp hedge
      exact (hasEnds_iff answer).mp hends i hi
  | true =>
    rw [consolidate_true]
    refine ⟨?_, answer.nodup_ids_distinctEdges, ?_⟩
    · rw [List.map_append, map_id_stub]
      refine List.nodup_append'.mpr ⟨answer.nodup_ids_distinctNodes, answer.nodup_absentEnds, ?_⟩
      intro i hnode habsent
      rw [absentEnds_eq] at habsent
      exact not_mem_seen_of_mem_firstPerIdFrom habsent hnode
    · intro edge hedge i hi
      rw [List.map_append, map_id_stub]
      exact List.mem_append.mpr (answer.mem_ids_or_absentEnds hedge hi)

/-! ## Closed answers -/

/-- Among edges that miss no end the pass finds nothing to do, whether or not it may add stubs. -/
theorem closeEdges_of_ends {known : List EntityId} {edges : List EdgeRef}
    (h : ∀ edge ∈ edges, ∀ i ∈ edge.ends, i ∈ known) (withStubs : Bool) :
    closeEdges withStubs known edges = ⟨[], edges⟩ := by
  cases withStubs with
  | false =>
    have hall : (edges.filter fun edge => ∀ i ∈ edge.ends, i ∈ known) = edges := by
      rw [List.filter_eq_self]
      intro edge hedge
      exact decide_eq_true (h edge hedge)
    rw [closeEdges_false, hall]
  | true =>
    have hnone : firstPerIdFrom (fun i => i) known (edges.flatMap EdgeRef.ends) = [] := by
      rw [firstPerIdFrom_eq_nil_iff]
      intro i hi
      obtain ⟨edge, hedge, hend⟩ := List.mem_flatMap.mp hi
      exact h edge hedge i hend
    rw [closeEdges_true, hnone, List.map_nil]

theorem consolidate_of_isClosed {answer : Subgraph} (h : answer.IsClosed) (withStubs : Bool) :
    answer.consolidate withStubs = answer := by
  rw [consolidate_eq, distinctNodes_of_nodup h.nodes_distinct,
    distinctEdges_of_nodup h.edges_distinct, closeEdges_of_ends h.ends_present, List.append_nil]

/-- **Consolidation is absorbing.** A consolidated answer stays as it is when it is consolidated
    again, with or without stubs: the answers that stay as they are are exactly the closed ones. -/
theorem consolidate_absorbs (withStubs again : Bool) :
    (answer.consolidate withStubs).consolidate again = answer.consolidate withStubs ∧
      (answer.consolidate again = answer ↔ answer.IsClosed) := by
  refine ⟨consolidate_of_isClosed (answer.isClosed_consolidate withStubs) again, ?_, ?_⟩
  · intro hsame
    rw [← hsame]
    exact answer.isClosed_consolidate again
  · intro hclosed
    exact consolidate_of_isClosed hclosed again

end Subgraph

end GraphFilter
