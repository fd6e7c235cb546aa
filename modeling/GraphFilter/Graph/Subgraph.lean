import GraphFilter.Graph.Entity

/-!
# `GraphFilter.Graph.Subgraph` — answers, and how they are closed

An answer to a query names nodes and edges by their ids. As a store gives it, an answer may repeat
ids and may hold edges whose ends are missing; `Subgraph.consolidate` makes a closed subgraph of it.

## Contents
- **References.** `NodeRef`, `EdgeRef`, `Subgraph`.
- **First occurrences.** `firstPerId` keeps the first of all items with one id.
- **Consolidation.** An edge with a missing end is dropped, or kept with a stub for the end.
- **Closed subgraphs.** `Subgraph.IsClosed` says what consolidation achieves.
-/

namespace GraphFilter

/-! ## References -/

/-- A node of an answer. A `subsidiary` one only stands in for a missing end of an edge. -/
structure NodeRef where
  id : EntityId
  subsidiary : Bool := false
  deriving DecidableEq, Repr

/-- A stub for a missing end of an edge. -/
def NodeRef.stub (id : EntityId) : NodeRef :=
  ⟨id, true⟩

/-- An edge of an answer. -/
structure EdgeRef where
  id : EntityId
  source : EntityId
  target : EntityId
  deriving DecidableEq, Repr

/-- The ids of the two ends, source first. -/
def EdgeRef.ends (e : EdgeRef) : List EntityId :=
  [e.source, e.target]

/-- The reference of a node of a graph. -/
def Node.ref (n : Node) : NodeRef :=
  { id := n.id }

/-- The reference of an edge of a graph. -/
def Edge.ref (e : Edge) : EdgeRef :=
  ⟨e.id, e.source, e.target⟩

/-- Nodes and edges of an answer, each in order. -/
structure Subgraph where
  nodes : List NodeRef := []
  edges : List EdgeRef := []
  deriving DecidableEq, Repr

/-! ## First occurrences -/

/-- The first of all items with one id, in order, leaving out ids that were `seen` before. -/
def firstPerIdFrom {α : Type} (id : α → EntityId) (seen : List EntityId) : List α → List α
  | [] => []
  | item :: rest =>
    if seen.contains (id item) then firstPerIdFrom id seen rest
    else item :: firstPerIdFrom id (id item :: seen) rest

/-- The first of all items with one id, in order. -/
def firstPerId {α : Type} (id : α → EntityId) (items : List α) : List α :=
  firstPerIdFrom id [] items

section FirstOccurrences

variable {α : Type} {id : α → EntityId}

theorem firstPerIdFrom_sublist (seen : List EntityId) (items : List α) :
    (firstPerIdFrom id seen items).Sublist items := by
  induction items generalizing seen with
  | nil => exact List.Sublist.slnil
  | cons item rest ih =>
    simp only [firstPerIdFrom]
    split
    · exact (ih seen).cons item
    · exact (ih _).cons_cons item

/-- What stays has none of the ids seen before. -/
theorem not_mem_seen_of_mem_firstPerIdFrom {seen : List EntityId} {items : List α} {item : α}
    (h : item ∈ firstPerIdFrom id seen items) : id item ∉ seen := by
  induction items generalizing seen with
  | nil => simp [firstPerIdFrom] at h
  | cons head rest ih =>
    simp only [firstPerIdFrom] at h
    split at h
    · exact ih h
    · rename_i hnew
      rcases List.mem_cons.mp h with rfl | h
      · simpa using hnew
      · exact fun hmem => ih h (List.mem_cons_of_mem _ hmem)

theorem nodup_map_firstPerIdFrom (seen : List EntityId) (items : List α) :
    ((firstPerIdFrom id seen items).map id).Nodup := by
  induction items generalizing seen with
  | nil => exact List.nodup_nil
  | cons item rest ih =>
    simp only [firstPerIdFrom]
    split
    · exact ih seen
    · refine List.nodup_cons.mpr ⟨fun hmem => ?_, ih _⟩
      obtain ⟨other, hother, hid⟩ := List.mem_map.mp hmem
      exact not_mem_seen_of_mem_firstPerIdFrom hother (hid ▸ List.mem_cons_self)

/-- Every id is kept or was seen before. -/
theorem mem_map_firstPerIdFrom {seen : List EntityId} {items : List α} {item : α}
    (h : item ∈ items) : id item ∈ seen ∨ id item ∈ (firstPerIdFrom id seen items).map id := by
  induction items generalizing seen with
  | nil => simp at h
  | cons head rest ih =>
    simp only [firstPerIdFrom]
    rcases List.mem_cons.mp h with rfl | h
    · split
      · rename_i hseen
        exact Or.inl (by simpa using hseen)
      · exact Or.inr (by simp)
    · split
      · exact ih h
      · rcases @ih (id head :: seen) h with hmem | hmem
        · rcases List.mem_cons.mp hmem with he | hmem
          · exact Or.inr (by simp [he])
          · exact Or.inl hmem
        · exact Or.inr (List.mem_cons_of_mem _ hmem)

end FirstOccurrences

/-! ## Consolidation -/

/-- The ends of an edge that are not known, source first, each once. -/
def EdgeRef.missingEnds (known : List EntityId) (e : EdgeRef) : List EntityId :=
  firstPerIdFrom (fun i => i) known e.ends

/-- Go through edges with the ids of the nodes known so far. An edge with a missing end is dropped,
    or, with stubs, kept, and its missing ends are known from then on. -/
def closeEdges (withStubs : Bool) (known : List EntityId) : List EdgeRef → Subgraph
  | [] => {}
  | edge :: rest =>
    match edge.missingEnds known with
    | [] =>
      let closed := closeEdges withStubs known rest
      ⟨closed.nodes, edge :: closed.edges⟩
    | missing =>
      if withStubs then
        let closed := closeEdges withStubs (known ++ missing) rest
        ⟨missing.map NodeRef.stub ++ closed.nodes, edge :: closed.edges⟩
      else closeEdges withStubs known rest

namespace Subgraph

/-- Make an answer a closed subgraph: the first node and the first edge of each id stay, then every
    edge has both its ends among the nodes, if need be by stubs behind the nodes. -/
def consolidate (answer : Subgraph) (withStubs : Bool) : Subgraph :=
  let nodes := firstPerId NodeRef.id answer.nodes
  let closed := closeEdges withStubs (nodes.map NodeRef.id) (firstPerId EdgeRef.id answer.edges)
  ⟨nodes ++ closed.nodes, closed.edges⟩

/-! ## Closed subgraphs -/

/-- No id twice among the nodes or among the edges, and both ends of every edge are there. -/
structure IsClosed (s : Subgraph) : Prop where
  nodes_distinct : (s.nodes.map NodeRef.id).Nodup
  edges_distinct : (s.edges.map EdgeRef.id).Nodup
  ends_present : ∀ e ∈ s.edges, ∀ i ∈ e.ends, i ∈ s.nodes.map NodeRef.id

end Subgraph

end GraphFilter
