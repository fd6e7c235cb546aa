import GraphFilter.Value
import GraphFilter.Text.Words

/-!
# `GraphFilter.Graph.Entity` — nodes, edges and graphs

A graph holds nodes, which carry any number of labels, and directed edges, which carry one type.
`Entity` is the view that filters have of both: an id, a test for a type, and properties.
-/

namespace GraphFilter

/-- The id of a node or of an edge. -/
abbrev EntityId := Int64

/-- The properties of an entity. -/
abbrev Properties := Dict Value

/-! ## Kinds -/

/-- The two kinds of entities. -/
inductive EntityKind
  | node
  | edge
  deriving DecidableEq, Repr

namespace EntityKind

/-- The word for a kind, singular. -/
def name : EntityKind → String
  | .node => "node"
  | .edge => "edge"

/-- The kind that a word names in any letter case, singular or plural; the error is a message. -/
def ofWord (word : String) : Except String EntityKind :=
  match Text.lowercase word with
  | "node" | "nodes" => .ok .node
  | "edge" | "edges" | "relationship" | "relationships" => .ok .edge
  | other => .error s!"unknown entity kind '{other}'"

/-- The kind of exactly this name. -/
def ofName? : String → Option EntityKind
  | "node" => some .node
  | "edge" => some .edge
  | _ => none

end EntityKind

/-! ## Nodes and edges -/

/-- A node: its labels in the order given, and its properties. -/
structure Node where
  id : EntityId
  labels : List String := []
  properties : Properties := .empty

/-- A directed edge of one type. -/
structure Edge where
  id : EntityId
  type : String
  source : EntityId
  target : EntityId
  properties : Properties := .empty

instance : BEq Node :=
  ⟨fun a b => a.id == b.id && a.labels == b.labels && a.properties == b.properties⟩

instance : BEq Edge :=
  ⟨fun a b => a.id == b.id && a.type == b.type && a.source == b.source && a.target == b.target &&
    a.properties == b.properties⟩

namespace Node

/-- Add a label after the others. -/
def addLabel (n : Node) (label : String) : Node :=
  { n with labels := n.labels ++ [label] }

/-- Set a property. -/
def setProperty (n : Node) (name : String) (value : Value) : Node :=
  { n with properties := n.properties.insert name value }

end Node

/-- Set a property. -/
def Edge.setProperty (e : Edge) (name : String) (value : Value) : Edge :=
  { e with properties := e.properties.insert name value }

/-- What a filter sees of a node or an edge. -/
class Entity (E : Type) where
  /-- The kind of all entities of this type. -/
  kind : EntityKind
  id : E → EntityId
  /-- Whether the entity is of a type: a node by one of its labels, an edge by its only type. -/
  hasType : E → String → Bool
  /-- The value of a property. -/
  property? : E → String → Option Value

instance : Entity Node where
  kind := .node
  id := Node.id
  hasType n type := n.labels.any (· == type)
  property? n name := n.properties.get? name

instance : Entity Edge where
  kind := .edge
  id := Edge.id
  hasType e type := e.type == type
  property? e name := e.properties.get? name

/-! ## Graphs -/

/-- A graph: its nodes and edges in the order of its document. -/
structure Graph where
  nodes : List Node := []
  edges : List Edge := []

instance : BEq Graph := ⟨fun a b => a.nodes == b.nodes && a.edges == b.edges⟩

end GraphFilter
