/-!
# `GraphFilter.Condition.Path` — places in a condition

A place is the list of filter indexes that lead to it from the root; messages write it as
`$.filters[1].filters[0]`.
-/

namespace GraphFilter.Condition

/-- A place in a condition: the indexes to follow from the root. -/
structure Path where
  indexes : List Nat := []
  deriving DecidableEq, Repr

namespace Path

/-- The place of the whole condition. -/
def root : Path := {}

/-- The place of a filter of the node at this place. -/
def child (p : Path) (index : Nat) : Path :=
  ⟨p.indexes ++ [index]⟩

/-- Whether this is the place of the whole condition. -/
def isRoot (p : Path) : Bool :=
  p.indexes.isEmpty

theorem isRoot_iff {p : Path} : p.isRoot = true ↔ p.indexes = [] :=
  List.isEmpty_iff

/-- One step of a place. -/
def stepText (index : Nat) : String :=
  s!".filters[{index}]"

/-- The text of a place. -/
def text (p : Path) : String :=
  "$" ++ String.join (p.indexes.map stepText)

/-- The text of a child is the text of its parent with one more step. -/
theorem text_child (p : Path) (index : Nat) : (p.child index).text = p.text ++ stepText index := by
  rw [text, text, child, List.map_append, String.join_append, List.map_singleton, String.join_cons,
    String.join_nil, String.append_empty, String.append_assoc]

end Path

end GraphFilter.Condition
