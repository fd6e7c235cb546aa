import GraphFilter.Graph.Entity

/-!
# `GraphFilter.Condition.Basic` — filter conditions

A condition is a tree: its leaves test one entity for a type or for a property, its inner nodes ask
that all or that any of their filters hold.

## Contents
- **Conditions.** `Condition`, the rule of a node, its filters, its size.
- **Traversals.** `Condition.leaves` and `Condition.preorder` list the leaves and the subtrees from
  left to right.
- **Meaning.** `Condition.admits` says which single entities a condition lets through; an `any`
  without filters lets everything through, as an `all` without filters does.
-/

namespace GraphFilter

/-! ## Conditions -/

/-- A filter condition. -/
inductive Condition
  | ofType (name : String)
  | matchProperty (property : String) (value : Value)
  | all (filters : List Condition)
  | any (filters : List Condition)

/-- What a node of a condition asks for. -/
inductive Rule
  | ofType
  | matchProperty
  | all
  | any
  deriving DecidableEq, Repr

/-- The name of a rule in documents and messages. -/
def Rule.name : Rule → String
  | .ofType => "of-type"
  | .matchProperty => "match-property"
  | .all => "all"
  | .any => "any"

/-- The rule of a name. -/
def Rule.ofName? : String → Option Rule
  | "of-type" => some .ofType
  | "match-property" => some .matchProperty
  | "all" => some .all
  | "any" => some .any
  | _ => none

theorem Rule.ofName?_name (r : Rule) : Rule.ofName? r.name = some r := by
  cases r <;> rfl

namespace Condition

instance : Inhabited Condition := ⟨.all []⟩

/-- The rule of the outermost node. -/
def rule : Condition → Rule
  | .ofType _ => .ofType
  | .matchProperty _ _ => .matchProperty
  | .all _ => .all
  | .any _ => .any

/-- The filters of the outermost node; a leaf has none. -/
def filters : Condition → List Condition
  | .all filters | .any filters => filters
  | _ => []

/-- Whether the outermost node combines filters. -/
def isCombinator : Condition → Bool
  | .all _ | .any _ => true
  | _ => false

mutual

/-- The number of nodes. -/
def size : Condition → Nat
  | .all filters | .any filters => 1 + sizes filters
  | _ => 1

/-- The number of nodes of several conditions. -/
def sizes : List Condition → Nat
  | [] => 0
  | c :: rest => size c + sizes rest

end

mutual

/-- Equality of conditions: the same tree with equal leaves. -/
protected def beq : Condition → Condition → Bool
  | .ofType a, .ofType b => a == b
  | .matchProperty p v, .matchProperty q w => p == q && v == w
  | .all as, .all bs => Condition.beqFilters as bs
  | .any as, .any bs => Condition.beqFilters as bs
  | _, _ => false

/-- Equality of lists of conditions. -/
protected def beqFilters : List Condition → List Condition → Bool
  | [], [] => true
  | a :: as, b :: bs => Condition.beq a b && Condition.beqFilters as bs
  | _, _ => false

end

instance : BEq Condition := ⟨Condition.beq⟩

/-! ## Traversals -/

/-- A leaf of a condition. -/
inductive Leaf
  | ofType (name : String)
  | matchProperty (property : String) (value : Value)

mutual

/-- The leaves from left to right. -/
def leaves : Condition → List Leaf
  | .ofType name => [.ofType name]
  | .matchProperty property value => [.matchProperty property value]
  | .all filters | .any filters => leavesOf filters

/-- The leaves of several conditions from left to right. -/
def leavesOf : List Condition → List Leaf
  | [] => []
  | c :: rest => leaves c ++ leavesOf rest

end

mutual

/-- All subtrees, each before its own filters, from left to right. -/
def preorder (c : Condition) : List Condition :=
  c :: match c with
    | .all filters | .any filters => preorderOf filters
    | _ => []

/-- All subtrees of several conditions. -/
def preorderOf : List Condition → List Condition
  | [] => []
  | c :: rest => preorder c ++ preorderOf rest

end

theorem leavesOf_eq_flatMap (filters : List Condition) :
    leavesOf filters = filters.flatMap leaves := by
  induction filters with
  | nil => rfl
  | cons c rest ih => simp [leavesOf, ih]

theorem preorderOf_eq_flatMap (filters : List Condition) :
    preorderOf filters = filters.flatMap preorder := by
  induction filters with
  | nil => rfl
  | cons c rest ih => simp [preorderOf, ih]

/-- Whether the condition is an `any` without filters. -/
def isEmptyAny : Condition → Bool
  | .any [] => true
  | _ => false

/-! ## Meaning -/

variable {E : Type} [Entity E]

/-- Whether an entity has the property with a value strictly equal to this one. -/
def hasProperty (e : E) (property : String) (value : Value) : Bool :=
  match Entity.property? e property with
  | some found => found.strictEq value
  | none => false

mutual

/-- Whether a condition lets a single entity through. -/
def admits (e : E) : Condition → Bool
  | .ofType name => Entity.hasType e name
  | .matchProperty property value => hasProperty e property value
  | .all filters => admitsAll e filters
  | .any filters => filters.isEmpty || admitsSome e filters

/-- Whether all of these conditions let the entity through. -/
def admitsAll (e : E) : List Condition → Bool
  | [] => true
  | c :: rest => admits e c && admitsAll e rest

/-- Whether one of these conditions lets the entity through. -/
def admitsSome (e : E) : List Condition → Bool
  | [] => false
  | c :: rest => admits e c || admitsSome e rest

end

theorem admitsAll_eq_all (e : E) (filters : List Condition) :
    admitsAll e filters = filters.all (admits e) := by
  induction filters with
  | nil => rfl
  | cons c rest ih => simp [admitsAll, ih]

theorem admitsSome_eq_any (e : E) (filters : List Condition) :
    admitsSome e filters = filters.any (admits e) := by
  induction filters with
  | nil => rfl
  | cons c rest ih => simp [admitsSome, ih]

end Condition

end GraphFilter
