import GraphFilter.Graph.Entity
import GraphFilter.Query.Dialect
import GraphFilter.Query.Parameters

/-!
# `GraphFilter.Query.Clause` — the tests of a query

A clause is the tree of tests in a query. It refers to parameters by name; the values are bound
beside it.

## Contents
- **Clauses.** `Clause`, and `Clause.keys`, the parameters it refers to.
- **Text.** `Clause.render` writes a clause in a dialect.
- **Meaning.** `Clause.holds` is the answer of a store for one entity.
-/

namespace GraphFilter.Query

/-! ## Clauses -/

/-- How a group of tests is joined. -/
inductive Connective
  | and
  | or
  deriving DecidableEq, Repr

/-- The word of a connective. -/
def Connective.word : Connective → String
  | .and => "AND"
  | .or => "OR"

/-- How a test names its property: by a parameter that holds the name, or in the text. -/
inductive Access
  | bound (key : String)
  | inline (property : String)
  deriving DecidableEq, Repr

/-- A test of a query. -/
inductive Clause
  /-- The entity is of the type that the parameter holds. -/
  | hasType (key : String)
  /-- The property has the value that the parameter holds. -/
  | property (access : Access) (key : String)
  /-- Several tests joined. -/
  | group (op : Connective) (parts : List Clause)

/-- The parameter that names the property, if one does. -/
def Access.keys : Access → List String
  | .bound key => [key]
  | .inline _ => []

namespace Clause

mutual

/-- The parameters that a clause refers to, from left to right. -/
def keys : Clause → List String
  | .hasType key => [key]
  | .property access key => access.keys ++ [key]
  | .group _ parts => keysOf parts

/-- The parameters that several clauses refer to. -/
def keysOf : List Clause → List String
  | [] => []
  | part :: rest => keys part ++ keysOf rest

end

theorem keysOf_eq_flatMap (parts : List Clause) : keysOf parts = parts.flatMap keys := by
  induction parts with
  | nil => rfl
  | cons part rest ih => simp [keysOf, ih]

end Clause

/-! ## Text -/

/-- The phrase for the property that a test looks at. -/
def Access.render (d : Dialect) (binder : String) : Access → String
  | .bound key => d.dynamicProperty binder (d.placeholder key)
  | .inline property => d.inlineProperty binder property

namespace Clause

/-- The test for a type: of the labels of a node, of the type of an edge. -/
def typeTest (d : Dialect) (kind : EntityKind) (binder key : String) : String :=
  match kind with
  | .node => d.hasLabel binder (d.placeholder key)
  | .edge => d.hasType binder (d.placeholder key)

mutual

/-- The text of a clause about the entities of a kind. -/
def render (d : Dialect) (kind : EntityKind) (binder : String) : Clause → String
  | .hasType key => typeTest d kind binder key
  | .property access key => access.render d binder ++ " = " ++ d.placeholder key
  | .group op parts =>
    "(" ++ String.intercalate (" " ++ op.word ++ " ") (renderEach d kind binder parts) ++ ")"

/-- The texts of several clauses. -/
def renderEach (d : Dialect) (kind : EntityKind) (binder : String) : List Clause → List String
  | [] => []
  | part :: rest => render d kind binder part :: renderEach d kind binder rest

end

theorem renderEach_eq_map (d : Dialect) (kind : EntityKind) (binder : String)
    (parts : List Clause) : renderEach d kind binder parts = parts.map (render d kind binder) := by
  induction parts with
  | nil => rfl
  | cons part rest ih => simp [renderEach, ih]

end Clause

/-! ## Meaning -/

/-- The text that a parameter holds. -/
def Parameters.text? (parameters : Parameters) (key : String) : Option String :=
  match parameters.get? key with
  | some (.string s) => some s
  | _ => none

/-- The name of the property that a test looks at. -/
def Access.property? (parameters : Parameters) : Access → Option String
  | .bound key => Parameters.text? parameters key
  | .inline property => some property

namespace Clause

variable {E : Type} [Entity E]

/-- Whether the entity has a property that is strictly equal to a bound value. -/
def testsEqual (parameters : Parameters) (e : E) (access : Access) (key : String) : Bool :=
  match (access.property? parameters).bind (Entity.property? e), parameters.get? key with
  | some found, some value => found.strictEq value
  | _, _ => false

mutual

/-- Whether a clause holds of an entity under the parameters. -/
def holds (parameters : Parameters) (e : E) : Clause → Bool
  | .hasType key => (Parameters.text? parameters key).any (Entity.hasType e)
  | .property access key => testsEqual parameters e access key
  | .group .and parts => allHold parameters e parts
  | .group .or parts => someHold parameters e parts

/-- Whether all clauses hold. -/
def allHold (parameters : Parameters) (e : E) : List Clause → Bool
  | [] => true
  | part :: rest => holds parameters e part && allHold parameters e rest

/-- Whether some clause holds. -/
def someHold (parameters : Parameters) (e : E) : List Clause → Bool
  | [] => false
  | part :: rest => holds parameters e part || someHold parameters e rest

end

theorem allHold_eq_all (parameters : Parameters) (e : E) (parts : List Clause) :
    allHold parameters e parts = parts.all (holds parameters e) := by
  induction parts with
  | nil => rfl
  | cons part rest ih => simp [allHold, ih]

theorem someHold_eq_any (parameters : Parameters) (e : E) (parts : List Clause) :
    someHold parameters e parts = parts.any (holds parameters e) := by
  induction parts with
  | nil => rfl
  | cons part rest ih => simp [someHold, ih]

end Clause

end GraphFilter.Query
