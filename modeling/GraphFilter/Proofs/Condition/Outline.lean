import GraphFilter.Proofs.Condition.Tree
import Mathlib.Data.List.Forall2

/-!
# `GraphFilter.Proofs.Condition.Outline` — conditions that differ in what they ask for only

Two conditions have the same outline if one can be turned into the other by changing the names of
types, the values, and the names of properties as far as a relation between names allows. What
depends on the outline alone is blind to the rest.

## Contents
- **Outlines.** `Condition.SameOutline`, up to a relation between the names of properties.
- **Lone filters.** `Condition.settled`: a combinator with a single filter joins nothing, so the
  choice between `all` and `any` is settled there.
-/

namespace GraphFilter.Condition

/-! ## Outlines -/

/-- The same tree with leaves of the same rules, whose properties have related names. -/
inductive SameOutline (names : String → String → Prop) : Condition → Condition → Prop
  | ofType {name other : String} : SameOutline names (.ofType name) (.ofType other)
  | matchProperty {property other : String} {value held : Value} : names property other →
      SameOutline names (.matchProperty property value) (.matchProperty other held)
  | all {filters others : List Condition} : List.Forall₂ (SameOutline names) filters others →
      SameOutline names (.all filters) (.all others)
  | any {filters others : List Condition} : List.Forall₂ (SameOutline names) filters others →
      SameOutline names (.any filters) (.any others)

/-! ## Lone filters -/

mutual

/-- The same condition with an `all` wherever a combinator has a single filter. -/
def settled : Condition → Condition
  | .ofType name => .ofType name
  | .matchProperty property value => .matchProperty property value
  | .all filters => .all (settledFilters filters)
  | .any filters =>
    if filters.length = 1 then .all (settledFilters filters) else .any (settledFilters filters)

/-- Conditions with an `all` wherever a combinator has a single filter. -/
def settledFilters : List Condition → List Condition
  | [] => []
  | c :: rest => settled c :: settledFilters rest

end

theorem settledFilters_eq_map (filters : List Condition) :
    settledFilters filters = filters.map settled := by
  induction filters with
  | nil => rfl
  | cons c rest ih => rw [settledFilters, ih, List.map_cons]

end GraphFilter.Condition
