import GraphFilter.Proofs.Query.Building

/-!
# `GraphFilter.Proofs.Query.Faithful` — the text of a compiled condition is that condition

`Writes` says, without the builder and without clauses, which texts stand for a condition: a
combinator is one group in parentheses, a leaf is a test of the dialect on placeholders, and the
parameters hold under the keys of the placeholders what the leaf asks for.

## Contents
- **Phrases.** `WritesProperty`, how a text names a property; `Writes`, the texts of a condition.
- **From clauses to text.** A clause that mirrors a condition is rendered as a text of it.
- **Faithfulness.** `predicate_writes`.
-/

namespace GraphFilter.Query

/-! ## Phrases -/

/-- The phrase stands for the property: it refers to a key that holds the name, or quotes the
    name. -/
inductive WritesProperty (k : Compiler) (parameters : Parameters) (property : String) :
    String → Prop
  | bound {key : String} : k.strategy = .dynamicKey →
      parameters.get? key = some (.string property) →
      WritesProperty k parameters property
        (k.dialect.dynamicProperty k.binder (k.dialect.placeholder key))
  | inline : k.strategy = .inline →
      WritesProperty k parameters property (k.dialect.inlineProperty k.binder property)

/-- The text stands for the condition, leaf for leaf and group for group. -/
inductive Writes (k : Compiler) (parameters : Parameters) : Condition → String → Prop
  | label {name key : String} : k.kind = .node → parameters.get? key = some (.string name) →
      Writes k parameters (.ofType name) (k.dialect.hasLabel k.binder (k.dialect.placeholder key))
  | type {name key : String} : k.kind = .edge → parameters.get? key = some (.string name) →
      Writes k parameters (.ofType name) (k.dialect.hasType k.binder (k.dialect.placeholder key))
  | property {property key phrase : String} {value : Value} :
      WritesProperty k parameters property phrase → parameters.get? key = some value →
      Writes k parameters (.matchProperty property value)
        (phrase ++ " = " ++ k.dialect.placeholder key)
  | all {filters : List Condition} {texts : List String} :
      List.Forall₂ (Writes k parameters) filters texts →
      Writes k parameters (.all filters) ("(" ++ String.intercalate " AND " texts ++ ")")
  | any {filters : List Condition} {texts : List String} :
      List.Forall₂ (Writes k parameters) filters texts →
      Writes k parameters (.any filters) ("(" ++ String.intercalate " OR " texts ++ ")")

/-! ## From clauses to text -/

variable {k : Compiler} {parameters : Parameters}

theorem Access.Names.writes {property : String} {access : Access}
    (h : access.Names k.strategy parameters property) :
    WritesProperty k parameters property (access.render k.dialect k.binder) := by
  cases h with
  | bound hstrategy hbound => exact .bound hstrategy hbound
  | inline hstrategy => exact .inline hstrategy

theorem writes_typeTest {name key : String} (h : parameters.get? key = some (.string name)) :
    Writes k parameters (.ofType name) (Clause.typeTest k.dialect k.kind k.binder key) := by
  cases hkind : k.kind with
  | node => exact .label hkind h
  | edge => exact .type hkind h

/-- The rendering of a clause that mirrors a condition is a text of the condition. -/
theorem Clause.Mirrors.writes {c : Condition} {clause : Clause}
    (h : Clause.Mirrors k.strategy parameters c clause) :
    Writes k parameters c (clause.render k.dialect k.kind k.binder) := by
  induction c generalizing clause with
  | ofType name =>
    cases h with
    | hasType hbound => exact writes_typeTest hbound
  | matchProperty property value =>
    cases h with
    | property hnames hbound => exact .property hnames.writes hbound
  | all filters ih =>
    cases h with
    | @and _ parts hparts =>
      rw [Clause.render, Clause.renderEach_eq_map]
      exact .all (List.forall₂_map_right_iff.mpr
        (forall₂_imp_of_mem (fun f hf _ => ih f hf) hparts))
  | any filters ih =>
    cases h with
    | @or _ parts hparts =>
      rw [Clause.render, Clause.renderEach_eq_map]
      exact .any (List.forall₂_map_right_iff.mpr
        (forall₂_imp_of_mem (fun f hf _ => ih f hf) hparts))

/-! ## Faithfulness -/

/-- **A compiled predicate is faithful to its condition.** A condition without leaves has no text;
    of any other the text stands for the condition without its bare subtrees, under the parameters
    of the predicate. -/
theorem predicate_writes {c : Condition} {p : Predicate} (h : k.predicate c = .ok p) :
    (c.leaves = [] → p.fragment = none) ∧
    (c.leaves ≠ [] → ∃ text, p.fragment = some text ∧ Writes k p.parameters c.prune text) := by
  obtain ⟨built, hbuilt, hp⟩ := bind_eq_ok.mp h
  obtain rfl := pure_eq_ok.mp hp
  have hcompiles := Compiler.buildFrom_compiles hbuilt
  refine ⟨fun hbare => ?_, fun hleaves => ?_⟩
  · show built.clause.map _ = none
    rw [hcompiles.clause_of_isBare (Condition.isBare_iff_leaves.mpr hbare)]
    rfl
  · have hbare : c.isBare = false := by
      rw [Bool.eq_false_iff, Ne, Condition.isBare_iff_leaves]
      exact hleaves
    obtain ⟨clause, hclause, hmirrors⟩ := hcompiles.clause_of_not_isBare hbare
    refine ⟨clause.render k.dialect k.kind k.binder, ?_, hmirrors.writes⟩
    show built.clause.map _ = _
    rw [hclause]
    rfl

/-- Names that look like generated keys: the property `x_value` finds its first key taken. -/
theorem predicate_writes_x_value :
    let k : Compiler := { kind := .node }
    let c : Condition := .any [.all [.matchProperty "x" (.int 1), .any []],
      .matchProperty "x_value" (.int 2), .ofType "x"]
    ∃ p, k.predicate c = .ok p ∧ c.leaves ≠ [] ∧
      p.fragment =
        some "((n[$x] = $x_value) OR n[$x_value_1] = $x_value_value OR $type IN labels(n))" ∧
      ∃ text, p.fragment = some text ∧ Writes k p.parameters c.prune text :=
  ⟨_, rfl, by decide, rfl, (predicate_writes rfl).2 (by decide)⟩

end GraphFilter.Query
