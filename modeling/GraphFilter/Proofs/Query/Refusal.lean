import GraphFilter.Query.ReadQuery
import GraphFilter.Proofs.Except
import GraphFilter.Proofs.Query.Building
import GraphFilter.Proofs.Text.Identifiers

/-!
# `GraphFilter.Proofs.Query.Refusal` — when a condition cannot be compiled

Compiling fails for one reason only: the names of properties are to stand in the text, and one of
them is no identifier. The walk goes from left to right, so the error tells the first such name.

## Contents
- **Names.** `Condition.refusedName?` is the first name that cannot be written, and
  `Condition.Writable` says that there is none. `Condition.FirstRefused` says what makes a name the
  first one.
- **Runs.** `FailsOn` is a run that fails with a name exactly if there is one; runs of several steps
  fail with the first.
- **Compiling.** `buildFrom_failsOn`, and `query_failsOn` for whole queries.
- **Main result.** `predicate_fails_on_first_refused`.
-/

namespace GraphFilter

/-! ## Names -/

namespace Condition

/-- The name in a leaf, if it cannot be written into a query. -/
def Leaf.refusedName? (strategy : IdentifierStrategy) : Leaf → Option String
  | .ofType _ => none
  | .matchProperty property _ =>
    if strategy = .inline ∧ Text.isIdentifier property = false then some property else none

/-- The first name in a condition that cannot be written into a query. -/
def refusedName? (strategy : IdentifierStrategy) (c : Condition) : Option String :=
  c.leaves.findSome? (Leaf.refusedName? strategy)

/-- All names in a condition can be written into a query. -/
def Writable (strategy : IdentifierStrategy) (c : Condition) : Prop :=
  strategy = .inline → ∀ property value, Leaf.matchProperty property value ∈ c.leaves →
    Text.isIdentifier property = true

variable {strategy : IdentifierStrategy}

theorem findSome?_refusedName?_cons (f : Condition) (rest : List Condition) :
    (f :: rest).findSome? (refusedName? strategy) =
      (f.refusedName? strategy).or (rest.findSome? (refusedName? strategy)) := by
  rw [List.findSome?_cons]
  cases f.refusedName? strategy <;> rfl

theorem findSome?_leavesOf (filters : List Condition) :
    (leavesOf filters).findSome? (Leaf.refusedName? strategy) =
      filters.findSome? (refusedName? strategy) := by
  induction filters with
  | nil => rfl
  | cons f rest ih =>
    rw [leavesOf, List.findSome?_append, ih, findSome?_refusedName?_cons, refusedName?]

theorem refusedName?_all (filters : List Condition) :
    (all filters).refusedName? strategy = filters.findSome? (refusedName? strategy) :=
  findSome?_leavesOf filters

theorem refusedName?_any (filters : List Condition) :
    (any filters).refusedName? strategy = filters.findSome? (refusedName? strategy) :=
  findSome?_leavesOf filters

theorem Leaf.refusedName?_eq_none_iff {leaf : Leaf} :
    leaf.refusedName? strategy = none ↔
      (strategy = .inline → ∀ property value, leaf = .matchProperty property value →
        Text.isIdentifier property = true) := by
  cases leaf with
  | ofType name => simp [Leaf.refusedName?]
  | matchProperty property value => simp [Leaf.refusedName?]

/-- A condition is writable exactly if no name in it is refused. -/
theorem refusedName?_eq_none_iff {c : Condition} :
    c.refusedName? strategy = none ↔ c.Writable strategy := by
  rw [refusedName?, List.findSome?_eq_none_iff]
  simp only [Leaf.refusedName?_eq_none_iff]
  constructor
  · intro h hstrategy property value hleaf
    exact h _ hleaf hstrategy property value rfl
  · rintro h leaf hleaf hstrategy property value rfl
    exact h hstrategy property value hleaf

/-- A leaf asks for a property whose name is no identifier, and all leaves before it that ask for a
    property have identifiers for names. -/
def FirstRefused (c : Condition) (property : String) : Prop :=
  ∃ before value after, c.leaves = before ++ .matchProperty property value :: after ∧
    property.toList ∉ Text.identifiers ∧
    ∀ name held, Leaf.matchProperty name held ∈ before → name.toList ∈ Text.identifiers

theorem Leaf.refusedName?_inline_eq_some_iff {leaf : Leaf} {name : String} :
    leaf.refusedName? .inline = some name ↔
      name.toList ∉ Text.identifiers ∧ ∃ value, leaf = .matchProperty name value := by
  rw [← Text.isIdentifier_eq_false_iff]
  cases leaf with
  | ofType type => simp [Leaf.refusedName?]
  | matchProperty property value =>
    simp only [Leaf.refusedName?, true_and, Option.ite_none_right_eq_some, Option.some.injEq,
      Leaf.matchProperty.injEq, exists_and_left, exists_eq', and_true]
    constructor
    · rintro ⟨hname, rfl⟩
      exact ⟨hname, rfl⟩
    · rintro ⟨hname, rfl⟩
      exact ⟨hname, rfl⟩

theorem Leaf.refusedName?_inline_eq_none_iff {leaf : Leaf} :
    leaf.refusedName? .inline = none ↔
      ∀ property value, leaf = .matchProperty property value →
        property.toList ∈ Text.identifiers := by
  simp only [Leaf.refusedName?_eq_none_iff, Text.isIdentifier_iff, true_imp_iff]

/-- Bound to parameters, every name can be written. -/
theorem refusedName?_dynamicKey (c : Condition) : c.refusedName? .dynamicKey = none :=
  refusedName?_eq_none_iff.mpr fun h => nomatch h

theorem refusedName?_inline_eq_some_iff {c : Condition} {property : String} :
    c.refusedName? .inline = some property ↔ c.FirstRefused property := by
  rw [refusedName?, List.findSome?_eq_some_iff]
  simp only [Leaf.refusedName?_inline_eq_some_iff, Leaf.refusedName?_inline_eq_none_iff]
  constructor
  · rintro ⟨before, leaf, after, hleaves, ⟨hname, value, rfl⟩, hbefore⟩
    exact ⟨before, value, after, hleaves, hname,
      fun name held hmem => hbefore _ hmem name held rfl⟩
  · rintro ⟨before, value, after, hleaves, hname, hbefore⟩
    refine ⟨before, _, after, hleaves, ⟨hname, value, rfl⟩, ?_⟩
    rintro leaf hmem name held rfl
    exact hbefore name held hmem

/-- A name is refused as the first one exactly if some name is no identifier. -/
theorem refusedName?_inline_ne_none_iff {c : Condition} :
    c.refusedName? .inline ≠ none ↔
      ∃ property value, Leaf.matchProperty property value ∈ c.leaves ∧
        property.toList ∉ Text.identifiers := by
  rw [Ne, refusedName?_eq_none_iff]
  simp [Writable, ← Text.isIdentifier_eq_false_iff]

end Condition

namespace Query

/-! ## Runs -/

/-- The run fails with this name if there is one, and succeeds if there is none. -/
def FailsOn {α : Type} (name? : Option String) (run : Except Condition.Error α) : Prop :=
  match name? with
  | some name => run = .error (.unsafeIdentifier .matchProperty name)
  | none => ∃ a, run = .ok a

namespace FailsOn

variable {α β : Type} {first second : Option String} {run : Except Condition.Error α}

theorem ok (a : α) : FailsOn none (.ok a) := ⟨a, rfl⟩

/-- Of two steps the first one that fails decides. -/
theorem bind {next : α → Except Condition.Error β} (hrun : FailsOn first run)
    (hnext : ∀ a, FailsOn second (next a)) : FailsOn (first.or second) (run >>= next) := by
  cases first with
  | some name =>
    have hfailed : run = .error (.unsafeIdentifier .matchProperty name) := hrun
    rw [hfailed]
    exact rfl
  | none =>
    obtain ⟨a, rfl⟩ := hrun
    exact hnext a

/-- A step that cannot fail leaves the outcome to the one before it. -/
theorem bind_ok {next : α → β} (hrun : FailsOn first run) :
    FailsOn first (run >>= fun a => .ok (next a)) := by
  have hbind := hrun.bind fun a => ok (next a)
  rwa [Option.or_none] at hbind

theorem exists_ok (hrun : FailsOn none run) : ∃ a, run = .ok a := hrun

/-- The run fails exactly if there is a name. -/
theorem fails_iff (hrun : FailsOn first run) : (∃ e, run = .error e) ↔ first ≠ none := by
  cases first with
  | none =>
    obtain ⟨a, rfl⟩ := hrun
    simp
  | some name => exact iff_of_true ⟨_, hrun⟩ (by simp)

/-- The error of the run tells the name. -/
theorem eq_error_iff (hrun : FailsOn first run) {e : Condition.Error} :
    run = .error e ↔ ∃ name, first = some name ∧ e = .unsafeIdentifier .matchProperty name := by
  cases first with
  | none =>
    obtain ⟨a, rfl⟩ := hrun
    simp
  | some name =>
    have hfailed : run = .error (.unsafeIdentifier .matchProperty name) := hrun
    simp [hfailed, eq_comm]

end FailsOn

/-! ## Compiling -/

namespace Compiler

variable {strategy : IdentifierStrategy}

theorem buildAccess_failsOn (property : String) (value : Value) (parameters : Parameters) :
    FailsOn ((Condition.Leaf.matchProperty property value).refusedName? strategy)
      (buildAccess strategy property parameters) := by
  cases strategy with
  | dynamicKey => exact FailsOn.ok _
  | inline =>
    cases hname : Text.isIdentifier property with
    | true => simpa [Condition.Leaf.refusedName?, buildAccess, hname] using FailsOn.ok _
    | false => simp [Condition.Leaf.refusedName?, buildAccess, hname, FailsOn]

theorem buildProperty_failsOn (property : String) (value : Value) (parameters : Parameters) :
    FailsOn ((Condition.Leaf.matchProperty property value).refusedName? strategy)
      (buildProperty strategy property value parameters) :=
  (buildAccess_failsOn property value parameters).bind_ok

/-- Filters built one after the other fail on the first name that one of them fails on. -/
theorem buildParts_failsOn {filters : List Condition} {parameters : Parameters}
    (ih : ∀ f ∈ filters, ∀ start, FailsOn (f.refusedName? strategy) (buildFrom strategy f start)) :
    FailsOn (filters.findSome? (Condition.refusedName? strategy))
      (buildParts parameters (filters.map (buildFrom strategy))) := by
  induction filters generalizing parameters with
  | nil => exact FailsOn.ok _
  | cons f rest ihrest =>
    obtain ⟨hf, hrest⟩ := List.forall_mem_cons.mp ih
    rw [Condition.findSome?_refusedName?_cons]
    have hlater (built : Built) : FailsOn (rest.findSome? (Condition.refusedName? strategy))
        (buildParts built.parameters (rest.map (buildFrom strategy)) >>= fun later =>
          .ok (built.clause.toList ++ later.1, later.2)) := (ihrest hrest).bind_ok
    exact (hf ⟨none, parameters⟩).bind hlater

/-- **Compiling fails on the first name that cannot be written, and on nothing else.** -/
theorem buildFrom_failsOn (c : Condition) (start : Built) :
    FailsOn (c.refusedName? strategy) (buildFrom strategy c start) := by
  induction c generalizing start with
  | ofType name => exact FailsOn.ok _
  | matchProperty property value =>
    rw [buildFrom_matchProperty, Condition.refusedName?, Condition.leaves, List.findSome?_singleton]
    exact buildProperty_failsOn property value start.parameters
  | all filters ih =>
    rw [buildFrom_all, Condition.refusedName?_all]
    exact (buildParts_failsOn ih).bind_ok
  | any filters ih =>
    rw [buildFrom_any, Condition.refusedName?_any]
    exact (buildParts_failsOn ih).bind_ok

theorem predicate_failsOn (compiler : Compiler) (c : Condition) :
    FailsOn (c.refusedName? compiler.strategy) (compiler.predicate c) :=
  (buildFrom_failsOn c {}).bind_ok

theorem query_failsOn (compiler : Compiler) (c : Condition) :
    FailsOn (c.refusedName? compiler.strategy) (compiler.query c) :=
  (predicate_failsOn compiler c).bind_ok

/-- A query cannot be written exactly if a name in the condition cannot be. -/
theorem query_fails_iff (compiler : Compiler) (c : Condition) :
    (∃ e, compiler.query c = .error e) ↔ ¬ c.Writable compiler.strategy := by
  rw [(compiler.query_failsOn c).fails_iff, Ne, Condition.refusedName?_eq_none_iff]

theorem exists_predicate_of_writable (compiler : Compiler) {c : Condition}
    (h : c.Writable compiler.strategy) : ∃ predicate, compiler.predicate c = .ok predicate := by
  have hfails := compiler.predicate_failsOn c
  rw [Condition.refusedName?_eq_none_iff.mpr h] at hfails
  exact hfails.exists_ok

theorem exists_query_of_writable (compiler : Compiler) {c : Condition}
    (h : c.Writable compiler.strategy) : ∃ q, compiler.query c = .ok q := by
  have hfails := compiler.query_failsOn c
  rw [Condition.refusedName?_eq_none_iff.mpr h] at hfails
  exact hfails.exists_ok

/-! ## Main result -/

/-- **Compiling fails on names that are no identifiers, if they are to stand in the text, and tells
    the first of them.** With names bound to parameters every condition is compiled. -/
theorem predicate_fails_on_first_refused (kind : EntityKind) (binder : String) (dialect : Dialect)
    (c : Condition) :
    (∃ p, predicate { kind, binder, strategy := .dynamicKey, dialect } c = .ok p) ∧
    ((∃ e, predicate { kind, binder, strategy := .inline, dialect } c = .error e) ↔
      ∃ property value, Condition.Leaf.matchProperty property value ∈ c.leaves ∧
        property.toList ∉ Text.identifiers) ∧
    ∀ e, predicate { kind, binder, strategy := .inline, dialect } c = .error e ↔
      ∃ property, c.FirstRefused property ∧ e = .unsafeIdentifier .matchProperty property ∧
        e.rule? = some "match-property" := by
  have hdynamic := predicate_failsOn { kind, binder, strategy := .dynamicKey, dialect } c
  have hinline := predicate_failsOn { kind, binder, strategy := .inline, dialect } c
  refine ⟨?_, ?_, fun e => ?_⟩
  · rw [Condition.refusedName?_dynamicKey] at hdynamic
    exact hdynamic.exists_ok
  · rw [hinline.fails_iff, Condition.refusedName?_inline_ne_none_iff]
  · rw [hinline.eq_error_iff]
    simp only [Condition.refusedName?_inline_eq_some_iff]
    refine exists_congr fun property => and_congr_right fun _ => ?_
    exact ⟨fun he => ⟨he, he ▸ rfl⟩, And.left⟩

/-- Of two names that are refused, the one in a nested filter comes first. -/
theorem predicate_fails_on_first_refused_nested :
    let c : Condition :=
      .any [.all [.matchProperty "title" .null, .any []],
        .all [.ofType "Movie", .matchProperty "box office" (.int 0)], .matchProperty "" .null]
    c.FirstRefused "box office" ∧
      predicate { kind := .edge, strategy := .inline } c =
        .error (.unsafeIdentifier .matchProperty "box office") := by
  intro c
  have hfirst : c.FirstRefused "box office" := by
    refine ⟨[.matchProperty "title" .null, .ofType "Movie"], .int 0, [.matchProperty "" .null], rfl,
      ?_, ?_⟩
    · rw [← Text.isIdentifier_eq_false_iff]
      decide
    · intro name held hmem
      obtain ⟨rfl, rfl⟩ : name = "title" ∧ held = .null := by simpa using hmem
      rw [← Text.isIdentifier_iff]
      decide
  have herror := (predicate_fails_on_first_refused .edge "n" .cypher c).2.2
  exact ⟨hfirst, (herror _).mpr ⟨_, hfirst, rfl, rfl⟩⟩

end Compiler

end Query

end GraphFilter
