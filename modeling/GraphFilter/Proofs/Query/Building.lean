import GraphFilter.Query.Predicate
import GraphFilter.Proofs.Condition.Tree
import GraphFilter.Proofs.Except
import GraphFilter.Proofs.Query.FreshKeys
import Mathlib.Data.List.Forall2

/-!
# `GraphFilter.Proofs.Query.Building` — what compiling a condition builds

Compiling binds names and values at different times into one growing set of parameters. A name is
free when it is given out and never bound again, so what a test refers to when it is built is what
it refers to at the end.

## Contents
- **One equation per rule.** `buildFrom_ofType`, `buildFrom_matchProperty`, `buildFrom_all`,
  `buildFrom_any`, and `buildParts_cons_eq_ok`, `buildGroup_eq_ok` for what a successful build went
  through.
- **Induction.** `Clause.induction` gives a group the hypothesis for each of its parts.
- **Mirrors.** `Clause.Mirrors`: a clause has the tree of a condition, and each of its tests refers
  to what the leaf asks for. More parameters change nothing of it (`Clause.Mirrors.mono`).
- **Invariant.** `Compiles`, kept by every rule: `buildFrom_compiles`.
-/

namespace GraphFilter.Query

open Compiler

namespace Compiler

/-! ## One equation per rule -/

variable {strategy : IdentifierStrategy}

theorem buildFrom_ofType (name : String) (start : Built) :
    buildFrom strategy (.ofType name) start = .ok (buildType name start.parameters) := rfl

theorem buildFrom_matchProperty (property : String) (value : Value) (start : Built) :
    buildFrom strategy (.matchProperty property value) start =
      buildProperty strategy property value start.parameters := rfl

theorem buildFrom_all (filters : List Condition) (start : Built) :
    buildFrom strategy (.all filters) start =
      buildGroup .and (filters.map (buildFrom strategy)) start := by
  show buildGroup .and (Condition.visits (visitor strategy) filters) start = _
  rw [Condition.visits_eq_map]
  rfl

theorem buildFrom_any (filters : List Condition) (start : Built) :
    buildFrom strategy (.any filters) start =
      buildGroup .or (filters.map (buildFrom strategy)) start := by
  show buildGroup .or (Condition.visits (visitor strategy) filters) start = _
  rw [Condition.visits_eq_map]
  rfl

theorem buildProperty_eq_ok {property : String} {value : Value} {parameters : Parameters}
    {built : Built} :
    buildProperty strategy property value parameters = .ok built ↔
      ∃ access named, buildAccess strategy property parameters = .ok (access, named) ∧
        built = ⟨some (.property access (named.allocate (parameterBase property ++ "_value"))),
          named.insert (named.allocate (parameterBase property ++ "_value")) value⟩ := by
  simp only [buildProperty, bind_eq_ok, pure_eq_ok, Prod.exists, eq_comm (a := built)]

theorem buildParts_cons_eq_ok {parameters after : Parameters}
    {build : Built → Except Condition.Error Built}
    {rest : List (Built → Except Condition.Error Built)} {parts : List Clause} :
    buildParts parameters (build :: rest) = .ok (parts, after) ↔
      ∃ built, build ⟨none, parameters⟩ = .ok built ∧
        ∃ later, buildParts built.parameters rest = .ok (later, after) ∧
          parts = built.clause.toList ++ later := by
  simp only [buildParts, bind_eq_ok, pure_eq_ok, Prod.exists, Prod.mk.injEq,
    eq_comm (a := parts)]
  constructor
  · rintro ⟨built, hbuilt, later, middle, hlater, hparts, rfl⟩
    exact ⟨built, hbuilt, later, hlater, hparts⟩
  · rintro ⟨built, hbuilt, later, hlater, hparts⟩
    exact ⟨built, hbuilt, later, after, hlater, hparts, rfl⟩

theorem buildGroup_eq_ok {op : Connective} {builds : List (Built → Except Condition.Error Built)}
    {start built : Built} :
    buildGroup op builds start = .ok built ↔
      ∃ parts after, buildParts start.parameters builds = .ok (parts, after) ∧
        built = ⟨if parts.isEmpty then none else some (.group op parts), after⟩ := by
  simp only [buildGroup, bind_eq_ok, pure_eq_ok, Prod.exists, eq_comm (a := built)]

end Compiler

/-! ## Induction -/

/-- Induction over clauses: a group has the hypothesis for each of its parts. -/
@[induction_eliminator]
theorem Clause.induction {motive : Clause → Prop} (hasType : ∀ key, motive (.hasType key))
    (property : ∀ access key, motive (.property access key))
    (group : ∀ op parts, (∀ part ∈ parts, motive part) → motive (.group op parts))
    (clause : Clause) : motive clause :=
  @Clause.rec motive (fun parts => ∀ part ∈ parts, motive part) hasType property group
    (fun _ h => absurd h List.not_mem_nil)
    (fun _ _ hpart hrest => List.forall_mem_cons.mpr ⟨hpart, hrest⟩) clause

/-! ## Mirrors -/

/-- How a test names a property: by a parameter that holds the name, or in the text. -/
inductive Access.Names (strategy : IdentifierStrategy) (parameters : Parameters)
    (property : String) : Access → Prop
  | bound {key : String} : strategy = .dynamicKey →
      parameters.get? key = some (.string property) →
      Names strategy parameters property (.bound key)
  | inline : strategy = .inline → Names strategy parameters property (.inline property)

/-- The clause has the tree of the condition, and its tests refer to what the leaves ask for. -/
inductive Clause.Mirrors (strategy : IdentifierStrategy) (parameters : Parameters) :
    Condition → Clause → Prop
  | hasType {name key : String} : parameters.get? key = some (.string name) →
      Mirrors strategy parameters (.ofType name) (.hasType key)
  | property {property key : String} {value : Value} {access : Access} :
      access.Names strategy parameters property → parameters.get? key = some value →
      Mirrors strategy parameters (.matchProperty property value) (.property access key)
  | and {filters : List Condition} {parts : List Clause} :
      List.Forall₂ (Mirrors strategy parameters) filters parts →
      Mirrors strategy parameters (.all filters) (.group .and parts)
  | or {filters : List Condition} {parts : List Clause} :
      List.Forall₂ (Mirrors strategy parameters) filters parts →
      Mirrors strategy parameters (.any filters) (.group .or parts)

theorem Access.Names.mono {strategy : IdentifierStrategy} {small big : Parameters}
    {property : String} {access : Access} (hext : big.Extends small)
    (h : access.Names strategy small property) : access.Names strategy big property := by
  cases h with
  | bound hstrategy hbound => exact .bound hstrategy (hext _ _ hbound)
  | inline hstrategy => exact .inline hstrategy

/-- Lists related element by element stay so under an implication that holds on the first list. -/
theorem forall₂_imp_of_mem {α β : Type} {R S : α → β → Prop} {as : List α} {bs : List β}
    (himp : ∀ a ∈ as, ∀ b, R a b → S a b) (h : List.Forall₂ R as bs) : List.Forall₂ S as bs := by
  induction h with
  | nil => exact .nil
  | cons hab _ ih =>
    obtain ⟨hhead, htail⟩ := List.forall_mem_cons.mp himp
    exact .cons (hhead _ hab) (ih htail)

/-- What a clause refers to stays bound when more is bound. -/
theorem Clause.Mirrors.mono {strategy : IdentifierStrategy} {small big : Parameters}
    {c : Condition} {clause : Clause} (hext : big.Extends small)
    (h : Clause.Mirrors strategy small c clause) : Clause.Mirrors strategy big c clause := by
  induction c generalizing clause with
  | ofType name =>
    cases h with
    | hasType hbound => exact .hasType (hext _ _ hbound)
  | matchProperty property value =>
    cases h with
    | property hnames hbound => exact .property (hnames.mono hext) (hext _ _ hbound)
  | all filters ih =>
    cases h with
    | and hparts => exact .and (forall₂_imp_of_mem (fun f hf _ => ih f hf) hparts)
  | any filters ih =>
    cases h with
    | or hparts => exact .or (forall₂_imp_of_mem (fun f hf _ => ih f hf) hparts)

/-! ## Invariant -/

/-- What a build has achieved for a condition: it kept the bindings that it found, left no clause
    for a bare condition, and otherwise one that mirrors the condition without its bare subtrees. -/
structure Compiles (strategy : IdentifierStrategy) (c : Condition) (start : Parameters)
    (built : Built) : Prop where
  extends_start : built.parameters.Extends start
  clause_of_isBare : c.isBare = true → built.clause = none
  clause_of_not_isBare : c.isBare = false → ∃ clause, built.clause = some clause ∧
    Clause.Mirrors strategy built.parameters c.prune clause

namespace Compiler

variable {strategy : IdentifierStrategy}

theorem buildType_compiles (name : String) (parameters : Parameters) :
    Compiles strategy (.ofType name) parameters (buildType name parameters) where
  extends_start := parameters.extends_insert_allocate _ _
  clause_of_isBare h := absurd h (by simp)
  clause_of_not_isBare _ := ⟨_, rfl, .hasType (Dict.get?_insert_self _ _ _)⟩

/-- A named property keeps the bindings and is named under them. -/
theorem buildAccess_names {property : String} {parameters named : Parameters} {access : Access}
    (h : buildAccess strategy property parameters = .ok (access, named)) :
    named.Extends parameters ∧ access.Names strategy named property := by
  cases strategy with
  | dynamicKey =>
    obtain ⟨rfl, rfl⟩ := Prod.mk.inj (Except.ok.inj h)
    exact ⟨parameters.extends_insert_allocate _ _, .bound rfl (Dict.get?_insert_self _ _ _)⟩
  | inline =>
    simp only [buildAccess] at h
    split at h
    · obtain ⟨rfl, rfl⟩ := Prod.mk.inj (Except.ok.inj h)
      exact ⟨Dict.Extends.refl _, .inline rfl⟩
    · exact nomatch h

theorem buildProperty_compiles {property : String} {value : Value} {parameters : Parameters}
    {built : Built} (h : buildProperty strategy property value parameters = .ok built) :
    Compiles strategy (.matchProperty property value) parameters built := by
  obtain ⟨access, named, haccess, rfl⟩ := buildProperty_eq_ok.mp h
  obtain ⟨hext, hnames⟩ := buildAccess_names haccess
  -- The value is bound after the name, under a key that is free then.
  have hvalue := named.extends_insert_allocate (parameterBase property ++ "_value") value
  exact {
    extends_start := hvalue.trans hext
    clause_of_isBare := fun h => absurd h (by simp)
    clause_of_not_isBare := fun _ =>
      ⟨_, rfl, .property (hnames.mono hvalue) (Dict.get?_insert_self _ _ _)⟩ }

/-- Filters built one after the other: each keeps what those before it have bound, so all clauses
    mirror their filters under the parameters at the end. -/
theorem buildParts_compiles {filters : List Condition} {parameters after : Parameters}
    {parts : List Clause}
    (ih : ∀ f ∈ filters, ∀ {start built : Built}, buildFrom strategy f start = .ok built →
      Compiles strategy f start.parameters built)
    (h : buildParts parameters (filters.map (buildFrom strategy)) = .ok (parts, after)) :
    after.Extends parameters ∧
      List.Forall₂ (Clause.Mirrors strategy after) (Condition.pruneFilters filters) parts := by
  induction filters generalizing parameters parts with
  | nil =>
    obtain ⟨rfl, rfl⟩ := Prod.mk.inj (Except.ok.inj h)
    exact ⟨Dict.Extends.refl _, .nil⟩
  | cons f rest ihrest =>
    obtain ⟨hf, hrest⟩ := List.forall_mem_cons.mp ih
    obtain ⟨built, hbuilt, later, hlater, rfl⟩ := buildParts_cons_eq_ok.mp h
    have hcompiles := hf hbuilt
    obtain ⟨hext, hparts⟩ := ihrest hrest hlater
    refine ⟨hext.trans hcompiles.extends_start, ?_⟩
    -- The clause was built under fewer parameters than there are at the end, hence `mono`.
    cases hbare : f.isBare with
    | true =>
      rw [hcompiles.clause_of_isBare hbare, Condition.pruneFilters, if_pos hbare]
      exact hparts
    | false =>
      obtain ⟨clause, hclause, hmirrors⟩ := hcompiles.clause_of_not_isBare hbare
      rw [hclause, Condition.pruneFilters, if_neg (by simp [hbare])]
      exact .cons (hmirrors.mono hext) hparts

/-- A group has no parts exactly if all its filters are bare. -/
theorem isEmpty_of_mirrors {parameters : Parameters} {filters : List Condition}
    {parts : List Clause}
    (h : List.Forall₂ (Clause.Mirrors strategy parameters) (Condition.pruneFilters filters) parts) :
    parts.isEmpty = filters.all Condition.isBare := by
  rw [Bool.eq_iff_iff, List.isEmpty_iff, ← List.length_eq_zero_iff, ← h.length_eq,
    List.length_eq_zero_iff, Condition.pruneFilters_eq_nil_iff, List.all_eq_true]

/-- **Every successful build compiles its condition**, on top of any parameters. -/
theorem buildFrom_compiles {c : Condition} {start built : Built}
    (h : buildFrom strategy c start = .ok built) : Compiles strategy c start.parameters built := by
  induction c generalizing start built with
  | ofType name =>
    obtain rfl := Except.ok.inj h
    exact buildType_compiles name start.parameters
  | matchProperty property value => exact buildProperty_compiles h
  | all filters ih =>
    rw [buildFrom_all] at h
    obtain ⟨parts, after, hbuild, rfl⟩ := buildGroup_eq_ok.mp h
    obtain ⟨hext, hparts⟩ := buildParts_compiles ih hbuild
    rw [isEmpty_of_mirrors hparts]
    exact {
      extends_start := hext
      clause_of_isBare := fun hbare => if_pos (by simpa using hbare)
      clause_of_not_isBare := fun hbare => ⟨_, if_neg (by simpa using hbare), .and hparts⟩ }
  | any filters ih =>
    rw [buildFrom_any] at h
    obtain ⟨parts, after, hbuild, rfl⟩ := buildGroup_eq_ok.mp h
    obtain ⟨hext, hparts⟩ := buildParts_compiles ih hbuild
    rw [isEmpty_of_mirrors hparts]
    exact {
      extends_start := hext
      clause_of_isBare := fun hbare => if_pos (by simpa using hbare)
      clause_of_not_isBare := fun hbare => ⟨_, if_neg (by simpa using hbare), .or hparts⟩ }

end Compiler

end GraphFilter.Query
