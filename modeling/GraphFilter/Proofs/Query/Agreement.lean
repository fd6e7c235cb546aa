import GraphFilter.Proofs.Query.Reading
import GraphFilter.Proofs.Selection.Meaning

/-!
# `GraphFilter.Proofs.Query.Agreement` — evaluating here and having the store evaluate

A condition is evaluated on entities here, or compiled and evaluated by a store. The compiled clause
means the condition without its bare subtrees. Inside an `all` a bare filter makes no difference.
Inside an `any` it does: evaluated here it lets everything through, compiled it is left out, and
only the other filters remain.

## Contents
- **Clauses.** `holds_eq_admits_prune`: a clause that mirrors a pruned condition holds of exactly
  what that condition admits; `Compiles.holds_eq` is the same of a whole build.
- **Lost alternatives.** `LosesAlternative` traces an entity that only a bare filter lets through;
  `losesAlternative_iff` says that pruning turns away exactly such entities.
- **Agreement.** `holds_iff_select_iff_not_losesAlternative`: the text of the compiled condition is
  read as its clause, the two evaluations agree on an entity unless it loses an alternative, and the
  store never keeps more. `holds_iff_select_of_unmixed` names the conditions on which they always
  agree.
-/

namespace GraphFilter.Query

variable {E : Type} [Entity E] {strategy : IdentifierStrategy} {parameters : Parameters}

/-! ## Clauses -/

/-- Lists related by equal images have equal images. -/
theorem map_eq_map_of_forall₂ {α β γ : Type} {f : α → γ} {g : β → γ} {as : List α} {bs : List β}
    (h : List.Forall₂ (fun a b => f a = g b) as bs) : as.map f = bs.map g := by
  rwa [← List.forall₂_eq_eq_eq, List.forall₂_map_left_iff, List.forall₂_map_right_iff]

/-- The parts of a group have the truth values of the filters that they mirror. -/
theorem map_holds_eq (e : E) {filters : List Condition} {parts : List Clause}
    (ih : ∀ f ∈ filters, f.isBare = false → ∀ {clause : Clause},
      Clause.Mirrors strategy parameters f.prune clause →
      clause.holds parameters e = f.prune.admits e)
    (h : List.Forall₂ (Clause.Mirrors strategy parameters) (Condition.pruneFilters filters)
      parts) :
    (Condition.pruneFilters filters).map (Condition.admits e) =
      parts.map (Clause.holds parameters e) := by
  refine map_eq_map_of_forall₂ (forall₂_imp_of_mem (fun p hp clause hmirrors => ?_) h)
  obtain ⟨f, hf, hleaf, rfl⟩ := Condition.mem_pruneFilters.mp hp
  exact (ih f hf hleaf hmirrors).symm

/-- A clause that mirrors a pruned condition holds of exactly what the pruned condition admits. An
    `any` without filters would differ, but pruning leaves none. -/
theorem holds_eq_admits_prune (e : E) {c : Condition} (hbare : c.isBare = false) {clause : Clause}
    (h : Clause.Mirrors strategy parameters c.prune clause) :
    clause.holds parameters e = c.prune.admits e := by
  induction c generalizing clause with
  | ofType name =>
    cases h with
    | hasType hbound =>
      rw [Clause.holds_hasType hbound]
      rfl
  | matchProperty property value =>
    cases h with
    | property hnames hbound =>
      rw [Clause.holds_property hnames.property?_eq hbound, Condition.prune, Condition.admits,
        Condition.hasProperty]
      cases Entity.property? e property <;> rfl
  | all filters ih =>
    cases h with
    | @and _ parts hparts =>
      have hmap := map_holds_eq e ih hparts
      rw [Clause.holds_group, ← hmap, Connective.join, List.all_map, Condition.prune,
        Condition.admits, Condition.admitsAll_eq_all]
      rfl
  | any filters ih =>
    cases h with
    | @or _ parts hparts =>
      have hmap := map_holds_eq e ih hparts
      -- An empty `any` would admit what an empty disjunction does not.
      have hkept : (Condition.pruneFilters filters).isEmpty = false := by
        rw [Bool.eq_false_iff, Ne, List.isEmpty_iff, Condition.pruneFilters_eq_nil_iff,
          ← List.all_eq_true, ← Condition.isBare_any, hbare]
        exact Bool.false_ne_true
      rw [Clause.holds_group, ← hmap, Connective.join, List.any_map, Condition.prune,
        Condition.admits, Condition.admitsSome_eq_any, hkept, Bool.false_or]
      rfl

/-- The answer of a store is the pruned condition. -/
theorem Compiles.holds_eq {c : Condition} {start : Parameters} {built : Built}
    (h : Compiles strategy c start built) (e : E) : built.holds e = c.prune.admits e := by
  cases hbare : c.isBare with
  | true =>
    rw [Built.holds, h.clause_of_isBare hbare, Option.all_none]
    exact (Condition.admits_of_isBare e ((Condition.isBare_prune c).trans hbare)).symm
  | false =>
    obtain ⟨clause, hclause, hmirrors⟩ := h.clause_of_not_isBare hbare
    rw [Built.holds, hclause, Option.all_some]
    exact holds_eq_admits_prune e hbare hmirrors

/-! ## Lost alternatives -/

/-- The entity passes some `any` by a bare filter only, and it matters: pruning the condition turns
    the entity away. The constructors lead from that `any` to the root. -/
inductive LosesAlternative (e : E) : Condition → Prop
  /-- A bare filter beside others, none of which admits the entity once pruned. -/
  | here {filters : List Condition} : (∃ f ∈ filters, f.isBare = true) →
      (∃ f ∈ filters, f.isBare = false) →
      (∀ f ∈ filters, f.isBare = false → f.prune.admits e = false) →
      LosesAlternative e (.any filters)
  /-- All filters of an `all` admit the entity, and one loses it. -/
  | inAll {filters : List Condition} {f : Condition} : f ∈ filters → LosesAlternative e f →
      (∀ g ∈ filters, g.admits e = true) → LosesAlternative e (.all filters)
  /-- One filter of an `any` loses the entity, and no other makes up for it. -/
  | inAny {filters : List Condition} {f : Condition} : f ∈ filters → LosesAlternative e f →
      (∀ g ∈ filters, g.isBare = false → g.prune.admits e = false) →
      LosesAlternative e (.any filters)

/-- A pruned `all` turns an entity away through a filter with leaves. -/
theorem admits_prune_all_eq_false_iff (e : E) {filters : List Condition} :
    (Condition.all filters).prune.admits e = false ↔
      ∃ f ∈ filters, f.isBare = false ∧ f.prune.admits e = false := by
  rw [Condition.prune, Bool.eq_false_iff, Ne, Condition.admits_all_iff]
  simp only [Condition.mem_pruneFilters, forall_exists_index, and_imp, not_forall,
    Bool.not_eq_true]
  constructor
  · rintro ⟨p, f, hf, hleaf, rfl, hp⟩
    exact ⟨f, hf, hleaf, hp⟩
  · rintro ⟨f, hf, hleaf, hp⟩
    exact ⟨f.prune, f, hf, hleaf, rfl, hp⟩

/-- A pruned `any` turns an entity away if it has a filter with leaves and all of those do. -/
theorem admits_prune_any_eq_false_iff (e : E) {filters : List Condition} :
    (Condition.any filters).prune.admits e = false ↔
      (∃ f ∈ filters, f.isBare = false) ∧
        ∀ f ∈ filters, f.isBare = false → f.prune.admits e = false := by
  rw [Condition.prune, Bool.eq_false_iff, Ne, Condition.admits_any_iff,
    Condition.pruneFilters_eq_nil_iff]
  simp only [Condition.mem_pruneFilters, not_or, not_forall, not_exists, not_and,
    Bool.not_eq_true, exists_prop]
  refine and_congr_right fun _ => ⟨fun h f hf hleaf => h _ ⟨f, hf, hleaf, rfl⟩, ?_⟩
  rintro h p ⟨f, hf, hleaf, rfl⟩
  exact h f hf hleaf

/-- Pruning turns away exactly the admitted entities that lose an alternative. -/
theorem losesAlternative_iff (e : E) {c : Condition} :
    LosesAlternative e c ↔ c.admits e = true ∧ c.prune.admits e = false := by
  constructor
  · intro h
    induction h with
    | here hbare hleaf hnone =>
      obtain ⟨f, hf, hbare⟩ := hbare
      exact ⟨Condition.admits_any_iff.mpr (Or.inr ⟨f, hf, Condition.admits_of_isBare e hbare⟩),
        (admits_prune_any_eq_false_iff e).mpr ⟨hleaf, hnone⟩⟩
    | inAll hf _ hall ih =>
      obtain ⟨-, hprune⟩ := ih
      have hleaf := Condition.not_isBare_of_not_admits_prune hprune
      exact ⟨Condition.admits_all_iff.mpr hall,
        (admits_prune_all_eq_false_iff e).mpr ⟨_, hf, hleaf, hprune⟩⟩
    | inAny hf _ hnone ih =>
      obtain ⟨hadmits, hprune⟩ := ih
      have hleaf := Condition.not_isBare_of_not_admits_prune hprune
      exact ⟨Condition.admits_any_iff.mpr (Or.inr ⟨_, hf, hadmits⟩),
        (admits_prune_any_eq_false_iff e).mpr ⟨⟨_, hf, hleaf⟩, hnone⟩⟩
  · rintro ⟨hadmits, hprune⟩
    induction c with
    | ofType name => exact absurd hadmits (by simpa [Condition.prune] using hprune)
    | matchProperty property value => exact absurd hadmits (by simpa [Condition.prune] using hprune)
    | all filters ih =>
      have hall := Condition.admits_all_iff.mp hadmits
      obtain ⟨f, hf, -, hlost⟩ := (admits_prune_all_eq_false_iff e).mp hprune
      exact .inAll hf (ih f hf (hall f hf) hlost) hall
    | any filters ih =>
      obtain ⟨hleaf, hnone⟩ := (admits_prune_any_eq_false_iff e).mp hprune
      rcases Condition.admits_any_iff.mp hadmits with rfl | ⟨f, hf, hkept⟩
      · obtain ⟨f, hf, -⟩ := hleaf
        exact absurd hf List.not_mem_nil
      · -- Either the filter that admits the entity is itself left out, or the loss is below it.
        cases hbare : f.isBare with
        | true => exact .here ⟨f, hf, hbare⟩ hleaf hnone
        | false => exact .inAny hf (ih f hf hkept (hnone f hf hbare)) hnone

theorem admits_prune_iff_of_not_losesAlternative {e : E} {c : Condition}
    (h : ¬ LosesAlternative e c) : c.prune.admits e = true ↔ c.admits e = true := by
  refine ⟨Condition.admits_of_admits_prune e, fun hadmits => ?_⟩
  by_contra hprune
  exact h ((losesAlternative_iff e).mpr ⟨hadmits, by simpa using hprune⟩)

/-! ## Agreement -/

/-- The predicate of a condition is the rendering of what is built from it. -/
theorem Compiler.predicate_of_build {k : Compiler} {c : Condition} {built : Built}
    (h : build k.strategy c = .ok built) : k.predicate c = .ok (k.render built) := by
  rw [predicate, h]
  rfl

/-- **Where the two evaluations agree.** A store reads off the text of the compiled condition what
    the clause says of the entity, and in Cypher it can read nothing else. What it keeps by that is
    kept here, and on one entity the two agree exactly if it loses no alternative. -/
theorem holds_iff_select_iff_not_losesAlternative (k : Compiler) {c : Condition} {built : Built}
    (h : Compiler.build k.strategy c = .ok built) (e : E) :
    k.predicate c = .ok (k.render built) ∧
    (k.kind = Entity.kind E →
      (k.render built).ReadsAs k.dialect k.binder e (built.holds e) ∧
      (k.dialect = .cypher → Text.isIdentifier k.binder = true → ∀ truth,
        (k.render built).ReadsAs k.dialect k.binder e truth → truth = built.holds e)) ∧
    (built.holds e = true → c.select [e] = [e]) ∧
    ((built.holds e = true ↔ c.select [e] = [e]) ↔ ¬ LosesAlternative e c) := by
  refine ⟨Compiler.predicate_of_build h, ?_, ?_⟩
  · intro hkind
    refine ⟨Compiler.render_readsAs h hkind e, ?_⟩
    intro hdialect hbinder truth hread
    exact Compiler.eq_holds_of_readsAs h hkind hdialect hbinder hread
  · have hholds : built.holds e = c.prune.admits e := (Compiler.buildFrom_compiles h).holds_eq e
    rw [hholds, Condition.select_singleton_eq_self_iff]
    refine ⟨Condition.admits_of_admits_prune e, ?_, admits_prune_iff_of_not_losesAlternative⟩
    intro hagree hloses
    obtain ⟨hadmits, hprune⟩ := (losesAlternative_iff e).mp hloses
    exact absurd (hagree.mpr hadmits) (by simp [hprune])

/-- A director who is no actor, asked for people who direct or act: no alternative is lost, and the
    text says so. -/
theorem holds_iff_select_director :
    let c : Condition := .all [.any [], .any [.ofType "Director", .ofType "Actor"]]
    let e : Node := { id := 1, labels := ["Director"] }
    ∃ built, Compiler.build .dynamicKey c = .ok built ∧ built.holds e = true ∧
      (Compiler.render { kind := .node } built).fragment =
        some "(($type IN labels(n) OR $type_1 IN labels(n)))" ∧
      (Compiler.render { kind := .node } built).ReadsAs .cypher "n" e true ∧
      ¬ (Compiler.render { kind := .node } built).ReadsAs .cypher "n" e false ∧
      ((built.holds e = true ↔ c.select [e] = [e]) ↔ ¬ LosesAlternative e c) := by
  intro c e
  obtain ⟨built, hbuild, hholds, htext⟩ : ∃ built, Compiler.build .dynamicKey c = .ok built ∧
      built.holds e = true ∧ (Compiler.render { kind := .node } built).fragment =
        some "(($type IN labels(n) OR $type_1 IN labels(n)))" :=
    ⟨_, rfl, by decide, rfl⟩
  obtain ⟨-, hreads, -, hagree⟩ :=
    holds_iff_select_iff_not_losesAlternative { kind := .node } hbuild e
  obtain ⟨hread, hunique⟩ := hreads rfl
  rw [hholds] at hread
  refine ⟨built, hbuild, hholds, htext, hread, ?_, hagree⟩
  intro hfalse
  have hsame := hunique rfl (by decide) false hfalse
  rw [hholds] at hsame
  exact Bool.false_ne_true hsame

/-- Whatever or a director: everything is kept here, and only directors by a store. -/
theorem holds_ne_select_any_director :
    let c : Condition := .any [.any [], .ofType "Director"]
    let e : Node := { id := 1 }
    ∃ built, Compiler.build .dynamicKey c = .ok built ∧
      ¬ (built.holds e = true ↔ c.select [e] = [e]) ∧
      (Compiler.render { kind := .node } built).fragment = some "($type IN labels(n))" ∧
      ∀ truth, (Compiler.render { kind := .node } built).ReadsAs .cypher "n" e truth →
        ¬ (truth = true ↔ c.select [e] = [e]) := by
  intro c e
  obtain ⟨built, hbuild, hholds, htext⟩ : ∃ built, Compiler.build .dynamicKey c = .ok built ∧
      built.holds e = false ∧
      (Compiler.render { kind := .node } built).fragment = some "($type IN labels(n))" :=
    ⟨_, rfl, by decide, rfl⟩
  have hkept : c.select [e] = [e] := rfl
  refine ⟨built, hbuild, ?_, htext, ?_⟩
  · simp [hholds, hkept]
  · intro truth hread
    have htruth := Compiler.eq_holds_of_readsAs (k := { kind := .node }) hbuild rfl rfl
      (by decide) hread
    simp [htruth, hholds, hkept]

/-- No `any` of the condition has bare filters beside others. -/
def Unmixed (c : Condition) : Prop :=
  ∀ filters, Condition.any filters ∈ c.preorder → (∃ f ∈ filters, f.isBare = true) →
    ∀ f ∈ filters, f.isBare = true

/-- An alternative is lost at an `any` that is mixed. -/
theorem LosesAlternative.not_unmixed {e : E} {c : Condition} (h : LosesAlternative e c) :
    ¬ Unmixed c := by
  induction h with
  | here hbare hleaf _ =>
    intro hunmixed
    obtain ⟨f, hf, hleaf⟩ := hleaf
    have hall := hunmixed _ (Condition.mem_preorder_iff.mpr (Or.inl rfl)) hbare f hf
    exact absurd hall (by simp [hleaf])
  | inAll hf _ _ ih =>
    exact fun hunmixed => ih fun filters hmem =>
      hunmixed filters (Condition.mem_preorder_iff.mpr (Or.inr ⟨_, hf, hmem⟩))
  | inAny hf _ _ ih =>
    exact fun hunmixed => ih fun filters hmem =>
      hunmixed filters (Condition.mem_preorder_iff.mpr (Or.inr ⟨_, hf, hmem⟩))

/-- The two evaluations of an unmixed condition agree on every entity. -/
theorem holds_iff_select_of_unmixed {c : Condition} {built : Built}
    (h : Compiler.build strategy c = .ok built) (hunmixed : Unmixed c) (e : E) :
    built.holds e = true ↔ c.select [e] = [e] := by
  have hholds : built.holds e = c.prune.admits e := (Compiler.buildFrom_compiles h).holds_eq e
  rw [hholds, Condition.select_singleton_eq_self_iff]
  exact admits_prune_iff_of_not_losesAlternative fun hloses => hloses.not_unmixed hunmixed

end GraphFilter.Query
