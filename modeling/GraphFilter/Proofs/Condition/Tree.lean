import GraphFilter.Condition.Basic
import Mathlib.Data.List.Basic

/-!
# `GraphFilter.Proofs.Condition.Tree` — induction over conditions, and subtrees without leaves

A condition may hold subtrees that consist of combinators only. They ask nothing of an entity, so a
reader may leave them out; `Condition.prune` is the condition that remains.

## Contents
- **Induction.** `Condition.induction` gives a combinator the hypothesis for each of its filters;
  `Condition.induction_inTurn` takes the filters of an `all` one after the other.
- **Subtrees and meaning.** `mem_preorder_iff`, `admits_all_iff`, `admits_any_iff`.
- **Bare subtrees.** `Condition.isBare`, and that a bare condition lets everything through.
- **Pruning.** `Condition.prune` leaves out what is bare. It loses no leaf (`leaves_prune`), it is
  thorough (`not_isBare_of_mem_preorder_prune`), and it can only narrow a condition
  (`admits_of_admits_prune`).
-/

namespace GraphFilter.Condition

/-! ## Induction -/

/-- Induction over conditions: a combinator has the hypothesis for each of its filters. -/
@[induction_eliminator]
theorem induction {motive : Condition → Prop} (ofType : ∀ name, motive (.ofType name))
    (matchProperty : ∀ property value, motive (.matchProperty property value))
    (all : ∀ filters, (∀ f ∈ filters, motive f) → motive (.all filters))
    (any : ∀ filters, (∀ f ∈ filters, motive f) → motive (.any filters)) (c : Condition) :
    motive c :=
  @Condition.rec motive (fun filters => ∀ f ∈ filters, motive f) ofType matchProperty all any
    (fun _ h => absurd h List.not_mem_nil)
    (fun _ _ hc hrest => List.forall_mem_cons.mpr ⟨hc, hrest⟩) c

/-- Induction for what applies the filters of an `all` one after the other: after the first one the
    `all` of the others remains. -/
theorem induction_inTurn {motive : Condition → Prop} (ofType : ∀ name, motive (.ofType name))
    (matchProperty : ∀ property value, motive (.matchProperty property value))
    (all_nil : motive (.all []))
    (all_cons : ∀ f rest, motive f → motive (.all rest) → motive (.all (f :: rest)))
    (any_nil : motive (.any []))
    (any_cons : ∀ f rest, (∀ g ∈ f :: rest, motive g) → motive (.any (f :: rest)))
    (c : Condition) : motive c := by
  induction c with
  | ofType name => exact ofType name
  | matchProperty property value => exact matchProperty property value
  | all filters ih =>
    induction filters with
    | nil => exact all_nil
    | cons f rest ihrest =>
      obtain ⟨hf, hrest⟩ := List.forall_mem_cons.mp ih
      exact all_cons f rest hf (ihrest hrest)
  | any filters ih =>
    cases filters with
    | nil => exact any_nil
    | cons f rest => exact any_cons f rest ih

/-! ## Subtrees and meaning -/

/-- A subtree is the whole or a subtree of a filter. -/
theorem mem_preorder_iff {c node : Condition} :
    node ∈ c.preorder ↔ node = c ∨ ∃ f ∈ c.filters, node ∈ f.preorder := by
  cases c with
  | ofType name => simp [preorder, filters]
  | matchProperty property value => simp [preorder, filters]
  | all fs => simp [preorder, filters, preorderOf_eq_flatMap]
  | any fs => simp [preorder, filters, preorderOf_eq_flatMap]

variable {E : Type} [Entity E]

theorem admits_all_iff {e : E} {filters : List Condition} :
    (all filters).admits e = true ↔ ∀ f ∈ filters, f.admits e = true := by
  rw [admits, admitsAll_eq_all, List.all_eq_true]

theorem admits_any_iff {e : E} {filters : List Condition} :
    (any filters).admits e = true ↔ filters = [] ∨ ∃ f ∈ filters, f.admits e = true := by
  rw [admits, admitsSome_eq_any, Bool.or_eq_true, List.isEmpty_iff, List.any_eq_true]

/-! ## Bare subtrees -/

/-- Whether the condition has no leaf. -/
def isBare (c : Condition) : Bool :=
  c.leaves.isEmpty

@[simp] theorem isBare_ofType (name : String) : (ofType name).isBare = false := rfl

@[simp] theorem isBare_matchProperty (property : String) (value : Value) :
    (matchProperty property value).isBare = false := rfl

theorem isBare_iff_leaves {c : Condition} : c.isBare = true ↔ c.leaves = [] :=
  List.isEmpty_iff

theorem leavesOf_eq_nil_iff {filters : List Condition} :
    leavesOf filters = [] ↔ ∀ f ∈ filters, f.isBare = true := by
  simp only [leavesOf_eq_flatMap, List.flatMap_eq_nil_iff, isBare_iff_leaves]

@[simp] theorem isBare_all (filters : List Condition) :
    (all filters).isBare = filters.all isBare := by
  rw [Bool.eq_iff_iff, isBare_iff_leaves, List.all_eq_true]
  exact leavesOf_eq_nil_iff

@[simp] theorem isBare_any (filters : List Condition) :
    (any filters).isBare = filters.all isBare := isBare_all filters

/-- Combinators alone let every entity through. -/
theorem admits_of_isBare (e : E) {c : Condition} (h : c.isBare = true) : c.admits e = true := by
  induction c with
  | ofType name => simp at h
  | matchProperty property value => simp at h
  | all filters ih =>
    rw [isBare_all, List.all_eq_true] at h
    exact admits_all_iff.mpr fun f hf => ih f hf (h f hf)
  | any filters ih =>
    rw [isBare_any, List.all_eq_true] at h
    cases filters with
    | nil => exact admits_any_iff.mpr (Or.inl rfl)
    | cons f rest =>
      have hf : f ∈ f :: rest := List.mem_cons_self
      exact admits_any_iff.mpr (Or.inr ⟨f, hf, ih f hf (h f hf)⟩)

/-! ## Pruning -/

mutual

/-- The condition without its bare subtrees; of a bare condition the outermost node remains. -/
def prune : Condition → Condition
  | .ofType name => .ofType name
  | .matchProperty property value => .matchProperty property value
  | .all filters => .all (pruneFilters filters)
  | .any filters => .any (pruneFilters filters)

/-- The filters that are not bare, each pruned. -/
def pruneFilters : List Condition → List Condition
  | [] => []
  | c :: rest => if c.isBare then pruneFilters rest else prune c :: pruneFilters rest

end

theorem pruneFilters_eq_map (filters : List Condition) :
    pruneFilters filters = (filters.filter fun f => !f.isBare).map prune := by
  induction filters with
  | nil => rfl
  | cons c rest ih => by_cases h : c.isBare = true <;> simp [pruneFilters, h, ih]

theorem mem_pruneFilters {filters : List Condition} {p : Condition} :
    p ∈ pruneFilters filters ↔ ∃ f ∈ filters, f.isBare = false ∧ f.prune = p := by
  simp [pruneFilters_eq_map, and_assoc]

theorem pruneFilters_eq_nil_iff {filters : List Condition} :
    pruneFilters filters = [] ↔ ∀ f ∈ filters, f.isBare = true := by
  simp [pruneFilters_eq_map]

theorem leavesOf_pruneFilters {filters : List Condition}
    (h : ∀ f ∈ filters, f.prune.leaves = f.leaves) :
    leavesOf (pruneFilters filters) = leavesOf filters := by
  induction filters with
  | nil => rfl
  | cons f rest ih =>
    obtain ⟨hf, hrest⟩ := List.forall_mem_cons.mp h
    by_cases hbare : f.isBare = true
    · simp [pruneFilters, leavesOf, hbare, isBare_iff_leaves.mp hbare, ih hrest]
    · simp [pruneFilters, leavesOf, hbare, hf, ih hrest]

/-- No leaf is lost. -/
theorem leaves_prune (c : Condition) : c.prune.leaves = c.leaves := by
  induction c with
  | ofType name => rfl
  | matchProperty property value => rfl
  | all filters ih => exact leavesOf_pruneFilters ih
  | any filters ih => exact leavesOf_pruneFilters ih

@[simp] theorem isBare_prune (c : Condition) : c.prune.isBare = c.isBare := by
  rw [isBare, leaves_prune, isBare]

theorem mem_filters_prune {c p : Condition} :
    p ∈ c.prune.filters ↔ ∃ f ∈ c.filters, f.isBare = false ∧ f.prune = p := by
  cases c with
  | ofType name => simp [prune, filters]
  | matchProperty property value => simp [prune, filters]
  | all fs => exact mem_pruneFilters
  | any fs => exact mem_pruneFilters

/-- A subtree of a pruned condition is the whole or belongs to a filter that has leaves. -/
theorem mem_preorder_prune {c node : Condition} (h : node ∈ c.prune.preorder) :
    node = c.prune ∨ ∃ f ∈ c.filters, f.isBare = false ∧ node ∈ f.prune.preorder := by
  rcases mem_preorder_iff.mp h with rfl | ⟨p, hp, hnode⟩
  · exact Or.inl rfl
  · obtain ⟨f, hf, hleaf, rfl⟩ := mem_filters_prune.mp hp
    exact Or.inr ⟨f, hf, hleaf, hnode⟩

/-- Nothing bare is left of a condition that has a leaf. -/
theorem not_isBare_of_mem_preorder_prune {c node : Condition} (h : c.isBare = false)
    (hnode : node ∈ c.prune.preorder) : node.isBare = false := by
  induction c with
  | ofType name => simp_all [prune, preorder]
  | matchProperty property value => simp_all [prune, preorder]
  | all filters ih =>
    rcases mem_preorder_prune hnode with rfl | ⟨f, hf, hleaf, hmem⟩
    · rw [isBare_prune, h]
    · exact ih f hf hleaf hmem
  | any filters ih =>
    rcases mem_preorder_prune hnode with rfl | ⟨f, hf, hleaf, hmem⟩
    · rw [isBare_prune, h]
    · exact ih f hf hleaf hmem

/-- Leaving out bare subtrees can only turn entities away: inside an `all` they make no difference,
    inside an `any` each of them would let everything through. -/
theorem admits_of_admits_prune (e : E) {c : Condition} (h : c.prune.admits e = true) :
    c.admits e = true := by
  induction c with
  | ofType name => exact h
  | matchProperty property value => exact h
  | all filters ih =>
    rw [prune, admits_all_iff] at h
    refine admits_all_iff.mpr fun f hf => ?_
    cases hbare : f.isBare with
    | true => exact admits_of_isBare e hbare
    | false =>
      have hkept : f.prune ∈ pruneFilters filters := mem_pruneFilters.mpr ⟨f, hf, hbare, rfl⟩
      exact ih f hf (h f.prune hkept)
  | any filters ih =>
    rw [prune, admits_any_iff, pruneFilters_eq_nil_iff] at h
    -- Nothing is left of the filters, or one of those left admits the entity.
    rcases h with hbare | ⟨p, hp, hadmits⟩
    · exact admits_of_isBare e (by simpa using hbare)
    · obtain ⟨f, hf, -, rfl⟩ := mem_pruneFilters.mp hp
      exact admits_any_iff.mpr (Or.inr ⟨f, hf, ih f hf hadmits⟩)

/-- A condition that pruning keeps an entity from has a leaf. -/
theorem not_isBare_of_not_admits_prune {e : E} {c : Condition} (h : c.prune.admits e = false) :
    c.isBare = false := by
  rw [← isBare_prune, Bool.eq_false_iff]
  intro hbare
  exact absurd (admits_of_isBare e hbare) (by simp [h])

end GraphFilter.Condition
