import GraphFilter.Selection
import GraphFilter.Proofs.Condition.Tree
import GraphFilter.Proofs.Graph.FirstOccurrences
import Mathlib.Data.List.Nodup

/-!
# `GraphFilter.Proofs.Selection.Steps` — what each rule does to a list of candidates

## Contents
- **One equation per rule.** `select_ofType`, `select_matchProperty`, `select_all_cons`,
  `select_any_cons` and the two for no filters; `select_all_append` for several filters at once. Later
  proofs use these, or `select_induction`, and never open the walk.
- **Bounds.** `select_subset`: nothing is made up. `nodup_select` and `nodup_ids_select`: nothing
  is repeated that was not repeated before.
- **Views.** `select_map`: only what `Entity` shows of a candidate decides.
-/

namespace GraphFilter

variable {E : Type} [Entity E]

namespace Condition

/-! ## One equation per rule -/

@[simp] theorem select_ofType (name : String) (es : List E) :
    (ofType name).select es = es.filter fun e => Entity.hasType e name := rfl

@[simp] theorem select_matchProperty (property : String) (value : Value) (es : List E) :
    (matchProperty property value).select es = es.filter fun e => hasProperty e property value :=
  rfl

@[simp] theorem select_all_nil (es : List E) : (all []).select es = es := rfl

/-- The first filter narrows what the others see. -/
@[simp] theorem select_all_cons (c : Condition) (rest : List Condition) (es : List E) :
    (all (c :: rest)).select es = (all rest).select (c.select es) := rfl

/-- The filters of an `all` may be applied in two runs. -/
theorem select_all_append (before after : List Condition) (es : List E) :
    (all (before ++ after)).select es = (all after).select ((all before).select es) := by
  induction before generalizing es with
  | nil => rfl
  | cons f rest ih => rw [List.cons_append, select_all_cons, ih, select_all_cons]

@[simp] theorem select_any_nil (es : List E) : (any []).select es = es := rfl

/-- Every filter sees all candidates; of what they keep the first of each id stays. -/
theorem select_any_cons (c : Condition) (rest : List Condition) (es : List E) :
    (any (c :: rest)).select es =
      firstPerId Entity.id ((c :: rest).flatMap fun f => f.select es) := by
  show firstPerId Entity.id ((visits selector (c :: rest)).flatMap fun walk => walk es) = _
  rw [visits_eq_map, List.flatMap_map]
  rfl

theorem select_any_of_ne_nil {filters : List Condition} (h : filters ≠ []) (es : List E) :
    (any filters).select es = firstPerId Entity.id (filters.flatMap fun f => f.select es) := by
  obtain ⟨f, rest, rfl⟩ := List.exists_cons_of_ne_nil h
  exact select_any_cons f rest es

/-- What holds between a list and a list that is filtered, narrowed again or merged from it holds
    between the candidates and what is selected. -/
theorem select_induction {R : List E → List E → Prop} (same : ∀ es, R es es)
    (keep : ∀ (test : E → Bool) es, R es (es.filter test))
    (narrow : ∀ es es' es'', R es es' → R es' es'' → R es es'')
    (merge : ∀ es (branches : List (List E)), (∀ branch ∈ branches, R es branch) →
      R es (firstPerId Entity.id branches.flatten)) (c : Condition) (es : List E) :
    R es (c.select es) := by
  induction c using induction_inTurn generalizing es with
  | ofType name => exact keep _ es
  | matchProperty property value => exact keep _ es
  | all_nil => exact same es
  | all_cons f rest hf hrest => exact narrow _ _ _ (hf es) (hrest _)
  | any_nil => exact same es
  | any_cons f rest ih =>
    rw [select_any_cons, List.flatMap_def]
    refine merge es _ fun branch hbranch => ?_
    obtain ⟨g, hg, rfl⟩ := List.mem_map.mp hbranch
    exact ih g hg es

/-! ## Bounds -/

/-- Every selected entity is a candidate. -/
theorem select_subset (c : Condition) (es : List E) : c.select es ⊆ es := by
  refine select_induction (R := fun es kept => kept ⊆ es) List.Subset.refl
    (fun test es => List.filter_subset_self es) (fun _ _ _ hfirst hsecond => ?_)
    (fun es branches hbranches => ?_) c es
  · exact List.Subset.trans hsecond hfirst
  · intro e he
    obtain ⟨branch, hbranch, he⟩ :=
      List.mem_flatten.mp ((firstPerIdFrom_sublist [] _).subset he)
    exact hbranches branch hbranch he

/-- So it is with what several conditions select from the same candidates. -/
theorem flatMap_select_subset (filters : List Condition) (es : List E) :
    (filters.flatMap fun f => f.select es) ⊆ es := by
  intro e he
  obtain ⟨f, -, hkept⟩ := List.mem_flatMap.mp he
  exact select_subset f es hkept

/-- Candidates with distinct ids leave candidates with distinct ids. -/
theorem nodup_ids_select (c : Condition) {es : List E} (h : (es.map Entity.id).Nodup) :
    ((c.select es).map Entity.id).Nodup := by
  refine select_induction
    (R := fun es kept => (es.map Entity.id).Nodup → (kept.map Entity.id).Nodup)
    (fun _ hids => hids) (fun test es hids => ?_) (fun _ _ _ hfirst hsecond => hsecond ∘ hfirst)
    (fun _ _ _ _ => ?_) c es h
  · exact hids.sublist (List.filter_sublist.map _)
  · exact nodup_map_firstPerIdFrom [] _

/-- Distinct candidates, whatever their ids, are selected at most once each. -/
theorem nodup_select (c : Condition) {es : List E} (h : es.Nodup) : (c.select es).Nodup := by
  refine select_induction (R := fun es kept => es.Nodup → kept.Nodup)
    (fun _ hdistinct => hdistinct) (fun test es hdistinct => ?_)
    (fun _ _ _ hfirst hsecond => hsecond ∘ hfirst) (fun _ _ _ _ => ?_) c es h
  · exact hdistinct.sublist List.filter_sublist
  -- A merge has distinct ids, whatever it merges.
  · exact List.Nodup.of_map Entity.id (nodup_map_firstPerIdFrom [] _)

end Condition

/-! ## Views -/

/-- A function between entities that a filter cannot see. -/
structure Entity.IsView {F : Type} [Entity F] (view : F → E) : Prop where
  id_eq : ∀ x, Entity.id (view x) = Entity.id x
  hasType_eq : ∀ x name, Entity.hasType (view x) name = Entity.hasType x name
  property?_eq : ∀ x name, Entity.property? (view x) name = Entity.property? x name

/-- Selecting from views is viewing what is selected. -/
theorem Condition.select_map {F : Type} [Entity F] {view : F → E} (h : Entity.IsView view)
    (c : Condition) (xs : List F) : c.select (xs.map view) = (c.select xs).map view := by
  induction c using Condition.induction_inTurn generalizing xs with
  | ofType name => simp [List.filter_map, Function.comp_def, h.hasType_eq]
  | matchProperty property value =>
    simp [List.filter_map, Function.comp_def, hasProperty, h.property?_eq]
  | all_nil => rfl
  | all_cons f rest hf hrest => rw [select_all_cons, hf, hrest, select_all_cons]
  | any_nil => rfl
  | any_cons f rest ih =>
    have hbranches : ((f :: rest).flatMap fun g => g.select (xs.map view)) =
        ((f :: rest).flatMap fun g => g.select xs).map view := by
      rw [List.map_flatMap]
      exact List.flatMap_congr fun g hg => ih g hg xs
    have hid : (Entity.id ∘ view : F → EntityId) = Entity.id := funext h.id_eq
    rw [select_any_cons, select_any_cons, hbranches, firstPerId_map, hid]

end GraphFilter
