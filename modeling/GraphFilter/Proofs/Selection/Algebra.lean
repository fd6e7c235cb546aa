import GraphFilter.Proofs.Selection.Steps
import GraphFilter.Sample.Films
import Mathlib.Data.List.Nodup

/-!
# `GraphFilter.Proofs.Selection.Algebra` — laws of selecting that keep the order

Equations between lists, so they hold of the order of what is selected too. Both groups rest on what
picking first occurrences commutes with: with leaving out whole ids, and with having been done to a
part before.

## Contents
- **Leaving candidates out.** `select_filter`: candidates do not influence one another.
- **Nesting.** `select_flatten`: a combinator inside one of its own kind may be spliced into it, and
  what ids an `any` selects.
-/

namespace GraphFilter.Condition

variable {E : Type} [Entity E]

/-! ## Leaving candidates out -/

/-- Candidates may be left out before or after selecting, as long as those with one id stay or go
    together. -/
theorem select_filter_of_idsDecide (c : Condition) {es : List E} {keep : E → Bool}
    (h : IdsDecide Entity.id keep es) :
    c.select (es.filter keep) = (c.select es).filter keep := by
  induction c using induction_inTurn generalizing es with
  | ofType name => rw [select_ofType, select_ofType, List.filter_comm]
  | matchProperty property value =>
    rw [select_matchProperty, select_matchProperty, List.filter_comm]
  | all_nil => rfl
  | all_cons f rest hf hrest =>
    -- What the first filter leaves are candidates, so ids still decide.
    have hleft : IdsDecide Entity.id keep (f.select es) := h.subset (select_subset f es)
    rw [select_all_cons, hf h, hrest hleft, select_all_cons]
  | any_nil => rfl
  | any_cons f rest ih =>
    have hbranches : ((f :: rest).flatMap fun g => g.select (es.filter keep)) =
        ((f :: rest).flatMap fun g => g.select es).filter keep := by
      rw [List.filter_flatMap]
      exact List.flatMap_congr fun g hg => ih g hg h
    have hmerged : IdsDecide Entity.id keep ((f :: rest).flatMap fun g => g.select es) :=
      h.subset (flatMap_select_subset _ es)
    rw [select_any_cons, hbranches, firstPerId_filter hmerged, select_any_cons]

/-- **Candidates do not influence one another.** If their ids are distinct, selecting from some of
    them selects those of them that are selected from all, in the same order. -/
theorem select_filter (c : Condition) (keep : E → Bool) {es : List E}
    (hids : (es.map Entity.id).Nodup) :
    c.select (es.filter keep) = (c.select es).filter keep :=
  select_filter_of_idsDecide c (idsDecide_of_nodup hids keep)

/-- The walk puts films first and, of the people, directors; one of the directors is left out. -/
theorem select_filter_films :
    let people : Condition := .all [.ofType "Person", .any [.ofType "Director", .all []]]
    let c : Condition := .any [.ofType "Movie", people]
    let keep : Node → Bool := fun node => node.properties.get? "born" != some (.int 1937)
    (Sample.films.nodes.map Entity.id).Nodup ∧
      c.select (Sample.films.nodes.filter keep) = (c.select Sample.films.nodes).filter keep :=
  have hids : (Sample.films.nodes.map Entity.id).Nodup := by decide
  ⟨hids, select_filter _ _ hids⟩

/-! ## Nesting -/

variable (before inner after : List Condition) (es : List E)

/-- Within an `all` the filters of an inner `all` come in turn like the others. -/
theorem select_all_flatten :
    (all (before ++ [all inner] ++ after)).select es =
      (all (before ++ inner ++ after)).select es := by
  calc (all (before ++ [all inner] ++ after)).select es
      = (all after).select ((all [all inner]).select ((all before).select es)) := by
        rw [select_all_append, select_all_append]
    _ = (all after).select ((all inner).select ((all before).select es)) := by
        rw [select_all_cons, select_all_nil]
    _ = (all (before ++ inner ++ after)).select es := by
        rw [select_all_append, select_all_append]

/-- Within an `any` the inner merge leaves to the outer one what the outer one would keep anyway. -/
theorem select_any_flatten (h : inner ≠ []) :
    (any (before ++ [any inner] ++ after)).select es =
      (any (before ++ inner ++ after)).select es := by
  have houter : before ++ [any inner] ++ after ≠ [] := by simp
  have hspliced : before ++ inner ++ after ≠ [] := by simp [h]
  rw [select_any_of_ne_nil houter, select_any_of_ne_nil hspliced]
  simp only [List.flatMap_append, List.flatMap_singleton, select_any_of_ne_nil h]
  exact firstPerId_append_firstPerId_append _ _ _

/-- An `any` with filters selects the ids that some filter selects alone. -/
theorem mem_ids_select_any {filters : List Condition} (h : filters ≠ []) {i : EntityId} :
    i ∈ ((any filters).select es).map Entity.id ↔
      ∃ f ∈ filters, i ∈ (f.select es).map Entity.id := by
  rw [select_any_of_ne_nil h, mem_map_firstPerId, List.map_flatMap, List.mem_flatMap]

/-- **Nested combinators flatten**, whatever the ids of the candidates. An `all` in an `all` may be
    replaced by its filters. So may an `any` in an `any`, if it has filters; and an `any` with filters
    selects the union of the ids that its filters select alone, each once. -/
theorem select_flatten :
    (all (before ++ [all inner] ++ after)).select es =
      (all (before ++ inner ++ after)).select es ∧
    (inner ≠ [] →
      (any (before ++ [any inner] ++ after)).select es =
        (any (before ++ inner ++ after)).select es ∧
      (((any inner).select es).map Entity.id).Nodup ∧
      ∀ i, i ∈ ((any inner).select es).map Entity.id ↔
        ∃ f ∈ inner, i ∈ (f.select es).map Entity.id) := by
  refine ⟨select_all_flatten before inner after es, fun h => ⟨?_, ?_, fun i => ?_⟩⟩
  · exact select_any_flatten before inner after es h
  · rw [select_any_of_ne_nil h]
    exact nodup_map_firstPerIdFrom [] _
  · exact mem_ids_select_any es h

/-- The inner filters overlap with each other and with the outer ones, and every id stands twice among
    the candidates. -/
theorem select_flatten_films :
    let inner : List Condition := [.ofType "Person", .ofType "Director"]
    let nodes : List Node := Sample.films.nodes ++ Sample.films.nodes
    inner ≠ [] ∧
      (any ([.ofType "Movie"] ++ [any inner] ++ [.ofType "Person"])).select nodes =
        (any ([.ofType "Movie"] ++ inner ++ [.ofType "Person"])).select nodes ∧
      (((any inner).select nodes).map Entity.id).Nodup ∧
      ∀ i, i ∈ ((any inner).select nodes).map Entity.id ↔
        ∃ f ∈ inner, i ∈ (f.select nodes).map Entity.id :=
  have hinner : [Condition.ofType "Person", .ofType "Director"] ≠ [] := List.cons_ne_nil _ _
  ⟨hinner, (select_flatten _ _ _ _).2 hinner⟩

/-- Without filters an inner `any` lets everybody through, which nothing in its place would. -/
example :
    ((any [any [], .ofType "Director"]).select Sample.films.nodes).map Entity.id =
        [1, 2, 3, 4, 5, 6, 7] ∧
      ((any [.ofType "Director"]).select Sample.films.nodes).map Entity.id = [1, 6] := by
  decide

end GraphFilter.Condition
