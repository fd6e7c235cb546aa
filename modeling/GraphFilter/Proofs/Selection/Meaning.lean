import GraphFilter.Proofs.Selection.Steps
import GraphFilter.Sample.Films
import Mathlib.Data.List.FinRange
import Mathlib.Data.List.Nodup
import Mathlib.Data.List.Perm.Basic

/-!
# `GraphFilter.Proofs.Selection.Meaning` — selecting is testing each entity by itself

The walk narrows, copies, reorders and merges lists; `Condition.admits` looks at one entity and at
nothing else. Of a list of entities with distinct ids the walk keeps exactly those that the
condition admits. Where ids repeat, `any` keeps one entity per id, so that an entity may be missing;
one that is kept is still admitted, and no place of the list is used twice.

## Contents
- **Members.** `admits_of_mem_select` needs nothing, `mem_select_iff` and `select_perm_filter` need
  distinct ids; `select_singleton` is about one candidate.
- **Places.** `Place` is an entity together with where it stands, as a list of references has it.
- **Meaning.** `select_computes_meaning`.
-/

namespace GraphFilter

variable {E : Type} [Entity E]

namespace Condition

/-! ## Members -/

/-- What is selected is admitted, whatever the ids. -/
theorem admits_of_mem_select {c : Condition} {es : List E} {e : E} (h : e ∈ c.select es) :
    c.admits e = true := by
  induction c using induction_inTurn generalizing es with
  | ofType name => exact (List.mem_filter.mp h).2
  | matchProperty property value => exact (List.mem_filter.mp h).2
  | all_nil => rfl
  | all_cons f rest hf hrest =>
    -- What the other filters leave was there after the first one.
    have hmem : e ∈ f.select es := select_subset (.all rest) _ h
    have htail : admits e (.all rest) = true := hrest h
    exact admits_all_iff.mpr (List.forall_mem_cons.mpr ⟨hf hmem, admits_all_iff.mp htail⟩)
  | any_nil => rfl
  | any_cons f rest ih =>
    rw [select_any_cons] at h
    obtain ⟨g, hg, hmem⟩ := List.mem_flatMap.mp ((firstPerIdFrom_sublist [] _).subset h)
    exact admits_any_iff.mpr (Or.inr ⟨g, hg, ih g hg hmem⟩)

/-- Among entities with distinct ids no admitted one is missed. -/
theorem mem_select_of_admits {c : Condition} {es : List E} {e : E}
    (hids : (es.map Entity.id).Nodup) (he : e ∈ es) (h : c.admits e = true) : e ∈ c.select es := by
  induction c using induction_inTurn generalizing es with
  | ofType name => exact List.mem_filter.mpr ⟨he, h⟩
  | matchProperty property value => exact List.mem_filter.mpr ⟨he, h⟩
  | all_nil => exact he
  | all_cons f rest hf hrest =>
    obtain ⟨hfirst, htail⟩ := List.forall_mem_cons.mp (admits_all_iff.mp h)
    exact hrest (nodup_ids_select f hids) (hf hids he hfirst) (admits_all_iff.mpr htail)
  | any_nil => exact he
  | any_cons f rest ih =>
    obtain ⟨g, hg, hadmits⟩ := (admits_any_iff.mp h).resolve_left (List.cons_ne_nil f rest)
    have hbranch : e ∈ (f :: rest).flatMap fun c => c.select es :=
      List.mem_flatMap.mpr ⟨g, hg, ih g hg hids he hadmits⟩
    rw [select_any_cons]
    -- The merge keeps an entity with this id; ids being distinct, it is this entity.
    obtain ⟨other, hother, hid⟩ :=
      List.mem_map.mp (mem_map_firstPerId.mpr (List.mem_map_of_mem hbranch))
    have hcandidate : other ∈ es :=
      flatMap_select_subset (f :: rest) es ((firstPerIdFrom_sublist [] _).subset hother)
    exact List.inj_on_of_nodup_map hids hcandidate he hid ▸ hother

theorem mem_select_iff {c : Condition} {es : List E} {e : E} (hids : (es.map Entity.id).Nodup) :
    e ∈ c.select es ↔ e ∈ es ∧ c.admits e = true :=
  ⟨fun h => ⟨select_subset c es h, admits_of_mem_select h⟩,
    fun h => mem_select_of_admits hids h.1 h.2⟩

/-- Of entities with distinct ids exactly the admitted ones are selected, in some order. -/
theorem select_perm_filter (c : Condition) {es : List E} (hids : (es.map Entity.id).Nodup) :
    (c.select es).Perm (es.filter fun e => c.admits e) := by
  have hdistinct : es.Nodup := List.Nodup.of_map Entity.id hids
  refine (List.perm_ext_iff_of_nodup (nodup_select c hdistinct) (hdistinct.filter _)).mpr
    fun e => ?_
  rw [mem_select_iff hids, List.mem_filter]

/-- A single candidate stays if it is admitted. -/
theorem select_singleton (c : Condition) (e : E) :
    c.select [e] = if c.admits e then [e] else [] := by
  have hids : ([e].map Entity.id).Nodup := List.nodup_singleton _
  have hperm := c.select_perm_filter hids
  rw [List.filter_singleton] at hperm
  cases hadmits : c.admits e with
  | true => exact List.perm_singleton.mp (by simpa [hadmits] using hperm)
  | false => exact List.perm_nil.mp (by simpa [hadmits] using hperm)

theorem select_singleton_eq_self_iff {c : Condition} {e : E} :
    c.select [e] = [e] ↔ c.admits e = true := by
  rw [select_singleton]
  split <;> simp_all

end Condition

/-! ## Places -/

/-- An entity of a list by where it stands there. -/
structure Place (es : List E) where
  index : Fin es.length

/-- The entity at a place. -/
def Place.entity {es : List E} (p : Place es) : E :=
  es[p.index]

/-- A filter sees of a place what it sees of the entity there. -/
instance (es : List E) : Entity (Place es) where
  kind := Entity.kind E
  id p := Entity.id p.entity
  hasType p := Entity.hasType p.entity
  property? p := Entity.property? p.entity

/-- All places of a list, in order. -/
def places (es : List E) : List (Place es) :=
  (List.finRange es.length).map Place.mk

omit [Entity E] in
theorem nodup_places (es : List E) : (places es).Nodup :=
  (List.nodup_finRange es.length).map fun _ _ h => congrArg Place.index h

omit [Entity E] in
theorem places_map_entity (es : List E) : (places es).map Place.entity = es := by
  rw [places, List.map_map]
  exact List.map_getElem_finRange es

theorem Place.entity_isView (es : List E) : Entity.IsView (Place.entity : Place es → E) :=
  ⟨fun _ => rfl, fun _ _ => rfl, fun _ _ => rfl⟩

/-! ## Meaning -/

/-- **Selecting computes the pointwise meaning.** What is selected is admitted; it is selected by
    place, and no place twice; and of entities with distinct ids exactly the admitted ones are
    selected. -/
theorem select_computes_meaning (c : Condition) (es : List E) :
    (∀ e ∈ c.select es, c.admits e = true) ∧
    (c.select es = (c.select (places es)).map Place.entity ∧ (c.select (places es)).Nodup) ∧
    ((es.map Entity.id).Nodup → (c.select es).Perm (es.filter fun e => c.admits e)) := by
  refine ⟨fun e => Condition.admits_of_mem_select, ⟨?_, ?_⟩, c.select_perm_filter⟩
  · rw [← Condition.select_map (Place.entity_isView es), places_map_entity]
  · exact Condition.nodup_select c (nodup_places es)

/-- The films and people of the sample, films first: the walk reorders, and misses nobody. -/
theorem select_films_perm :
    let c : Condition := .any [.ofType "Movie", .all [.ofType "Person", .any []]]
    (Sample.films.nodes.map Entity.id).Nodup ∧
      (c.select Sample.films.nodes).Perm (Sample.films.nodes.filter fun e => c.admits e) :=
  have hids : (Sample.films.nodes.map Entity.id).Nodup := by decide
  ⟨hids, (select_computes_meaning _ _).2.2 hids⟩

end GraphFilter
