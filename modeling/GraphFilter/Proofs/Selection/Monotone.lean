import GraphFilter.Proofs.Selection.Meaning
import Mathlib.Data.List.Perm.Subperm

/-!
# `GraphFilter.Proofs.Selection.Monotone` — whether more filters select less

An `all` gives each filter what the earlier filters left. Fewer candidates should lead to fewer
selected ones; but an `any` keeps the first candidate of each id, and without the candidate that was
first another one with its id comes through, which may pass a later test that the first one fails.
So it matters which leaves test candidates after a merge, and whether candidates with one id agree on
those leaves.

## Contents
- **Sizes.** `select_subperm` and `select_subperm_filter`: what is selected, counted by places.
- **Late leaves.** `Condition.lateLeaves` are the leaves that test candidates after a merge, and
  `AgreeOn` says that an id decides them.
- **Two runs.** `Within` relates the candidates of a run to those of a run that started with more;
  `within_select` is the step from one condition to the next.
- **Main result.** `length_select_all_le`: what an `all` and one of its filters select.
-/

namespace GraphFilter

variable {E : Type} [Entity E]

namespace Condition

/-! ## Sizes -/

/-- Selected entities are candidates, and no place is used twice. -/
theorem select_subperm (c : Condition) (es : List E) : (c.select es).Subperm es := by
  have hplaces : (c.select (places es)).Subperm (places es) :=
    List.subperm_of_subset (nodup_select c (nodup_places es)) (select_subset c (places es))
  obtain ⟨kept, hperm, hsublist⟩ := hplaces
  have hentities : ((c.select (places es)).map Place.entity).Subperm
      ((places es).map Place.entity) := ⟨_, hperm.map Place.entity, hsublist.map Place.entity⟩
  rwa [← select_map (Place.entity_isView es), places_map_entity] at hentities

/-- Selected entities are admitted candidates, and no place is used twice. -/
theorem select_subperm_filter (c : Condition) (es : List E) :
    (c.select es).Subperm (es.filter fun e => c.admits e) := by
  have hadmits : (c.select es).filter (fun e => c.admits e) = c.select es :=
    List.filter_eq_self.mpr fun e he => admits_of_mem_select he
  rw [← hadmits]
  exact (select_subperm c es).filter _

theorem length_select_le (c : Condition) (es : List E) : (c.select es).length ≤ es.length :=
  (select_subperm c es).length_le

/-- The run of an `all` up to one of its filters, through it, and on. -/
theorem select_all_at (filters : List Condition) (i : Fin filters.length) (es : List E) :
    (all filters).select es =
      (all (filters.drop (i + 1))).select
        (filters[i].select ((all (filters.take i)).select es)) := by
  have hsplit : filters = filters.take i ++ filters[i] :: filters.drop (i + 1) := by
    rw [Fin.getElem_fin, ← List.drop_eq_getElem_cons, List.take_append_drop]
  calc (all filters).select es
      = (all (filters.take i ++ filters[i] :: filters.drop (i + 1))).select es := by rw [← hsplit]
    _ = _ := by rw [select_all_append, select_all_cons]

/-! ## Late leaves -/

mutual

/-- Whether candidates are merged by the time that the condition is through. -/
def merges : Condition → Bool
  | .ofType _ | .matchProperty _ _ => false
  | .all filters => mergesSome filters
  | .any filters => !filters.isEmpty

/-- Whether one of these conditions merges candidates. -/
def mergesSome : List Condition → Bool
  | [] => false
  | c :: rest => merges c || mergesSome rest

end

mutual

/-- The leaves that test candidates after a merge, where the candidates may be `merged` from the
    start. -/
def lateLeaves (merged : Bool) : Condition → List Leaf
  | .ofType name => if merged then [.ofType name] else []
  | .matchProperty property value => if merged then [.matchProperty property value] else []
  | .all filters => lateLeavesInTurn merged filters
  | .any filters => lateLeavesOfEach merged filters

/-- The late leaves of conditions that are applied one after the other. -/
def lateLeavesInTurn (merged : Bool) : List Condition → List Leaf
  | [] => []
  | c :: rest => lateLeaves merged c ++ lateLeavesInTurn (merged || merges c) rest

/-- The late leaves of conditions that all see the same candidates. -/
def lateLeavesOfEach (merged : Bool) : List Condition → List Leaf
  | [] => []
  | c :: rest => lateLeaves merged c ++ lateLeavesOfEach merged rest

end

theorem lateLeaves_subset_of_mem {merged : Bool} {c : Condition} {filters : List Condition}
    (h : c ∈ filters) : lateLeaves merged c ⊆ lateLeavesOfEach merged filters := by
  induction filters with
  | nil => exact absurd h List.not_mem_nil
  | cons f rest ih =>
    rcases List.mem_cons.mp h with rfl | hrest
    · exact List.subset_append_left _ _
    · exact List.Subset.trans (ih hrest) (List.subset_append_right _ _)

/-- Whether an entity passes the test of a leaf. -/
def Leaf.admits (e : E) : Leaf → Bool
  | .ofType name => Entity.hasType e name
  | .matchProperty property value => hasProperty e property value

/-- Entities of the pool that have one id agree on these leaves. -/
def AgreeOn (leaves : List Leaf) (pool : List E) : Prop :=
  ∀ leaf ∈ leaves, ∀ e ∈ pool, ∀ e' ∈ pool, Entity.id e = Entity.id e' →
    leaf.admits e = leaf.admits e'

theorem AgreeOn.subset {leaves leaves' : List Leaf} {pool : List E} (h : AgreeOn leaves' pool)
    (hsub : leaves ⊆ leaves') : AgreeOn leaves pool :=
  fun leaf hleaf => h leaf (hsub hleaf)

/-- Distinct ids agree with themselves only. -/
theorem agreeOn_of_nodup_ids {leaves : List Leaf} {pool : List E}
    (h : (pool.map Entity.id).Nodup) : AgreeOn leaves pool := by
  intro leaf _
  exact idsDecide_of_nodup h leaf.admits

/-! ## Two runs -/

/-- The candidates of a run against those of a run with more: before a merge they are among them,
    after it they have distinct ids that are among theirs. -/
def Within (merged : Bool) (few many : List E) : Prop :=
  match merged with
  | false => few.Subperm many
  | true => (few.map Entity.id).Nodup ∧ few.map Entity.id ⊆ many.map Entity.id

section TwoRuns

variable {merged : Bool} {pool few many : List E}

theorem Within.ids_subset (h : Within merged few many) :
    few.map Entity.id ⊆ many.map Entity.id := by
  cases merged with
  | false => exact List.map_subset Entity.id (List.Subperm.subset h)
  | true => exact h.2

theorem Within.length_le (h : Within merged few many) : few.length ≤ many.length := by
  cases merged with
  | false => exact List.Subperm.length_le h
  | true =>
    have hids : (few.map Entity.id).Subperm (many.map Entity.id) := List.subperm_of_subset h.1 h.2
    simpa using hids.length_le

/-- A test keeps the relation: after a merge an id in both runs passes it in both. -/
theorem within_filter {test : E → Bool} (hfew : few ⊆ pool) (hmany : many ⊆ pool)
    (hagree : merged = true → IdsDecide Entity.id test pool)
    (h : Within merged few many) : Within merged (few.filter test) (many.filter test) := by
  cases merged with
  | false => exact List.Subperm.filter test h
  | true =>
    refine ⟨h.1.sublist (List.filter_sublist.map Entity.id), fun i hi => ?_⟩
    obtain ⟨e, he, rfl⟩ := List.mem_map.mp hi
    obtain ⟨hein, htest⟩ := List.mem_filter.mp he
    obtain ⟨e', he', hid⟩ := List.mem_map.mp (h.2 (List.mem_map_of_mem hein))
    have hsame : test e' = test e := hagree rfl e' (hmany he') e (hfew hein) hid
    exact List.mem_map.mpr ⟨e', List.mem_filter.mpr ⟨he', hsame.trans htest⟩, hid⟩

/-- A merge brings the relation about, if what it merges has no new ids in the run with fewer. -/
theorem within_firstPerId {few many : List E} (h : few.map Entity.id ⊆ many.map Entity.id) :
    Within true (firstPerId Entity.id few) (firstPerId Entity.id many) := by
  refine ⟨nodup_map_firstPerIdFrom [] few, fun i hi => ?_⟩
  rw [mem_map_firstPerId] at hi ⊢
  exact h hi

/-- **A condition keeps the relation between the two runs**, if candidates with one id agree on the
    leaves that it tests after a merge. -/
theorem within_select (c : Condition) (hfew : few ⊆ pool) (hmany : many ⊆ pool)
    (hagree : AgreeOn (c.lateLeaves merged) pool) (h : Within merged few many) :
    Within (merged || c.merges) (c.select few) (c.select many) := by
  induction c using induction_inTurn generalizing merged few many with
  | ofType name =>
    rw [merges, Bool.or_false]
    refine within_filter hfew hmany (fun hmerged => ?_) h
    subst hmerged
    exact hagree (.ofType name) (List.mem_singleton.mpr rfl)
  | matchProperty property value =>
    rw [merges, Bool.or_false]
    refine within_filter hfew hmany (fun hmerged => ?_) h
    subst hmerged
    exact hagree (.matchProperty property value) (List.mem_singleton.mpr rfl)
  | all_nil => simpa [merges, mergesSome] using h
  | all_cons f rest hf hrest =>
    -- The first filter leaves the relation that the others start with.
    rw [lateLeaves, lateLeavesInTurn] at hagree
    have hstep : Within (merged || f.merges) (f.select few) (f.select many) :=
      hf hfew hmany (hagree.subset (List.subset_append_left _ _)) h
    rw [merges, mergesSome, ← Bool.or_assoc]
    exact hrest (List.Subset.trans (select_subset f few) hfew)
      (List.Subset.trans (select_subset f many) hmany)
      (hagree.subset (List.subset_append_right _ _)) hstep
  | any_nil => simpa [merges] using h
  | any_cons f rest ih =>
    rw [lateLeaves] at hagree
    have hmerges : (merged || (any (f :: rest)).merges) = true := by simp [merges]
    rw [hmerges, select_any_cons, select_any_cons]
    refine within_firstPerId fun i hi => ?_
    -- An id that one filter keeps in the run with fewer, it keeps in the other run.
    obtain ⟨e, he, rfl⟩ := List.mem_map.mp hi
    obtain ⟨g, hg, hkept⟩ := List.mem_flatMap.mp he
    have hbranch : Within (merged || g.merges) (g.select few) (g.select many) :=
      ih g hg hfew hmany (hagree.subset (lateLeaves_subset_of_mem hg)) h
    obtain ⟨e', he', hid⟩ := List.mem_map.mp (hbranch.ids_subset (List.mem_map_of_mem hkept))
    exact List.mem_map.mpr ⟨e', List.mem_flatMap.mpr ⟨g, hg, he'⟩, hid⟩

end TwoRuns

/-! ## Main result -/

section MainResult

variable (filters : List Condition) (es : List E) (i : Fin filters.length)

/-- Whatever the ids: an `all` selects no more than each of its filters admits. -/
theorem length_select_all_le_filter :
    ((all filters).select es).length ≤ (es.filter fun e => filters[i].admits e).length := by
  have hadmits : ∀ e : E, (all filters).admits e = true → filters[i].admits e = true :=
    fun e h => admits_all_iff.mp h _ (List.getElem_mem i.isLt)
  calc ((all filters).select es).length
      ≤ (es.filter fun e => (all filters).admits e).length :=
        (select_subperm_filter (all filters) es).length_le
    _ ≤ (es.filter fun e => filters[i].admits e).length :=
        (List.monotone_filter_right es hadmits).length_le

/-- The filters before this one select fewer candidates, this one keeps them fewer, and the filters
    after it add none. -/
theorem length_select_all_le_of_agreeOn (h : AgreeOn (filters[i].lateLeaves false) es) :
    ((all filters).select es).length ≤ (filters[i].select es).length := by
  have hbefore : Within false ((all (filters.take i)).select es) es :=
    select_subperm (all (filters.take i)) es
  have hthrough : Within (false || filters[i].merges)
      (filters[i].select ((all (filters.take i)).select es)) (filters[i].select es) :=
    within_select filters[i] (select_subset _ es) (List.Subset.refl es) h hbefore
  rw [select_all_at filters i es]
  exact Nat.le_trans (length_select_le _ _) hthrough.length_le

/-- Filters that come after such as drop nothing see all candidates. -/
theorem length_select_all_le_of_take (h : (all (filters.take i)).select es = es) :
    ((all filters).select es).length ≤ (filters[i].select es).length := by
  rw [select_all_at filters i es, h]
  exact length_select_le _ _

end MainResult

/-- **An `all` selects no more than one of its filters does alone**, if the candidates that have one
    id agree on the leaves which that filter tests after a merge; so always if it tests none there, or
    if the ids are distinct. It is so too if the filters before it drop nothing. In any case the
    `all` selects no more than that filter admits. -/
theorem length_select_all_le (filters : List Condition) (es : List E) (i : Fin filters.length) :
    (AgreeOn (filters[i].lateLeaves false) es ∨ (all (filters.take i)).select es = es →
      ((all filters).select es).length ≤ (filters[i].select es).length) ∧
    ((es.map Entity.id).Nodup →
      ((all filters).select es).length ≤ (filters[i].select es).length) ∧
    ((all filters).select es).length ≤ (es.filter fun e => filters[i].admits e).length := by
  refine ⟨?_, fun hids => ?_, length_select_all_le_filter filters es i⟩
  · rintro (hagree | hnothing)
    · exact length_select_all_le_of_agreeOn filters es i hagree
    · exact length_select_all_le_of_take filters es i hnothing
  · exact length_select_all_le_of_agreeOn filters es i (agreeOn_of_nodup_ids hids)

/-- Two nodes with one id, a film and a short film, and a third node. -/
def shortFilms : List Node :=
  [{ id := 1, labels := ["Movie"] }, { id := 1, labels := ["Movie", "Short"] },
    { id := 2, labels := ["Short"] }]

/-- Only the first filter tells the nodes with id 1 apart. The second, alone, selects another one of
    them than it does after the first; as both are films, its test after the merge does not mind. -/
theorem length_select_all_le_shortFilms :
    let films : Condition := .all [.any [.ofType "Movie", .ofType "Short"], .ofType "Movie"]
    AgreeOn (films.lateLeaves false) shortFilms ∧
      ((all [.ofType "Short", films]).select shortFilms).length ≤
        (films.select shortFilms).length := by
  have hagree : AgreeOn [Leaf.ofType "Movie"] shortFilms := by
    unfold AgreeOn
    decide
  exact ⟨hagree, (length_select_all_le [.ofType "Short", _] shortFilms 1).1 (.inl hagree)⟩

/-- The second filter merges the nodes with id 1 and tests the film for being short, so alone it
    selects nothing; after the first filter it tests the short film. -/
theorem length_select_all_gt_shortFilms :
    let shorts : Condition := .all [.any [.all []], .ofType "Short"]
    let nodes : List Node := [{ id := 1 }, { id := 1, labels := ["Short"] }]
    (shorts.select nodes).length = 0 ∧
      ((all [.ofType "Short", shorts]).select nodes).length = 1 := by
  decide

end Condition

end GraphFilter
