import GraphFilter.Proofs.Selection.Meaning
import Mathlib.Data.List.Nodup

/-!
# `GraphFilter.Proofs.Selection.Arrangement` — the order in which entities are selected

An `any` puts what its first filter selects before what only a later one selects, and an `all` applies
such rearrangements one after the other. Among candidates with distinct ids the outcome is a stable
sort: a condition has an order of its own on the entities that it admits, which knows nothing of the
candidates, and where that order leaves a tie the entities stay as they stood.

## Contents
- **Arrangements.** `IsArranged`: a list stands by an order, and in ties as another list. Two passes
  combine to the order that lets the later one decide first (`IsArranged.then`), a list is in place
  with respect to itself (`IsArranged.self`), and there is one arrangement only (`IsArranged.unique`).
- **The order of a condition.** `Condition.order`, by recursion on the condition.
- **Selecting is sorting.** `eq_select_iff`: what is selected is the arrangement of what is admitted.
- **Main result.** `select_select`: selecting twice is selecting once.
-/

namespace GraphFilter

/-! ## Arrangements -/

section Arrangements

variable {α : Type} {order later : α → α → Ordering} {items kept last : List α}

/-- Any two of the kept items stand by the order, or they tie and stand as among the items. -/
def IsArranged (order : α → α → Ordering) (items kept : List α) : Prop :=
  kept.Pairwise fun a b => order a b = .lt ∨ order a b = .eq ∧ [a, b].Sublist items

theorem isArranged_iff :
    IsArranged order items kept ↔
      ∀ a b, [a, b].Sublist kept → order a b = .lt ∨ order a b = .eq ∧ [a, b].Sublist items := by
  unfold IsArranged
  rw [List.pairwise_iff_forall_sublist]

/-- Where all items tie, leaving out items is all that can happen. -/
theorem isArranged_of_sublist (htie : ∀ a b, order a b = .eq) (h : kept.Sublist items) :
    IsArranged order items kept := by
  rw [isArranged_iff]
  intro a b hpair
  exact Or.inr ⟨htie a b, hpair.trans h⟩

/-- What is left of an arrangement is arranged. -/
theorem IsArranged.sublist (h : IsArranged order items kept) (hsub : last.Sublist kept) :
    IsArranged order items last :=
  List.Pairwise.sublist hsub h

/-- Orders that agree on what is kept arrange it alike. -/
theorem IsArranged.congr (h : IsArranged order items kept)
    (heq : ∀ a ∈ kept, ∀ b ∈ kept, later a b = order a b) : IsArranged later items kept := by
  refine List.Pairwise.imp_of_mem ?_ h
  intro a b ha hb hab
  rwa [heq a ha b hb]

/-- Two passes: the later one decides, and what it leaves open the earlier one has decided. -/
theorem IsArranged.then (hfirst : IsArranged order items kept)
    (hsecond : IsArranged later kept last) :
    IsArranged (fun a b => (later a b).then (order a b)) items last := by
  rw [isArranged_iff] at hfirst hsecond ⊢
  intro a b hpair
  rcases hsecond a b hpair with hlt | ⟨htie, hkept⟩
  · exact Or.inl (by rw [hlt, Ordering.lt_then])
  · rw [htie, Ordering.eq_then]
    exact hfirst a b hkept

/-- An arrangement is in place with respect to itself: in ties it stands as it stands. -/
theorem IsArranged.self (h : IsArranged order items kept) : IsArranged order kept kept := by
  rw [isArranged_iff] at h ⊢
  intro a b hpair
  exact (h a b hpair).imp id fun htie => ⟨htie.1, hpair⟩

/-- Of two distinct items only one stands before the other. -/
theorem not_pair_sublist_swap {a b : α} (hdistinct : items.Nodup) (h : [a, b].Sublist items) :
    ¬[b, a].Sublist items := by
  induction items with
  | nil => exact absurd h.subset (by simp)
  | cons item rest ih =>
    obtain ⟨hnew, hrest⟩ := List.nodup_cons.mp hdistinct
    intro hswap
    cases h with
    | cons _ h =>
      cases hswap with
      | cons _ hswap => exact ih hrest h hswap
      | cons_cons _ _ => exact hnew (h.subset (by simp))
    | cons_cons _ h =>
      cases hswap with
      | cons _ hswap => exact hnew (hswap.subset (by simp))
      | cons_cons _ _ => exact hnew (h.subset (by simp))

/-- **Distinct items have one arrangement** by an order that is the same from both sides. -/
theorem IsArranged.unique (hdistinct : items.Nodup) (hswap : ∀ a b, (order a b).swap = order b a)
    (hkept : IsArranged order items kept) (hlast : IsArranged order items last)
    (hperm : kept.Perm last) : kept = last := by
  refine List.Perm.eq_of_pairwise ?_ hkept hlast hperm
  rintro a b - - (hlt | ⟨htie, hab⟩) hba
  · rw [← hswap, hlt] at hba
    simp at hba
  · rw [← hswap, htie] at hba
    rcases hba with hlt | ⟨-, hba⟩
    · simp at hlt
    · exact absurd hba (not_pair_sublist_swap hdistinct hab)

end Arrangements

variable {E : Type} [Entity E]

namespace Condition

/-! ## The order of a condition -/

mutual

/-- How a condition orders two entities that it admits. A leaf leaves them as they stand. -/
def order (a b : E) : Condition → Ordering
  | .ofType _ | .matchProperty _ _ => .eq
  | .all filters => orderInTurn a b filters
  | .any filters => orderByBranch a b filters

/-- Filters that are applied one after the other: the last one that tells the entities apart has
    decided. -/
def orderInTurn (a b : E) : List Condition → Ordering
  | [] => .eq
  | c :: rest => (orderInTurn a b rest).then (order a b c)

/-- Filters whose selections are joined: an entity has its place from the first one that admits
    it. -/
def orderByBranch (a b : E) : List Condition → Ordering
  | [] => .eq
  | c :: rest =>
    match c.admits a, c.admits b with
    | true, true => order a b c
    | true, false => .lt
    | false, true => .gt
    | false, false => orderByBranch a b rest

end

variable {a b : E} {c : Condition} {rest : List Condition}

theorem orderByBranch_of_both (ha : c.admits a = true) (hb : c.admits b = true) :
    orderByBranch a b (c :: rest) = c.order a b := by
  rw [orderByBranch, ha, hb]

theorem orderByBranch_of_first (ha : c.admits a = true) (hb : c.admits b = false) :
    orderByBranch a b (c :: rest) = .lt := by
  rw [orderByBranch, ha, hb]

theorem orderByBranch_of_neither (ha : c.admits a = false) (hb : c.admits b = false) :
    orderByBranch a b (c :: rest) = orderByBranch a b rest := by
  rw [orderByBranch, ha, hb]

theorem order_swap (c : Condition) (a b : E) : (c.order a b).swap = c.order b a := by
  induction c with
  | ofType name => rfl
  | matchProperty property value => rfl
  | all filters ih =>
    rw [order, order]
    induction filters with
    | nil => rfl
    | cons f rest ihrest =>
      obtain ⟨hf, hrest⟩ := List.forall_mem_cons.mp ih
      rw [orderInTurn, orderInTurn, Ordering.swap_then, hf, ihrest hrest]
  | any filters ih =>
    rw [order, order]
    induction filters with
    | nil => rfl
    | cons f rest ihrest =>
      obtain ⟨hf, hrest⟩ := List.forall_mem_cons.mp ih
      rw [orderByBranch, orderByBranch]
      cases f.admits a <;> cases f.admits b
      · exact ihrest hrest
      · rfl
      · rfl
      · exact hf

/-! ## Selecting is sorting -/

/-- The first filter of an `any` takes what it admits, and the others share the rest. -/
theorem firstPerId_branches (f : Condition) (rest : List Condition) {es : List E}
    (hids : (es.map Entity.id).Nodup) :
    firstPerId Entity.id ((f :: rest).flatMap fun g => g.select es) =
      f.select es ++
        (firstPerId Entity.id (rest.flatMap fun g => g.select es)).filter fun e => !f.admits e := by
  rw [List.flatMap_cons, firstPerId_append, firstPerId_eq_self (nodup_ids_select f hids)]
  congr 1
  refine List.filter_congr ?_
  intro e he
  have hcandidate : e ∈ es :=
    flatMap_select_subset rest es ((firstPerIdFrom_sublist [] _).subset he)
  -- Ids being distinct, the id was met before if the entity was.
  have hmet : Entity.id e ∈ (f.select es).map Entity.id ↔ f.admits e = true := by
    constructor
    · intro hid
      obtain ⟨other, hother, hsame⟩ := List.mem_map.mp hid
      have heq : other = e :=
        List.inj_on_of_nodup_map hids (select_subset f es hother) hcandidate hsame
      exact admits_of_mem_select (heq ▸ hother)
    · intro hadmits
      exact List.mem_map_of_mem (mem_select_of_admits hids hcandidate hadmits)
  rw [Bool.eq_iff_iff, decide_eq_true_eq, hmet, Bool.not_eq_true', Bool.not_eq_true]

/-- What the filters of an `any` select is arranged by branches, if each selection is arranged. -/
theorem isArranged_branches {filters : List Condition} {es : List E}
    (hids : (es.map Entity.id).Nodup)
    (h : ∀ f ∈ filters, IsArranged (f.order · ·) es (f.select es)) :
    IsArranged (orderByBranch · · filters) es
      (firstPerId Entity.id (filters.flatMap fun f => f.select es)) := by
  induction filters with
  | nil => exact List.Pairwise.nil
  | cons f rest ih =>
    obtain ⟨hf, hrest⟩ := List.forall_mem_cons.mp h
    rw [firstPerId_branches f rest hids]
    have hfirst : ∀ e ∈ f.select es, f.admits e = true := fun e => admits_of_mem_select
    have hothers : ∀ e ∈ (firstPerId Entity.id (rest.flatMap fun g => g.select es)).filter
        (fun e => !f.admits e), f.admits e = false := by
      intro e he
      simpa using (List.mem_filter.mp he).2
    refine List.pairwise_append.mpr ⟨?_, ?_, ?_⟩
    · exact hf.congr fun a ha b hb => orderByBranch_of_both (hfirst a ha) (hfirst b hb)
    · refine ((ih hrest).sublist List.filter_sublist).congr ?_
      exact fun a ha b hb => orderByBranch_of_neither (hothers a ha) (hothers b hb)
    · intro a ha b hb
      exact Or.inl (orderByBranch_of_first (hfirst a ha) (hothers b hb))

/-- What is selected stands by the order of the condition, and in ties as among the candidates. -/
theorem isArranged_select (c : Condition) {es : List E} (hids : (es.map Entity.id).Nodup) :
    IsArranged (c.order · ·) es (c.select es) := by
  induction c using induction_inTurn generalizing es with
  | ofType name => exact isArranged_of_sublist (fun _ _ => rfl) List.filter_sublist
  | matchProperty property value =>
    exact isArranged_of_sublist (fun _ _ => rfl) List.filter_sublist
  | all_nil => exact isArranged_of_sublist (fun _ _ => rfl) (List.Sublist.refl es)
  | all_cons f rest hf hrest =>
    -- The other filters are passes over what the first one arranged.
    rw [select_all_cons]
    exact (hf hids).then (hrest (nodup_ids_select f hids))
  | any_nil => exact isArranged_of_sublist (fun _ _ => rfl) (List.Sublist.refl es)
  | any_cons f rest ih =>
    rw [select_any_cons]
    exact isArranged_branches hids fun g hg => ih g hg hids

/-- **Selecting is stable sorting.** Of candidates with distinct ids those that the condition admits
    are selected, in its order and in ties as they stood; no other list is arranged so. -/
theorem eq_select_iff {c : Condition} {es kept : List E} (hids : (es.map Entity.id).Nodup) :
    kept = c.select es ↔
      kept.Perm (es.filter fun e => c.admits e) ∧ IsArranged (c.order · ·) es kept := by
  constructor
  · rintro rfl
    exact ⟨select_perm_filter c hids, isArranged_select c hids⟩
  · rintro ⟨hperm, harranged⟩
    have hdistinct : es.Nodup := List.Nodup.of_map Entity.id hids
    exact IsArranged.unique hdistinct (order_swap c) harranged (isArranged_select c hids)
      (hperm.trans (select_perm_filter c hids).symm)

/-! ## Main result -/

/-- **Selecting twice is selecting once**, the order included. -/
theorem select_select (c : Condition) {es : List E} (hids : (es.map Entity.id).Nodup) :
    c.select (c.select es) = c.select es := by
  have hadmitted : (c.select es).filter (fun e => c.admits e) = c.select es :=
    List.filter_eq_self.mpr fun e he => admits_of_mem_select he
  have harranged : IsArranged (c.order · ·) (c.select es) (c.select es) :=
    (isArranged_select c hids).self
  refine ((eq_select_iff (nodup_ids_select c hids)).mpr ⟨?_, harranged⟩).symm
  rw [hadmitted]

/-- Two passes that both rearrange: directors come first, then films, then the other people, and
    within these groups everybody stays as in the graph. -/
theorem select_select_films :
    let c : Condition :=
      .all [.any [.ofType "Movie", .ofType "Person"], .any [.ofType "Director", .any []]]
    (Sample.films.nodes.map Entity.id).Nodup ∧
      c.select (c.select Sample.films.nodes) = c.select Sample.films.nodes :=
  have hids : (Sample.films.nodes.map Entity.id).Nodup := by decide
  ⟨hids, select_select _ hids⟩

end Condition

end GraphFilter
