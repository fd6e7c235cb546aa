import GraphFilter.Graph.Subgraph
import Mathlib.Data.List.Nodup

/-!
# `GraphFilter.Proofs.Graph.FirstOccurrences` — the first of all items with one id

Picking first occurrences keeps the order and forgets nothing but repetitions. So it can be done part
by part, it does not matter whether it was done to a part before, and it commutes with everything
that treats the items of one id alike.

## Contents
- **What stays.** `firstPerIdFrom_eq_eraseDupsBy` says what stays of a list whatever ids were seen
  before, `mem_map_firstPerId` that no id is lost, `firstPerId_eq_self` that all items stay if no id
  is repeated.
- **Leaving items out.** `IdsDecide`: the items of one id agree on a test. `firstPerIdFrom_filter`
  for such tests, and with it `firstPerIdFrom_eq_filter`: having seen ids is leaving items out.
- **Parts.** `firstPerId_append`: what a later part adds. `firstPerId_firstPerId_append` and
  `firstPerId_append_firstPerId`: parts that were picked from before.
- **Changes of form.** `firstPerId_map`.
-/

namespace GraphFilter

section FirstOccurrences

variable {α : Type} {id : α → EntityId}

/-! ## What stays -/

theorem firstPerIdFrom_cons_of_mem {seen : List EntityId} {item : α} (h : id item ∈ seen)
    (rest : List α) : firstPerIdFrom id seen (item :: rest) = firstPerIdFrom id seen rest := by
  conv => lhs; unfold firstPerIdFrom
  rw [if_pos (by simpa using h)]

theorem firstPerIdFrom_cons_of_not_mem {seen : List EntityId} {item : α} (h : id item ∉ seen)
    (rest : List α) :
    firstPerIdFrom id seen (item :: rest) = item :: firstPerIdFrom id (id item :: seen) rest := by
  conv => lhs; unfold firstPerIdFrom
  rw [if_neg (by simpa using h)]

/-- Whatever was seen before is left out, and of the rest the first of each id stays. -/
theorem firstPerIdFrom_eq_eraseDupsBy (seen : List EntityId) (items : List α) :
    firstPerIdFrom id seen items =
      (items.filter fun item => id item ∉ seen).eraseDupsBy fun a b => id a == id b := by
  induction items generalizing seen with
  | nil => rfl
  | cons item rest ih =>
    by_cases hseen : id item ∈ seen
    · rw [firstPerIdFrom_cons_of_mem hseen, ih, List.filter_cons_of_neg (by simpa using hseen)]
    · rw [firstPerIdFrom_cons_of_not_mem hseen, ih, List.filter_cons_of_pos (by simpa using hseen),
        List.eraseDupsBy_cons, List.filter_filter]
      -- What the item adds to the seen ids is what it erases from the rest.
      congr 3
      funext other
      by_cases hsame : id other = id item
      · simp [hsame]
      · simp [hsame]

theorem firstPerId_eq_eraseDupsBy (items : List α) :
    firstPerId id items = items.eraseDupsBy fun a b => id a == id b := by
  unfold firstPerId
  rw [firstPerIdFrom_eq_eraseDupsBy]
  simp

/-- Only which ids were seen counts, not how often or in which order. -/
theorem firstPerIdFrom_congr {seen seen' : List EntityId} (h : ∀ i, i ∈ seen ↔ i ∈ seen')
    (items : List α) : firstPerIdFrom id seen items = firstPerIdFrom id seen' items := by
  rw [firstPerIdFrom_eq_eraseDupsBy, firstPerIdFrom_eq_eraseDupsBy]
  simp only [h]

/-- No id is lost, and none is made up. -/
theorem mem_map_firstPerId {items : List α} {i : EntityId} :
    i ∈ (firstPerId id items).map id ↔ i ∈ items.map id := by
  constructor
  · intro hkept
    exact ((firstPerIdFrom_sublist [] items).map id).subset hkept
  · intro hmem
    obtain ⟨item, hitem, rfl⟩ := List.mem_map.mp hmem
    have hfound : id item ∈ [] ∨ id item ∈ (firstPerId id items).map id :=
      mem_map_firstPerIdFrom hitem
    exact hfound.resolve_left List.not_mem_nil

/-- Nothing is seen for the first time among ids that were all seen. -/
theorem firstPerIdFrom_eq_nil_iff {seen : List EntityId} {items : List α} :
    firstPerIdFrom id seen items = [] ↔ ∀ item ∈ items, id item ∈ seen := by
  constructor
  · intro hnil item hitem
    have hfound : id item ∈ seen ∨ id item ∈ (firstPerIdFrom id seen items).map id :=
      mem_map_firstPerIdFrom hitem
    rw [hnil] at hfound
    exact hfound.resolve_right List.not_mem_nil
  · intro hall
    rw [List.eq_nil_iff_forall_not_mem]
    intro item hitem
    have hmem : item ∈ items := (firstPerIdFrom_sublist seen items).subset hitem
    exact not_mem_seen_of_mem_firstPerIdFrom hitem (hall item hmem)

/-- A list with distinct ids, none of them seen, stays as it is. -/
theorem firstPerIdFrom_eq_self {seen : List EntityId} {items : List α}
    (hids : (items.map id).Nodup) (hseen : ∀ item ∈ items, id item ∉ seen) :
    firstPerIdFrom id seen items = items := by
  induction items generalizing seen with
  | nil => rfl
  | cons item rest ih =>
    obtain ⟨hitem, hrest⟩ := List.forall_mem_cons.mp hseen
    rw [List.map_cons, List.nodup_cons] at hids
    obtain ⟨hnew, hids⟩ := hids
    rw [firstPerIdFrom_cons_of_not_mem hitem, ih hids]
    intro other hother
    rw [List.mem_cons, not_or]
    refine ⟨?_, hrest other hother⟩
    intro hsame
    exact hnew (hsame ▸ List.mem_map_of_mem hother)

theorem firstPerId_eq_self {items : List α} (hids : (items.map id).Nodup) :
    firstPerId id items = items :=
  firstPerIdFrom_eq_self hids fun _ _ => List.not_mem_nil

theorem firstPerId_firstPerId (items : List α) :
    firstPerId id (firstPerId id items) = firstPerId id items :=
  firstPerId_eq_self (nodup_map_firstPerIdFrom [] items)

/-! ## Leaving items out -/

/-- Items that have one id agree on a test. -/
def IdsDecide (id : α → EntityId) (test : α → Bool) (items : List α) : Prop :=
  ∀ item ∈ items, ∀ other ∈ items, id item = id other → test item = test other

theorem IdsDecide.subset {test : α → Bool} {items items' : List α} (h : IdsDecide id test items')
    (hsub : items ⊆ items') : IdsDecide id test items :=
  fun item hitem other hother => h item (hsub hitem) other (hsub hother)

/-- Distinct ids agree with themselves only. -/
theorem idsDecide_of_nodup {items : List α} (h : (items.map id).Nodup) (test : α → Bool) :
    IdsDecide id test items := by
  intro item hitem other hother hid
  rw [List.inj_on_of_nodup_map h hitem hother hid]

/-- It does not matter whether an id was seen that no item has. -/
theorem firstPerIdFrom_cons_seen {seen : List EntityId} {items : List α} {i : EntityId}
    (h : ∀ item ∈ items, id item ≠ i) :
    firstPerIdFrom id (i :: seen) items = firstPerIdFrom id seen items := by
  rw [firstPerIdFrom_eq_eraseDupsBy, firstPerIdFrom_eq_eraseDupsBy]
  congr 1
  refine List.filter_congr ?_
  intro item hitem
  simp [h item hitem]

/-- Items may be left out before or after, as long as the items of one id stay or go together. -/
theorem firstPerIdFrom_filter {items : List α} {keep : α → Bool} (h : IdsDecide id keep items)
    (seen : List EntityId) :
    firstPerIdFrom id seen (items.filter keep) = (firstPerIdFrom id seen items).filter keep := by
  induction items generalizing seen with
  | nil => rfl
  | cons item rest ih =>
    replace ih := ih (h.subset (List.subset_cons_self item rest))
    by_cases hkeep : keep item = true
    · rw [List.filter_cons_of_pos hkeep]
      by_cases hseen : id item ∈ seen
      · rw [firstPerIdFrom_cons_of_mem hseen, firstPerIdFrom_cons_of_mem hseen, ih]
      · rw [firstPerIdFrom_cons_of_not_mem hseen, firstPerIdFrom_cons_of_not_mem hseen, ih,
          List.filter_cons_of_pos hkeep]
    · rw [List.filter_cons_of_neg hkeep]
      by_cases hseen : id item ∈ seen
      · rw [firstPerIdFrom_cons_of_mem hseen, ih]
      · rw [firstPerIdFrom_cons_of_not_mem hseen, List.filter_cons_of_neg hkeep, ← ih]
        -- The other items with the id of this one go too, so nobody asks whether it was seen.
        refine (firstPerIdFrom_cons_seen fun other hother hsame => hkeep ?_).symm
        obtain ⟨hmem, hkept⟩ := List.mem_filter.mp hother
        rw [← h other (List.mem_cons_of_mem item hmem) item List.mem_cons_self hsame, hkept]

theorem firstPerId_filter {items : List α} {keep : α → Bool} (h : IdsDecide id keep items) :
    firstPerId id (items.filter keep) = (firstPerId id items).filter keep :=
  firstPerIdFrom_filter h []

/-- Whatever was seen before can be left out afterwards. -/
theorem firstPerIdFrom_eq_filter (seen : List EntityId) (items : List α) :
    firstPerIdFrom id seen items = (firstPerId id items).filter fun item => id item ∉ seen := by
  have hseen : IdsDecide id (fun item => id item ∉ seen) items := by
    intro item _ other _ hsame
    show decide (id item ∉ seen) = decide (id other ∉ seen)
    rw [hsame]
  rw [firstPerIdFrom_eq_eraseDupsBy, ← firstPerId_eq_eraseDupsBy, firstPerId_filter hseen]

/-! ## Parts -/

/-- After the first part of a list, what it kept has been seen. -/
theorem firstPerIdFrom_append (seen : List EntityId) (items later : List α) :
    firstPerIdFrom id seen (items ++ later) =
      firstPerIdFrom id seen items ++
        firstPerIdFrom id (seen ++ (firstPerIdFrom id seen items).map id) later := by
  induction items generalizing seen with
  | nil => simp [firstPerIdFrom]
  | cons item rest ih =>
    rw [List.cons_append]
    by_cases hseen : id item ∈ seen
    · rw [firstPerIdFrom_cons_of_mem hseen, firstPerIdFrom_cons_of_mem hseen, ih]
    · rw [firstPerIdFrom_cons_of_not_mem hseen, firstPerIdFrom_cons_of_not_mem hseen, ih,
        List.cons_append]
      congr 2
      -- Both sides have seen the same ids by then, in different orders.
      refine firstPerIdFrom_congr ?_ later
      intro i
      simp only [List.mem_append, List.mem_cons, List.map_cons]
      tauto

/-- A later part adds what it would keep alone, less the ids of the part before. -/
theorem firstPerId_append (items later : List α) :
    firstPerId id (items ++ later) =
      firstPerId id items ++ (firstPerId id later).filter fun item => id item ∉ items.map id := by
  have hseen : ∀ i, i ∈ [] ++ (firstPerId id items).map id ↔ i ∈ items.map id := by
    intro i
    rw [List.nil_append, mem_map_firstPerId]
  rw [← firstPerIdFrom_eq_filter, ← firstPerIdFrom_congr hseen]
  exact firstPerIdFrom_append [] items later

/-- What adds no id adds nothing. -/
theorem firstPerId_append_of_ids {items later : List α}
    (h : ∀ item ∈ later, id item ∈ items.map id) :
    firstPerId id (items ++ later) = firstPerId id items := by
  have hnothing : firstPerIdFrom id (items.map id) later = [] := firstPerIdFrom_eq_nil_iff.mpr h
  rw [firstPerId_append, ← firstPerIdFrom_eq_filter, hnothing, List.append_nil]

/-- The first part may have been picked from before. -/
theorem firstPerId_firstPerId_append (items later : List α) :
    firstPerId id (firstPerId id items ++ later) = firstPerId id (items ++ later) := by
  rw [firstPerId_append, firstPerId_append, firstPerId_firstPerId]
  simp only [mem_map_firstPerId]

/-- The later part may have been picked from before. -/
theorem firstPerId_append_firstPerId (items later : List α) :
    firstPerId id (items ++ firstPerId id later) = firstPerId id (items ++ later) := by
  rw [firstPerId_append, firstPerId_append, firstPerId_firstPerId]

/-- Any part may have been picked from before. -/
theorem firstPerId_append_firstPerId_append (before items after : List α) :
    firstPerId id (before ++ firstPerId id items ++ after) =
      firstPerId id (before ++ items ++ after) := by
  rw [← firstPerId_firstPerId_append, firstPerId_append_firstPerId, firstPerId_firstPerId_append]

end FirstOccurrences

/-! ## Changes of form -/

theorem firstPerIdFrom_map {α β : Type} (id : β → EntityId) (f : α → β) (seen : List EntityId)
    (items : List α) :
    firstPerIdFrom id seen (items.map f) = (firstPerIdFrom (id ∘ f) seen items).map f := by
  induction items generalizing seen with
  | nil => rfl
  | cons item rest ih =>
    simp only [List.map_cons, firstPerIdFrom, Function.comp_apply]
    split
    · exact ih seen
    · rw [List.map_cons, ih]

/-- Repetitions of an id are dropped alike before and after a change of form that keeps ids. -/
theorem firstPerId_map {α β : Type} (id : β → EntityId) (f : α → β) (items : List α) :
    firstPerId id (items.map f) = (firstPerId (id ∘ f) items).map f :=
  firstPerIdFrom_map id f [] items

end GraphFilter
