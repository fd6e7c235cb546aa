import GraphFilter.Condition.Visitor
import GraphFilter.Proofs.Condition.Tree
import GraphFilter.Proofs.Except

/-!
# `GraphFilter.Proofs.Condition.Folding` — visitors that only have rules for leaves

A visitor that leaves the combinators as they are hands its state from leaf to leaf. The tree above
the leaves orders them and does nothing else: the walk is a fold over the leaves from left to right,
and two conditions with the same leaves cannot be told apart by it. This holds in every lawful
monad; in one with errors the walk ends at the first leaf whose rule fails.

## Contents
- **Leaf rules.** `Visitor.atLeaf`, and `Visitor.LeavesOnly` for visitors without other rules.
- **Walks as folds.** `inSequence_visits` for the filters of a combinator, `visit_eq_foldlM` for the
  whole condition.
- **Errors.** `visit_folds_leaves`.
-/

namespace GraphFilter.Condition

variable {m : Type → Type} [Monad m] {σ : Type}

/-! ## Leaf rules -/

/-- What a visitor does to the state at a leaf. -/
def Visitor.atLeaf (v : Visitor m σ) (state : σ) : Leaf → m σ
  | .ofType name => v.ofType name state
  | .matchProperty property value => v.matchProperty property value state

/-- The visitor has no rules of its own for combinators. -/
structure Visitor.LeavesOnly (v : Visitor m σ) : Prop where
  all_eq : v.all = inSequence
  any_eq : v.any = inSequence

/-! ## Walks as folds -/

section Fold

variable [LawfulMonad m] {v : Visitor m σ}

/-- Walks that fold over the leaves of their filters fold, one behind the other, over all leaves. -/
theorem inSequence_visits {filters : List Condition}
    (ih : ∀ f ∈ filters, ∀ state, f.visit v state = f.leaves.foldlM v.atLeaf state) (state : σ) :
    inSequence (visits v filters) state = (leavesOf filters).foldlM v.atLeaf state := by
  induction filters generalizing state with
  | nil => rfl
  | cons f rest ihrest =>
    obtain ⟨hf, hrest⟩ := List.forall_mem_cons.mp ih
    calc inSequence (visits v (f :: rest)) state
      _ = f.visit v state >>= inSequence (visits v rest) := inSequence_cons _ _ state
      _ = f.leaves.foldlM v.atLeaf state >>= fun reached =>
            (leavesOf rest).foldlM v.atLeaf reached := by
          rw [hf]
          exact bind_congr (ihrest hrest)
      _ = (leavesOf (f :: rest)).foldlM v.atLeaf state := by
          rw [leavesOf, List.foldlM_append]

/-- **A walk is a fold over the leaves.** -/
theorem visit_eq_foldlM (hv : v.LeavesOnly) (c : Condition) (state : σ) :
    c.visit v state = c.leaves.foldlM v.atLeaf state := by
  induction c generalizing state with
  | ofType name => exact (bind_pure _).symm
  | matchProperty property value => exact (bind_pure _).symm
  | all filters ih =>
    rw [visit, hv.all_eq, leaves]
    exact inSequence_visits ih state
  | any filters ih =>
    rw [visit, hv.any_eq, leaves]
    exact inSequence_visits ih state

end Fold

/-! ## Errors -/

/-- **A visitor with leaf rules only folds them over the leaves,** up to the first that fails, and
    with its error; the combinators of a condition leave no other trace. -/
theorem visit_folds_leaves {ε : Type} {v : Visitor (Except ε) σ} (hv : v.LeavesOnly)
    (c : Condition) (start : σ) :
    c.visit v start = c.leaves.foldlM v.atLeaf start ∧
    (∀ e, c.visit v start = .error e ↔
      ∃ before leaf after reached, c.leaves = before ++ leaf :: after ∧
        before.foldlM v.atLeaf start = .ok reached ∧ v.atLeaf reached leaf = .error e) ∧
    ∀ d : Condition, d.leaves = c.leaves → d.visit v start = c.visit v start := by
  have hfold := visit_eq_foldlM hv c start
  refine ⟨hfold, ?_, ?_⟩
  · intro e
    rw [hfold]
    exact foldlM_eq_error_iff
  · intro d hleaves
    rw [hfold, visit_eq_foldlM hv d start, hleaves]

/-- A visitor that may look at so many leaves, and is stopped by the name of the next one. -/
def allowance : Visitor (Except String) Nat where
  ofType name left := if left = 0 then .error name else .ok (left - 1)
  matchProperty property _ left := if left = 0 then .error property else .ok (left - 1)

/-- Three leaves under combinators, some of them empty, and the same leaves side by side. -/
theorem visit_folds_leaves_allowance :
    allowance.LeavesOnly ∧
    (all [ofType "A", any [any [], matchProperty "x" (.int 1), ofType "B"], all []]).visit
      allowance 2 = .error "B" ∧
    (any [ofType "A", matchProperty "x" (.int 1), ofType "B"]).visit allowance 2 =
      (all [ofType "A", any [any [], matchProperty "x" (.int 1), ofType "B"], all []]).visit
        allowance 2 := by
  have hv : allowance.LeavesOnly := ⟨rfl, rfl⟩
  have hfolds := visit_folds_leaves hv
    (all [ofType "A", any [any [], matchProperty "x" (.int 1), ofType "B"], all []]) 2
  refine ⟨hv, ?_, ?_⟩
  · exact (hfolds.2.1 "B").mpr
      ⟨[.ofType "A", .matchProperty "x" (.int 1)], .ofType "B", [], 0, rfl, rfl, rfl⟩
  · exact hfolds.2.2 _ rfl

end GraphFilter.Condition
