import GraphFilter.Condition.Path
import GraphFilter.Proofs.Text.Words
import Mathlib.Data.List.Basic

/-!
# `GraphFilter.Proofs.Condition.Places` — the text of a place tells the place

Messages name a place by a flat text, in which the indexes are written side by side in decimal and
without padding. No two places share a text all the same: a bracket ends every index, so one step is
told from the steps that follow it, and the text can be taken apart from its start.

## Contents
- **Following indexes.** `Path.follow`, and `Path.indexes_follow`.
- **Characters.** `Path.stepChars` of one step, `Path.toList_text` of a whole text.
- **Reading.** `Path.step_cancel` for one step, `Path.steps_injective` for all, and
  `Path.text_injective`.
- **One text, one place.** `Path.text_follow_eq_iff`.
-/

namespace GraphFilter.Condition.Path

/-! ## Following indexes -/

/-- The place that is reached by going from one filter to the next. -/
def follow (p : Path) (indexes : List Nat) : Path :=
  indexes.foldl child p

theorem indexes_follow (p : Path) (indexes : List Nat) :
    (p.follow indexes).indexes = p.indexes ++ indexes := by
  induction indexes generalizing p with
  | nil => rw [List.append_nil]; rfl
  | cons index rest ih =>
    show ((p.child index).follow rest).indexes = _
    rw [ih, child, List.append_assoc, List.singleton_append]

/-! ## Characters -/

/-- The characters of one step. -/
def stepChars (index : Nat) : List Char :=
  ".filters[".toList ++ (Nat.toDigits 10 index ++ [']'])

theorem toList_stepText (index : Nat) : (stepText index).toList = stepChars index := by
  show (".filters[" ++ index.repr ++ "]").toList = _
  rw [String.toList_append, String.toList_append, Nat.toList_repr, List.append_assoc]
  rfl

theorem toList_text (p : Path) : p.text.toList = '$' :: p.indexes.flatMap stepChars := by
  have hsteps : (p.indexes.map stepText).flatMap String.toList = p.indexes.flatMap stepChars := by
    rw [List.flatMap_map]
    exact List.flatMap_congr fun index _ => toList_stepText index
  rw [text, String.toList_append, String.toList_join, hsteps]
  rfl

/-! ## Reading -/

/-- A step is told from what follows it. -/
theorem step_cancel {index other : Nat} {r s : List Char}
    (h : stepChars index ++ r = stepChars other ++ s) : index = other ∧ r = s := by
  unfold stepChars at h
  rw [List.append_assoc, List.append_assoc, List.append_assoc, List.append_assoc] at h
  -- Behind its number every step has a bracket, which no number goes on with.
  have hstops : ∀ rest, Text.Stops ([']'] ++ rest) := fun rest => Text.stops_cons rfl rest
  obtain ⟨hnumber, hrest⟩ :=
    Text.number_cancel (hstops r) (hstops s) (List.append_cancel_left h)
  exact ⟨hnumber, List.append_cancel_left hrest⟩

/-- No step is empty. -/
theorem stepChars_append_ne_nil (index : Nat) (rest : List Char) :
    stepChars index ++ rest ≠ [] := by
  have hword : ".filters[".toList ≠ [] := by decide
  exact List.append_ne_nil_of_left_ne_nil (List.append_ne_nil_of_left_ne_nil hword _) rest

theorem steps_injective : Function.Injective (List.flatMap stepChars) := by
  intro indexes
  induction indexes with
  | nil =>
    intro others h
    cases others with
    | nil => rfl
    | cons other rest => exact absurd h.symm (stepChars_append_ne_nil other _)
  | cons index rest ih =>
    intro others h
    cases others with
    | nil => exact absurd h (stepChars_append_ne_nil index _)
    | cons other more =>
      rw [List.flatMap_cons, List.flatMap_cons] at h
      obtain ⟨rfl, hrest⟩ := step_cancel h
      rw [ih hrest]

theorem text_injective : Function.Injective text := by
  rintro ⟨indexes⟩ ⟨others⟩ h
  have hchars := congrArg String.toList h
  rw [toList_text, toList_text] at hchars
  exact congrArg Path.mk (steps_injective (List.cons.inj hchars).2)

/-! ## One text, one place -/

/-- **A text names one place.** The places that two sequences of indexes lead to have the same text
    only if the sequences are the same; only the empty one stays at the root, whose text is `$`. -/
theorem text_follow_eq_iff (indexes others : List Nat) :
    ((root.follow indexes).text = (root.follow others).text ↔ indexes = others) ∧
    ((root.follow indexes).isRoot = true ↔ indexes = []) ∧
    ((root.follow indexes).isRoot = true ↔ (root.follow indexes).text = "$") := by
  have hindexes : ∀ steps : List Nat, root.follow steps = ⟨steps⟩ := by
    intro steps
    exact congrArg Path.mk (indexes_follow root steps)
  rw [hindexes, hindexes]
  refine ⟨?_, isRoot_iff, ?_⟩
  · rw [text_injective.eq_iff, Path.mk.injEq]
  · have hroot : root.text = "$" := rfl
    rw [isRoot_iff, ← hroot, text_injective.eq_iff, root, Path.mk.injEq]

end GraphFilter.Condition.Path
