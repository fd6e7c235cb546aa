import GraphFilter.Condition.Error
import GraphFilter.Condition.Visitor

/-!
# `GraphFilter.Condition.Validity` — conditions that were built in a program

A condition that comes from a document was checked while it was read. For one that was built by
other means a single rule is left: the name of a type is not empty.
-/

namespace GraphFilter.Condition

/-- Check filters in order, the first of them under the given index. -/
def checkEach (path : Path) (index : Nat) : List (Path → Except Error Path) → Except Error Unit
  | [] => .ok ()
  | check :: rest => do
    let _ ← check (path.child index)
    checkEach path (index + 1) rest

/-- Check the filters of the node at a place and stay there. -/
def checkFilters (checks : List (Path → Except Error Path)) (path : Path) : Except Error Path := do
  checkEach path 0 checks
  return path

/-- The visitor that checks a condition; its state is the place of the node under check. -/
def validator : Visitor (Except Error) Path where
  ofType name path :=
    if name.isEmpty then
      .error (.invalidField path .ofType .type "a non-empty string" .emptyString)
    else .ok path
  all := checkFilters
  any := checkFilters

/-- Check a condition; the error is that of the first defective node. -/
def validate (c : Condition) : Except Error Unit := do
  let _ ← c.visit validator .root
  return ()

end GraphFilter.Condition
