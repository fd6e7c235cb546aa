import GraphFilter.Condition.Basic

/-!
# `GraphFilter.Condition.Visitor` — walks over a condition that carry a state

A visitor says what each rule does to a state. Left to themselves, leaves pass the state on, and
combinators hand it to their filters one after the other, so a visitor that only has leaf rules
folds them over the leaves from left to right. Whether the combinators mean conjunction or
disjunction is up to the visitor that overrides them.
-/

namespace GraphFilter.Condition

variable {m : Type → Type} [Monad m] {σ : Type}

/-- Hand the state from one step to the next. -/
def inSequence (steps : List (σ → m σ)) (state : σ) : m σ :=
  steps.foldlM (fun s step => step s) state

/-- The first step hands its state to the others. -/
theorem inSequence_cons (step : σ → m σ) (rest : List (σ → m σ)) (state : σ) :
    inSequence (step :: rest) state = step state >>= inSequence rest :=
  List.foldlM_cons

/-- What each rule does to a state; a combinator is given the walks of its filters. -/
structure Visitor (m : Type → Type) [Monad m] (σ : Type) where
  ofType : String → σ → m σ := fun _ s => pure s
  matchProperty : String → Value → σ → m σ := fun _ _ s => pure s
  all : List (σ → m σ) → σ → m σ := inSequence
  any : List (σ → m σ) → σ → m σ := inSequence

mutual

/-- Walk a condition with a visitor. -/
def visit (v : Visitor m σ) : Condition → σ → m σ
  | .ofType name => v.ofType name
  | .matchProperty property value => v.matchProperty property value
  | .all filters => v.all (visits v filters)
  | .any filters => v.any (visits v filters)

/-- The walks of several conditions. -/
def visits (v : Visitor m σ) : List Condition → List (σ → m σ)
  | [] => []
  | c :: rest => visit v c :: visits v rest

end

theorem visits_eq_map (v : Visitor m σ) (filters : List Condition) :
    visits v filters = filters.map (visit v) := by
  induction filters with
  | nil => rfl
  | cons c rest ih => simp [visits, ih]

end GraphFilter.Condition
