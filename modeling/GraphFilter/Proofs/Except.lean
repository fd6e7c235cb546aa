import Mathlib.Logic.Basic

/-!
# `GraphFilter.Proofs.Except` — what a run that stops at its first error went through

Most of what may fail here is a sequence of steps in `Except`: reading, checking and compiling a
condition. A run that succeeds is taken apart into its steps by `bind_eq_ok`, `map_eq_ok` and
`pure_eq_ok`. Where only the result counts and not the error, `toOption_bind` and `toOption_map` turn
the steps into steps in `Option`.
-/

namespace GraphFilter

variable {ε α β : Type}

/-- A run of two steps that succeeds has succeeded in both. -/
theorem bind_eq_ok {x : Except ε α} {f : α → Except ε β} {b : β} :
    (x >>= f) = .ok b ↔ ∃ a, x = .ok a ∧ f a = .ok b := by
  constructor
  · intro h
    cases x with
    | error e => exact nomatch h
    | ok a => exact ⟨a, rfl, h⟩
  · rintro ⟨a, rfl, h⟩
    exact h

/-- A run of two steps fails in the first, or in the second after the first. -/
theorem bind_eq_error {x : Except ε α} {f : α → Except ε β} {e : ε} :
    (x >>= f) = .error e ↔ x = .error e ∨ ∃ a, x = .ok a ∧ f a = .error e := by
  cases x with
  | error e' =>
    constructor
    · intro h
      exact Or.inl (congrArg Except.error (Except.error.inj h))
    · rintro (h | ⟨a, h, -⟩)
      · exact congrArg Except.error (Except.error.inj h)
      · exact nomatch h
  | ok a =>
    constructor
    · intro h
      exact Or.inr ⟨a, rfl, h⟩
    · rintro (h | ⟨a', h, hf⟩)
      · exact nomatch h
      · obtain rfl := Except.ok.inj h
        exact hf

theorem map_eq_ok {x : Except ε α} {f : α → β} {b : β} :
    (f <$> x) = .ok b ↔ ∃ a, x = .ok a ∧ f a = b := by
  constructor
  · intro h
    cases x with
    | error e => exact nomatch h
    | ok a => exact ⟨a, rfl, Except.ok.inj h⟩
  · rintro ⟨a, rfl, rfl⟩
    rfl

theorem pure_eq_ok {a b : α} : (pure a : Except ε α) = .ok b ↔ a = b :=
  ⟨Except.ok.inj, congrArg _⟩

/-- Whether two steps succeed, and with what, is whether one does after the other. -/
theorem toOption_bind {x : Except ε α} {f : α → Except ε β} :
    (x >>= f).toOption = x.toOption.bind fun a => (f a).toOption := by
  cases x <;> rfl

theorem toOption_map {x : Except ε α} {f : α → β} : (f <$> x).toOption = x.toOption.map f := by
  cases x <;> rfl

theorem toOption_eq_some {x : Except ε α} {a : α} : x.toOption = some a ↔ x = .ok a := by
  cases x <;> simp [Except.toOption]

/-- A fold fails with the error of the first item that cannot be taken, in the state that the items
    before it lead to. -/
theorem foldlM_eq_error_iff {step : β → α → Except ε β} {items : List α} {start : β} {e : ε} :
    items.foldlM step start = .error e ↔
      ∃ before item after reached, items = before ++ item :: after ∧
        before.foldlM step start = .ok reached ∧ step reached item = .error e := by
  induction items generalizing start with
  | nil =>
    constructor
    · intro h
      exact nomatch h
    · rintro ⟨before, item, after, reached, hitems, -, -⟩
      exact absurd hitems (by simp)
  | cons a rest ih =>
    rw [List.foldlM_cons, bind_eq_error]
    constructor
    · rintro (hfirst | ⟨next, hfirst, hrest⟩)
      · exact ⟨[], a, rest, start, rfl, rfl, hfirst⟩
      · obtain ⟨before, item, after, reached, rfl, hbefore, hitem⟩ := ih.mp hrest
        refine ⟨a :: before, item, after, reached, rfl, ?_, hitem⟩
        rw [List.foldlM_cons, hfirst]
        exact hbefore
    · rintro ⟨before, item, after, reached, hitems, hbefore, hitem⟩
      cases before with
      | nil =>
        obtain ⟨rfl, rfl⟩ := List.cons.inj hitems
        obtain rfl := pure_eq_ok.mp hbefore
        exact Or.inl hitem
      | cons b before =>
        obtain ⟨rfl, rfl⟩ := List.cons.inj hitems
        rw [List.foldlM_cons, bind_eq_ok] at hbefore
        obtain ⟨next, hfirst, hbefore⟩ := hbefore
        exact Or.inr ⟨next, hfirst, ih.mpr ⟨before, item, after, reached, rfl, hbefore, hitem⟩⟩

/-- A run over a list succeeds if it does for every item. -/
theorem mapM_eq_ok {δ : Type} {run : δ → Except ε β} {f : α → δ} {result : α → β} {items : List α}
    (h : ∀ a ∈ items, run (f a) = .ok (result a)) :
    (items.map f).mapM run = .ok (items.map result) := by
  induction items with
  | nil => rfl
  | cons a rest ih =>
    obtain ⟨ha, hrest⟩ := List.forall_mem_cons.mp h
    rw [List.map_cons, List.mapM_cons, ha, ih hrest]
    rfl

/-- A run over a list whose steps convert what others find converts what those find. -/
theorem mapM_map_eq {δ : Type} {run : δ → Except ε α} {run' : δ → Except ε β} {f : α → β}
    (h : ∀ d, run' d = f <$> run d) (items : List δ) :
    items.mapM run' = List.map f <$> items.mapM run := by
  induction items with
  | nil => rfl
  | cons d rest ih =>
    rw [List.mapM_cons, List.mapM_cons, ih, h]
    cases run d with
    | error e => rfl
    | ok a => cases rest.mapM run <;> rfl

end GraphFilter
