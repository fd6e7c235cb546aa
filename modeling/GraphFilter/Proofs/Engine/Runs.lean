import GraphFilter.Engine
import Mathlib.Logic.Basic

/-!
# `GraphFilter.Proofs.Engine.Runs` — runs over a store whose calls are kept

A store lives in a world of its own, which every call may change and which decides what the call
answers. Beside it stand the calls that the store was given. A run of an engine takes such a
situation to the next one.

## Contents
- **Situations.** `Situation`, `Run.exec`, and what checks and calls do to a situation.
- **Rejection.** `Run.Rejects`: the run ends with an error that blames the request.
- **Properties of runs.** `Run.Quiet` runs call nothing, `Run.Blameless` runs reject nothing, and
  `Run.Careful` runs call nothing when they reject. Runs of several steps inherit them.
- **Asking.** `Run.AsksOnce` runs make one call on their way to an answer.
- **Keeping calls.** `Run.Tracks`: a run that keeps calls does what one over the store itself does.
-/

namespace GraphFilter

/-! ## Situations -/

/-- The effects of a store in a world of its own, beside the calls that it was given. -/
abbrev Recorded (σ : Type) := StateT (List StoreCall) (StateM σ)

/-- What a run may change: the lines written, the calls made and the world of the store. -/
structure Situation (σ : Type) where
  journal : Journal := []
  calls : List StoreCall := []
  world : σ

namespace Run

variable {σ α β : Type}

/-- Run from a situation. -/
def exec (run : Run (Recorded σ) α) (s : Situation σ) : Except EngineError α × Situation σ :=
  let (((answer, journal), calls), world) := ((run.run.run s.journal).run s.calls).run s.world
  (answer, { journal, calls, world })

theorem exec_bind (run : Run (Recorded σ) α) (next : α → Run (Recorded σ) β) (s : Situation σ) :
    (run >>= next).exec s = match run.exec s with
      | (.ok a, s') => (next a).exec s'
      | (.error e, s') => (.error e, s') := by
  unfold exec ExceptT.run StateT.run
  simp only [bind, ExceptT.bind, ExceptT.mk, StateT.bind]
  rcases run s.journal s.calls s.world with ⟨⟨⟨answer, journal⟩, calls⟩, world⟩
  cases answer with
  | ok a => rfl
  | error e => rfl

theorem exec_bind_ok {run : Run (Recorded σ) α} {next : α → Run (Recorded σ) β} {a : α}
    {s s' : Situation σ} (h : run.exec s = (.ok a, s')) :
    (run >>= next).exec s = (next a).exec s' := by
  rw [exec_bind, h]

theorem exec_ofCondition (checked : Except Condition.Error α) (s : Situation σ) :
    (ofCondition checked).exec s = (checked.mapError .condition, s) := rfl

/-- A check that is passed may be left out. -/
theorem ofCondition_ok_bind (a : α) (next : α → Run (Recorded σ) β) :
    ofCondition (.ok a) >>= next = next a :=
  pure_bind a next

theorem exec_ofCondition_error_bind (e : Condition.Error) (next : α → Run (Recorded σ) β)
    (s : Situation σ) :
    (ofCondition (.error e) >>= next).exec s = (.error (.condition e), s) := rfl

/-- A call is kept and answered, and leaves the world that it made. -/
theorem exec_ofStore_noting (call : StoreCall) (answer : StateM σ (Except StoreError α))
    (s : Situation σ) :
    (ofStore (call.noting answer)).exec s =
      ((answer.run s.world).1.mapError .store,
        { s with calls := s.calls ++ [call], world := (answer.run s.world).2 }) := rfl

/-! ## Rejection -/

/-- The run ends with an error that blames the request. -/
def Rejects (run : Run (Recorded σ) α) (s : Situation σ) : Prop :=
  ∃ e, (run.exec s).1 = .error e ∧ e.isClientError = true

/-- A run of two steps rejects where the first does, or where the second does after the first. -/
theorem rejects_bind {run : Run (Recorded σ) α} {next : α → Run (Recorded σ) β} {s : Situation σ} :
    (run >>= next).Rejects s ↔
      run.Rejects s ∨ ∃ a, (run.exec s).1 = .ok a ∧ (next a).Rejects (run.exec s).2 := by
  unfold Rejects
  rw [exec_bind]
  rcases run.exec s with ⟨answer | a, s'⟩
  · simp
  · simp

theorem rejects_ofCondition {checked : Except Condition.Error α} {s : Situation σ} :
    (ofCondition checked : Run (Recorded σ) α).Rejects s ↔ ∃ e, checked = .error e := by
  unfold Rejects
  rw [exec_ofCondition]
  cases checked with
  | ok a =>
    constructor
    · rintro ⟨e, he, -⟩
      exact nomatch he
    · rintro ⟨e, he⟩
      exact nomatch he
  | error e => exact iff_of_true ⟨_, rfl, rfl⟩ ⟨e, rfl⟩

/-! ## Properties of runs -/

/-- The run makes no call. -/
def Quiet (run : Run (Recorded σ) α) : Prop :=
  ∀ s, (run.exec s).2.calls = s.calls

/-- The run never blames the request. -/
def Blameless (run : Run (Recorded σ) α) : Prop :=
  ∀ s, ¬ run.Rejects s

/-- The run makes no call when it blames the request. -/
def Careful (run : Run (Recorded σ) α) : Prop :=
  ∀ s, run.Rejects s → (run.exec s).2.calls = s.calls

theorem Quiet.careful {run : Run (Recorded σ) α} (h : run.Quiet) : run.Careful :=
  fun s _ => h s

theorem Blameless.careful {run : Run (Recorded σ) α} (h : run.Blameless) : run.Careful :=
  fun s hrejects => absurd hrejects (h s)

theorem quiet_pure (a : α) : (pure a : Run (Recorded σ) α).Quiet := fun _ => rfl

theorem quiet_note (line : JournalLine) : (note line : Run (Recorded σ) Unit).Quiet := fun _ => rfl

theorem quiet_noteTimes (n : Nat) (line : JournalLine) :
    (noteTimes n line : Run (Recorded σ) Unit).Quiet := fun _ => rfl

theorem quiet_ofCondition (checked : Except Condition.Error α) :
    (ofCondition checked : Run (Recorded σ) α).Quiet := fun _ => rfl

theorem blameless_pure (a : α) : (pure a : Run (Recorded σ) α).Blameless := by
  rintro s ⟨e, he, -⟩
  exact nomatch he

theorem blameless_note (line : JournalLine) : (note line : Run (Recorded σ) Unit).Blameless := by
  rintro s ⟨e, he, -⟩
  exact nomatch he

theorem blameless_noteTimes (n : Nat) (line : JournalLine) :
    (noteTimes n line : Run (Recorded σ) Unit).Blameless := by
  rintro s ⟨e, he, -⟩
  exact nomatch he

/-- Whatever a store does, its errors do not blame the request. -/
theorem blameless_ofStore (call : Recorded σ (Except StoreError α)) :
    (ofStore call : Run (Recorded σ) α).Blameless := by
  rintro s ⟨e, he, hclient⟩
  have hanswer : (ofStore call).exec s =
      ((call.run s.calls |>.run s.world).1.1.mapError .store,
        { s with
          calls := (call.run s.calls |>.run s.world).1.2
          world := (call.run s.calls |>.run s.world).2 }) := rfl
  rw [hanswer] at he
  cases hstore : (call.run s.calls |>.run s.world).1.1 with
  | ok a =>
    rw [hstore] at he
    exact nomatch he
  | error storeError =>
    rw [hstore] at he
    obtain rfl := Except.error.inj he
    exact nomatch hclient

theorem Quiet.bind {run : Run (Recorded σ) α} {next : α → Run (Recorded σ) β} (hrun : run.Quiet)
    (hnext : ∀ a, (next a).Quiet) : (run >>= next).Quiet := by
  intro s
  have hcalls := hrun s
  rw [exec_bind]
  rcases hexec : run.exec s with ⟨answer | a, s'⟩
  · rwa [hexec] at hcalls
  · rw [hexec] at hcalls
    exact (hnext a s').trans hcalls

theorem Blameless.bind {run : Run (Recorded σ) α} {next : α → Run (Recorded σ) β}
    (hrun : run.Blameless) (hnext : ∀ a, (next a).Blameless) : (run >>= next).Blameless := by
  intro s hrejects
  rcases rejects_bind.mp hrejects with hfirst | ⟨a, -, hsecond⟩
  · exact hrun s hfirst
  · exact hnext a _ hsecond

/-- Careful steps may follow quiet ones. -/
theorem Quiet.bind_careful {run : Run (Recorded σ) α} {next : α → Run (Recorded σ) β}
    (hrun : run.Quiet) (hnext : ∀ a, (next a).Careful) : (run >>= next).Careful := by
  intro s hrejects
  have hcalls := hrun s
  rw [rejects_bind] at hrejects
  rw [exec_bind]
  rcases hexec : run.exec s with ⟨answer | a, s'⟩
  · rwa [hexec] at hcalls
  · rw [hexec] at hcalls hrejects
    rcases hrejects with ⟨e, he, -⟩ | ⟨b, hb, hsecond⟩
    · exact nomatch hexec ▸ he
    · obtain rfl := Except.ok.inj hb
      exact (hnext a s' hsecond).trans hcalls

/-- Steps that blame nobody may follow careful ones. -/
theorem Careful.bind_blameless {run : Run (Recorded σ) α} {next : α → Run (Recorded σ) β}
    (hrun : run.Careful) (hnext : ∀ a, (next a).Blameless) : (run >>= next).Careful := by
  intro s hrejects
  rcases rejects_bind.mp hrejects with hfirst | ⟨a, -, hsecond⟩
  · have hcalls := hrun s hfirst
    obtain ⟨e, he, -⟩ := hfirst
    rw [exec_bind]
    rcases hexec : run.exec s with ⟨answer | a, s'⟩
    · rwa [hexec] at hcalls
    · rw [hexec] at he
      exact nomatch he
  · exact absurd hsecond (hnext a _)

/-- Steps that blame nobody change nothing about who is blamed. -/
theorem Blameless.rejects_bind_iff {run : Run (Recorded σ) α} {next : α → Run (Recorded σ) β}
    {s : Situation σ} (hnext : ∀ a, (next a).Blameless) :
    (run >>= next).Rejects s ↔ run.Rejects s := by
  rw [rejects_bind]
  refine or_iff_left ?_
  rintro ⟨a, -, hsecond⟩
  exact hnext a _ hsecond

/-! ## Asking -/

/-- An answer of the run has taken one call. -/
def AsksOnce (run : Run (Recorded σ) α) : Prop :=
  ∀ s a, (run.exec s).1 = .ok a → ∃ call, (run.exec s).2.calls = s.calls ++ [call]

theorem asksOnce_ofStore_noting (call : StoreCall) (answer : StateM σ (Except StoreError α)) :
    (ofStore (call.noting answer) : Run (Recorded σ) α).AsksOnce := fun _ _ _ => ⟨call, rfl⟩

theorem Quiet.bind_asksOnce {run : Run (Recorded σ) α} {next : α → Run (Recorded σ) β}
    (hrun : run.Quiet) (hnext : ∀ a, (next a).AsksOnce) : (run >>= next).AsksOnce := by
  intro s b hanswer
  have hcalls := hrun s
  rw [exec_bind] at hanswer ⊢
  rcases hexec : run.exec s with ⟨answer | a, s'⟩
  · rw [hexec] at hanswer
    exact nomatch hanswer
  · rw [hexec] at hcalls hanswer
    rw [← hcalls]
    exact hnext a s' b hanswer

theorem AsksOnce.bind_quiet {run : Run (Recorded σ) α} {next : α → Run (Recorded σ) β}
    (hrun : run.AsksOnce) (hnext : ∀ a, (next a).Quiet) : (run >>= next).AsksOnce := by
  intro s b hanswer
  have hcalls := hrun s
  rw [exec_bind] at hanswer ⊢
  rcases hexec : run.exec s with ⟨answer | a, s'⟩
  · rw [hexec] at hanswer
    exact nomatch hanswer
  · rw [hexec] at hcalls
    obtain ⟨call, hcall⟩ := hcalls a rfl
    exact ⟨call, (hnext a s').trans hcall⟩

/-- Two careful steps, the first of which asks for its answer: when the run rejects, it made no call
    exactly if it was the first step that rejected. -/
theorem AsksOnce.calls_eq_iff {run : Run (Recorded σ) α} {next : α → Run (Recorded σ) β}
    {s : Situation σ} (hasks : run.AsksOnce) (hrun : run.Careful) (hnext : ∀ a, (next a).Careful)
    (hrejects : (run >>= next).Rejects s) :
    ((run >>= next).exec s).2.calls = s.calls ↔ run.Rejects s := by
  have hcareful := hrun s
  have hcalls := hasks s
  rw [rejects_bind] at hrejects
  rw [exec_bind]
  rcases hexec : run.exec s with ⟨answer | a, s'⟩
  · -- The first step fails, so the second is not made.
    rw [hexec] at hcareful hrejects
    have hfirst : run.Rejects s := hrejects.resolve_right fun ⟨_, h, _⟩ => nomatch h
    exact iff_of_true (hcareful hfirst) hfirst
  · -- The first step answers, so the second rejects after a call.
    rw [hexec] at hcalls hrejects
    have hfirst : ¬ run.Rejects s := fun ⟨_, h, _⟩ => nomatch hexec ▸ h
    obtain ⟨_, hb, hsecond⟩ := hrejects.resolve_left hfirst
    obtain rfl := Except.ok.inj hb
    obtain ⟨call, hcall⟩ := hcalls a rfl
    refine iff_of_false ?_ hfirst
    show ((next a).exec s').2.calls ≠ s.calls
    rw [hnext a s' hsecond, hcall]
    simp

/-! ## Keeping calls -/

/-- The run does what a run over the store itself does, and keeps calls beside that. -/
def Tracks (run : Run (Recorded σ) α) (plain : Run (StateM σ) α) : Prop :=
  ∀ s, (run.exec s).1 = ((plain.run.run s.journal).run s.world).1.1 ∧
    (run.exec s).2.journal = ((plain.run.run s.journal).run s.world).1.2 ∧
    (run.exec s).2.world = ((plain.run.run s.journal).run s.world).2

namespace Tracks

theorem pure (a : α) : Tracks (Pure.pure a : Run (Recorded σ) α) (Pure.pure a) :=
  fun _ => ⟨rfl, rfl, rfl⟩

theorem noteTimes (n : Nat) (line : JournalLine) :
    Tracks (Run.noteTimes n line : Run (Recorded σ) Unit) (Run.noteTimes n line) :=
  fun _ => ⟨rfl, rfl, rfl⟩

theorem note (line : JournalLine) :
    Tracks (Run.note line : Run (Recorded σ) Unit) (Run.note line) :=
  fun _ => ⟨rfl, rfl, rfl⟩

theorem ofCondition (checked : Except Condition.Error α) :
    Tracks (Run.ofCondition checked : Run (Recorded σ) α) (Run.ofCondition checked) :=
  fun _ => ⟨rfl, rfl, rfl⟩

theorem ofStore (call : StoreCall) (answer : StateM σ (Except StoreError α)) :
    Tracks (Run.ofStore (call.noting answer)) (Run.ofStore answer) :=
  fun _ => ⟨rfl, rfl, rfl⟩

theorem bind {run : Run (Recorded σ) α} {plain : Run (StateM σ) α}
    {next : α → Run (Recorded σ) β} {plainNext : α → Run (StateM σ) β}
    (hrun : Tracks run plain) (hnext : ∀ a, Tracks (next a) (plainNext a)) :
    Tracks (run >>= next) (plain >>= plainNext) := by
  intro s
  obtain ⟨hanswer, hjournal, hworld⟩ := hrun s
  rw [exec_bind]
  unfold ExceptT.run StateT.run at *
  simp only [Bind.bind, ExceptT.bind, ExceptT.mk, StateT.bind]
  rcases hexec : run.exec s with ⟨answer, s'⟩
  rcases hplain : plain s.journal s.world with ⟨⟨plainAnswer, journal⟩, world⟩
  rw [hexec, hplain] at hanswer hjournal hworld
  obtain rfl := hanswer
  obtain rfl := hjournal
  obtain rfl := hworld
  cases answer with
  | ok a => exact hnext a s'
  | error e => exact ⟨rfl, rfl, rfl⟩

end Tracks

end Run

end GraphFilter
