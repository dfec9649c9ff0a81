import Mathlib.Data.List.Basic

/-!
# Runs of action-indexed partial transitions

A component is described by a partial step: an action either is not enabled in
a state, or leads to exactly one next state.  Every nondeterministic choice of
the environment (which message arrives, what a remote call answers, what the
clock shows) is part of the action, so a finite list of actions determines a
run.

Safety statements come in two shapes.  An invariant holds in every state that
some run reaches.  A guarded invariant holds in every state reached by a run
all of whose steps satisfy a side condition; the side condition is expressed by
restricting the step, so both shapes use the same induction.
-/

namespace Kruntimes.Transition

universe u v

variable {α : Type u} {σ : Type v} {actions : List α} {source target : σ}

/-- An action-indexed partial transition.  `none` means that the action is not
enabled. -/
abbrev Step (α : Type u) (σ : Type v) := α → σ → Option σ

/-- Perform a list of actions from left to right.  A disabled action makes the
whole run undefined. -/
def run (step : Step α σ) : List α → σ → Option σ
  | [], state => some state
  | action :: actions, state => (step action state).bind (run step actions)

@[simp]
theorem run_nil (step : Step α σ) (state : σ) : run step [] state = some state := rfl

theorem run_cons_eq_some_iff (step : Step α σ) (action : α) (actions : List α) (source target : σ) :
    run step (action :: actions) source = some target ↔ ∃ middle, step action source = some middle ∧
        run step actions middle = some target := by
  simp only [run]
  exact Option.bind_eq_some_iff

/-- The state in which an evaluated run ends, with what is found there. -/
theorem exists_reached {reached : Option σ} {P : σ → Prop} (Q : σ → Prop) [DecidablePred Q]
    (evaluated : reached.any (fun state => decide (Q state)) = true)
    (holds : ∀ state, reached = some state → Q state → P state) :
    ∃ state, reached = some state ∧ P state := by
  obtain ⟨state, ran, found⟩ := (Option.any_eq_true _ _).mp evaluated
  exact ⟨state, ran, holds state ran (of_decide_eq_true found)⟩

theorem exists_reached_and {reached : Option σ} {P Q : σ → Prop} [DecidablePred Q]
    (evaluated : reached.any (fun state => decide (Q state)) = true)
    (holds : ∀ state, reached = some state → Q state → P state) :
    ∃ state, reached = some state ∧ Q state ∧ P state :=
  exists_reached Q evaluated fun state ran found => ⟨found, holds state ran found⟩

/-- A run over a concatenation is a run over the first part followed by a run
over the second. -/
theorem run_append (step : Step α σ) (first second : List α) (state : σ) :
    run step (first ++ second) state = (run step first state).bind (run step second) := by
  induction first generalizing state with
  | nil => simp
  | cons action actions ih =>
    simp only [List.cons_append, run]
    cases step action state with
    | none => rfl
    | some next => simpa using ih next

/-- A property preserved by every enabled step is preserved by every run. -/
theorem invariant_of_run {step : Step α σ} {Inv : σ → Prop}
    (preserved : ∀ {action source target}, Inv source →
      step action source = some target → Inv target) (initial : Inv source)
    (ran : run step actions source = some target) : Inv target := by
  induction actions generalizing source with
  | nil =>
    simp only [run_nil, Option.some.injEq] at ran
    exact ran ▸ initial
  | cons action actions ih =>
    obtain ⟨_, first, rest⟩ := (run_cons_eq_some_iff _ _ _ _ _).mp ran
    exact ih (preserved initial first) rest

/-- A run of actions that each decrease a measure is no longer than the measure. -/
theorem length_add_le_of_run {step : Step α σ} {measure : σ → Nat}
    (decreases : ∀ action ∈ actions, ∀ {source target},
      step action source = some target → measure target < measure source)
    (ran : run step actions source = some target) :
    actions.length + measure target ≤ measure source := by
  induction actions generalizing source with
  | nil =>
    simp only [run_nil, Option.some.injEq] at ran
    subst ran
    simp
  | cons action actions ih =>
    obtain ⟨_, first, rest⟩ := (run_cons_eq_some_iff _ _ _ _ _).mp ran
    have shorter := decreases action (.head _) first
    have tail := ih (fun other mem => decreases other (.tail _ mem)) rest
    rw [List.length_cons]
    omega

/-! ## Guarded runs -/

/-- Disable every action that does not satisfy `guard` in the state where it is
attempted. -/
def restrict (guard : α → σ → Prop) [∀ action state, Decidable (guard action state)]
    (step : Step α σ) : Step α σ :=
  fun action state => if guard action state then step action state else none

section Restrict

variable (guard : α → σ → Prop) [∀ action state, Decidable (guard action state)]
  (step : Step α σ)

theorem restrict_eq_some_iff (action : α) (source target : σ) :
    restrict guard step action source = some target ↔
      guard action source ∧ step action source = some target := by
  unfold restrict
  split <;> simp_all

/-- A guarded run is in particular a run. -/
theorem run_of_run_restrict (ran : run (restrict guard step) actions source = some target) :
    run step actions source = some target := by
  induction actions generalizing source with
  | nil => simpa using ran
  | cons action actions ih =>
    obtain ⟨middle, first, rest⟩ := (run_cons_eq_some_iff _ _ _ _ _).mp ran
    have enabled := ((restrict_eq_some_iff guard step _ _ _).mp first).2
    exact (run_cons_eq_some_iff _ _ _ _ _).mpr ⟨middle, enabled, ih rest⟩

/-- The invariant rule for guarded runs: only steps that satisfy the guard have
to preserve the property. -/
theorem invariant_of_guarded_run (Inv : σ → Prop)
    (preserved : ∀ {action source target}, guard action source → Inv source →
      step action source = some target → Inv target) (initial : Inv source)
    (ran : run (restrict guard step) actions source = some target) : Inv target := by
  refine invariant_of_run ?_ initial ran
  intro action middle next inv stepped
  obtain ⟨allowed, enabled⟩ := (restrict_eq_some_iff guard step _ _ _).mp stepped
  exact preserved allowed inv enabled

end Restrict

end Kruntimes.Transition
