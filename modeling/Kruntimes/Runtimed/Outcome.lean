import Kruntimes.Runtimed.Controller

/-!
# How a reconcile ends

What a program of runtimed has done when it ends, whatever the API server, the Runtime
Server and the file system answer.
-/

namespace Kruntimes.Runtimed

open Api Transition

section Rules

variable {history : History}

@[simp]
theorem always_now {post : Time → History → Prop} :
    now.Always post history ↔ ∀ time, post time (⟨.query .clock, time⟩ :: history) :=
  Program.always_ask _

@[simp]
theorem always_updateStatus (run : Run) (thereafter : List Edit)
    {post : Except String Run → History → Prop} :
    (updateStatus run thereafter).Always post history ↔ ∀ answer : Except String Run,
        post answer (⟨.updateStatus run thereafter, answer⟩ :: history) :=
  Program.always_ask _

end Rules

/-! ## Claiming -/

/-- A status update was stored. -/
def StoredStatus (history : History) : Prop :=
  ∃ run thereafter stored,
    (⟨.updateStatus run thereafter, .ok stored⟩ : Exchange runtimed) ∈ history

/-- The reconcile comes back, or it has changed the status. -/
def Advanced (result : Result) (history : History) : Prop :=
  result.returns = true ∨ StoredStatus history

/-- After a stored status it does not matter how a program continues. -/
theorem always_advanced {history : History} (stored : StoredStatus history)
    (program : Process Result) : program.Always Advanced history := by
  apply (Program.always_suffix program history).weaken
  intro result later _ longer
  obtain ⟨run, thereafter, answer, written⟩ := stored
  exact .inr ⟨run, thereafter, answer, longer.subset written⟩

theorem storedStatus_cons (run stored : Run) (thereafter : List Edit) (history : History) :
    StoredStatus (⟨.updateStatus run thereafter, .ok stored⟩ :: history) :=
  ⟨run, thereafter, stored, .head _⟩

theorem always_advanced_applyTerminal (handle : Nat) (run : Run) (phase : RunPhase)
    (reason message : String) (history : History) :
    (applyTerminal handle run phase reason message).Always Advanced history := by
  simp only [applyTerminal, Program.always_bind, always_now, always_updateStatus]
  intro time written
  cases written with
  | error => exact .inl rfl
  | ok => exact always_advanced (storedStatus_cons _ _ _ _) _

/-- Claiming ends with a stored status, a requeue or an error. -/
theorem always_advanced_claimRun (controller : Controller) (run : Run) (history : History) :
    (claimRun controller run).Always Advanced history := by
  apply Program.always_bind_of_suffix
  intro handle built _
  apply Program.always_bind_of_suffix
  intro claimed looked _
  cases claimed with
  | false => exact .inl rfl
  | true =>
    apply Program.always_bind_of_suffix
    intro startedAt read _
    apply Program.always_bind_of_suffix
    intro _ timed _
    simp only [Program.always_bind, always_updateStatus]
    intro written
    cases written with
    | error =>
      apply Program.always_bind_of_suffix
      intro _ _ _
      exact .inl rfl
    | ok => exact always_advanced (storedStatus_cons _ _ _ _) _

/-- A Scheduled Run without an entry is claimed or ended, or the reconcile comes back. -/
theorem always_advanced_reconcileUnclaimed (controller : Controller) (run : Run)
    (history : History) : (reconcileUnclaimed controller run).Always Advanced history := by
  unfold reconcileUnclaimed
  split
  · apply Program.always_bind_of_suffix
    intro handle built _
    exact always_advanced_applyTerminal _ _ _ _ _ _
  · apply Program.always_bind_of_suffix
    intro healthy checked _
    match healthy with
    | false => exact .inl rfl
    | true =>
      apply Program.always_bind_of_suffix
      intro finalized marked _
      cases finalized with
      | error => exact .inl rfl
      | ok => exact always_advanced_claimRun _ _ _

end Kruntimes.Runtimed
