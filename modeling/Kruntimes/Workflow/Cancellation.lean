import Kruntimes.Workflow.Absorption

/-!
# Nothing runs after a cancellation

A WorkflowRun is stored as Cancelled when no child that was loaded goes on.  A child that
the informer does not list yet, or that is hidden by another one for the same step, is not
asked.  When all children are loaded, all that the controller has ever created has ended,
and nothing is created any more.
-/

namespace Kruntimes.Workflow

open Api Data Transition

variable {platform : WorkflowPlatform}

/-- A created child carries the UID of its WorkflowRun. -/
def Event.Owned (uid : String) : Event → Prop
  | .createdRun _ _ run => label run.labels workflowRunUIDLabel = uid
  | .createdWorkflowRun _ _ child =>
    label child.labels workflowRunUIDLabel = uid ∧ child.controller = some uid
  | .failedStep _ _ _ | .failedCall _ _ _ => True

/-- Everything that was created carries the UID. -/
def World.Owned (world : World) : Prop :=
  ∀ event ∈ world.log, event.Owned world.workflowRun.uid

/-- Everything that was created and is still there has ended. -/
structure NothingRuns (world : World) : Prop where
  runs : ∀ target statuses run, .createdRun target statuses run ∈ world.log →
    ∀ child, stored world.runs run.name = some child → child.labels = run.labels →
      child.phase.isTerminal = true
  workflowRuns : ∀ jobName statuses run, .createdWorkflowRun jobName statuses run ∈ world.log →
    ∀ child, stored world.workflowRuns run.name = some child → child.labels = run.labels →
      child.controller = run.controller → child.status.phase.isTerminal = true

namespace World.Owned

variable {world next : World}

theorem of_log_eq (owned : world.Owned) (log : next.log = world.log)
    (uid : next.workflowRun.uid = world.workflowRun.uid) : next.Owned := by
  unfold World.Owned
  rw [log, uid]
  exact owned

section Starting

variable {state : World × WorkflowRunStatus} {resources : Resources} (owned : state.1.Owned)
  (same : state.1.workflowRun = resources.workflowRun)

include owned same

/-- What a target creates carries the UID of the WorkflowRun it is created for. -/
theorem startTarget {definitions : Definitions} {snapshot : Snapshot} (target : Target) :
    (Workflow.startTarget platform definitions resources snapshot state target).1.Owned := by
  cases target with
  | step =>
    rw [Workflow.startTarget]
    split
    · exact List.forall_mem_cons.mpr ⟨trivial, owned⟩
    · exact owned
    rename_i created
    obtain ⟨_, _, _, choice⟩ := chooseStepRun_eq_ok created
    cases choice with
    | create =>
      dsimp only
      unfold World.createRun
      split
      · exact owned
      refine List.forall_mem_cons.mpr ⟨?_, owned⟩
      rw [← same]
      exact label_workflowStepLabels.1
  | workflowCall =>
    rw [Workflow.startTarget]
    split
    · exact List.forall_mem_cons.mpr ⟨trivial, owned⟩
    rename_i built
    rw [← same] at built
    obtain ⟨_, _, rfl⟩ := workflowCallOf_eq_ok built
    dsimp only
    unfold World.createWorkflowRun
    split
    · exact owned
    refine List.forall_mem_cons.mpr ⟨⟨?_, rfl⟩, owned⟩
    unfold label
    rw [AList.lookup_insert]
    rfl

theorem foldl_startTarget {definitions : Definitions} {snapshot : Snapshot}
    (targets : List Target) :
    (targets.foldl (Workflow.startTarget platform definitions resources snapshot)
      state).1.Owned := by
  induction targets generalizing state with
  | nil => exact owned
  | cons target rest ih =>
    exact ih (owned.startTarget same target)
      ((sameOwner_startTarget state target).workflowRun.trans same)

end Starting

theorem reconciled (owned : world.Owned) (outcome : Reconciled platform world next) :
    next.Owned := by
  cases outcome with
  | @started definitions fate snapshot targets frozen planned =>
    have all : (List.foldl (Workflow.startTarget platform definitions world.resources snapshot)
        (world, world.derivedStatus platform) (fate.cut targets)).1.Owned :=
      foldl_startTarget owned rfl _
    cases fate with
    | patched | lost => exact all
  | @cancelled fate loaded planned =>
    obtain ⟨patched, reached, owner, log, outcome⟩ := exists_cancelChildren_eq platform world fate
    rw [outcome]
    exact owned.of_log_eq ((patched.log_commit _ _).trans log) (owner.sameRun.commit reached _).uid
  | _ => exact owned

theorem step {action : Action} (owned : world.Owned)
    (stepped : Workflow.step platform action world = some next) : next.Owned := by
  rcases untouched_of_step stepped with ⟨definitions, fate, _, rfl⟩ | untouched
  · exact owned.reconciled (reconciled_reconcile platform definitions fate world)
  · exact owned.of_log_eq untouched.log untouched.uid

end World.Owned

/-- All versions of the children of a quiet WorkflowRun have ended. -/
theorem Quiet.nothingRuns {world : World} {runs : List ChildRun}
    {childWorkflows : Table String WorkflowRun} (quiet : Quiet platform world runs childWorkflows)
    (owned : world.Owned) : NothingRuns world where
  runs target statuses run created child present labels := by
    have mine : label run.labels workflowRunUIDLabel = world.workflowRun.uid := owned _ created
    rw [← labels] at mine
    exact quiet.ended child (quiet.knownRuns child (mem_versionsOf_of_stored present)
      (beq_iff_eq.mpr mine))
  workflowRuns jobName statuses run created child present labels controller := by
    have mine : label run.labels workflowRunUIDLabel = world.workflowRun.uid ∧
      run.controller = some world.workflowRun.uid := owned _ created
    rw [← labels, ← controller] at mine
    refine quiet.workflowRunsEnded
      (quiet.knownWorkflowRuns child (mem_versionsOf_of_stored present) ?_)
    rw [World.ownsWorkflowRun, mine.1, mine.2, beq_self_eq_true, beq_self_eq_true, Bool.and_true]

/-- From a cancellation on, if the steps of the run allow it, everything that was created
has ended and nothing is created. -/
theorem nothingRuns_of_guarded_run {workflowRun : WorkflowRun} {earlier later : List Action}
    {world final : World}
    (ran : run (restrict (fun action world => action.keepsCancelled platform world = true)
      (step platform)) earlier (World.initial workflowRun) = some world)
    (cancelled : world.workflowRun.status.phase = .cancelled)
    (continued : run (restrict (fun action world => action.keepsCancelled platform world = true)
      (step platform)) later world = some final) :
    NothingRuns final ∧ final.log = world.log := by
  obtain ⟨quiet, kept⟩ := kept_of_guarded_run ran (by rw [cancelled]; rfl) continued
  have owned : final.Owned := by
    have whole := run_of_run_restrict _ _ continued
    refine invariant_of_run (fun owned stepped => owned.step stepped) ?_ whole
    exact invariant_of_run (fun owned stepped => owned.step stepped)
      (fun event member => absurd member List.not_mem_nil) (run_of_run_restrict _ _ ran)
  obtain ⟨_, _, still⟩ := quiet (kept.phase.trans cancelled)
  exact ⟨still.nothingRuns owned, kept.log⟩

theorem nothingRuns_cleanedUp :
    ∃ world final, world.workflowRun.status.phase = .cancelled ∧ world.log ≠ [] ∧
      run (step samplePlatform) cleanedUp world = some final ∧
      NothingRuns final ∧ final.log = world.log := by
  have evaluated : ((run (restrict (fun action world =>
      action.keepsCancelled samplePlatform world = true) (step samplePlatform))
        cancelledBetween (World.initial pipeline)).any fun world =>
      world.workflowRun.status.phase == .cancelled && !world.log.isEmpty &&
        (run (restrict (fun action world => action.keepsCancelled samplePlatform world = true)
          (step samplePlatform)) cleanedUp world).isSome) = true := by decide +kernel
  obtain ⟨world, ran, facts⟩ := (Option.any_eq_true _ _).mp evaluated
  rw [Bool.and_eq_true, Bool.and_eq_true, beq_iff_eq] at facts
  obtain ⟨⟨cancelled, created⟩, continues⟩ := facts
  obtain ⟨final, continued⟩ := Option.isSome_iff_exists.mp continues
  refine ⟨world, final, cancelled, ?_, run_of_run_restrict _ _ continued,
    nothingRuns_of_guarded_run ran cancelled continued⟩
  rintro none
  rw [none] at created
  cases created

/-- The event created a Run that is still going on. -/
def Event.goesOn (world : World) : Event → Bool
  | .createdRun _ _ run => (stored world.runs run.name).any fun child =>
    child.labels == run.labels && !child.phase.isTerminal
  | _ => false

/-- A WorkflowRun is Cancelled while the Run of its first step, which the informer does
not list yet, goes on. -/
theorem exists_running_after_cancellation :
    ∃ world, run (step samplePlatform) cancelledBlindly (World.initial pipeline) = some world ∧
      world.workflowRun.status.phase = .cancelled ∧ ¬ NothingRuns world := by
  refine exists_reached (fun world => world.workflowRun.status.phase = .cancelled ∧
    world.log.any (Event.goesOn world) = true) (by decide +kernel) ?_
  rintro world _ ⟨cancelled, found⟩
  obtain ⟨event, created, active⟩ := List.any_eq_true.mp found
  refine ⟨cancelled, fun ended => ?_⟩
  cases event with
  | createdRun target statuses run =>
    obtain ⟨child, present, running⟩ := (Option.any_eq_true _ _).mp active
    rw [Bool.and_eq_true, beq_iff_eq] at running
    rw [ended.runs target statuses run created child present running.1] at running
    cases running.2
  | _ => cases active

end Kruntimes.Workflow
