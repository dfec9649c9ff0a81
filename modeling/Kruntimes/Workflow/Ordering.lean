import Kruntimes.Workflow.Changes

/-!
# Ordering of children

Children are created in the order that needs and steps prescribe, and no logical
step gets a second Run, whatever the informer shows, whatever patches are lost and
wherever reconciles end.

The guards are evaluated on a derived status.  `Sound` says what every status has
that a reconcile starts from: it still has the outline of the snapshot, and the
needs of a running job have succeeded.  A success is never taken back, so the
second part survives the passes and the start of other jobs.
-/

namespace Kruntimes.Workflow

open Api Data Transition

variable {action : Action} {definitions : Definitions} {after before jobs statuses : JobStatuses}
  {jobName : String} {target : Target}

/-! ## Sound job statuses -/

/-- What identifies a step and its inner steps in the snapshot. -/
def StepSpec.frame (actions : Table String ActionSnapshot) (jobName : String)
    (spec : StepSpec) : String × List String :=
  (spec.name, if spec.uses = "" then []
    else (actions.lookup (workflowActionSnapshotKey jobName spec.name)).elim [] fun action =>
      action.spec.steps.map StepSpec.name)

/-- Some job has succeeded. -/
def HasSucceeded (jobs : JobStatuses) (jobName : String) : Prop :=
  ∃ job, jobs.lookup jobName = some job ∧ job.phase = .succeeded

/-- Job statuses as a snapshot and earlier reconciles can have left them. -/
structure Sound (snapshot : Snapshot) (jobs : JobStatuses) : Prop where
  outlined : ∀ {jobName : String} {job : JobStatus}, jobs.lookup jobName = some job →
    ∃ spec, snapshot.jobs.lookup jobName = some spec ∧ job.pre = spec.needs.insertionSort (· ≤ ·) ∧
      job.steps.map StepStatus.frame = spec.steps.map (StepSpec.frame snapshot.actions jobName)
  complete : ∀ {jobName : String}, jobName ∈ snapshot.jobs → jobName ∈ jobs
  needsDone : ∀ {jobName : String} {job : JobStatus}, jobs.lookup jobName = some job →
    job.phase = .running → ∀ pre ∈ job.pre, HasSucceeded jobs pre

variable {platform : WorkflowPlatform} {resources : Resources} {snapshot : Snapshot}

/-- A success survives a pass. -/
theorem HasSucceeded.pass (pass : Pass platform resources before after)
    (done : HasSucceeded before jobName) : HasSucceeded after jobName := by
  obtain ⟨_, found, succeeded⟩ := done
  obtain ⟨next, present, rfl | change⟩ := pass.forward found
  · exact ⟨next, present, succeeded⟩
  · have kept := change.of_isTerminal (by rw [succeeded]; rfl)
    exact ⟨next, present, kept.1.trans succeeded⟩

namespace Sound

/-- A pass keeps job statuses sound. -/
theorem pass (sound : Sound snapshot before) (pass : Pass platform resources before after) :
    Sound snapshot after where
  outlined := by
    intro jobName next found
    obtain ⟨_, stored, rfl | change⟩ := pass.change found
    · exact sound.outlined stored
    obtain ⟨spec, specified, pre, steps⟩ := sound.outlined stored
    have frame := change.frame
    unfold JobStatus.frame at frame
    rw [Prod.mk.injEq, Prod.mk.injEq] at frame
    exact ⟨spec, specified, frame.1.trans pre, frame.2.2.trans steps⟩
  complete := by
    intro jobName mem
    rw [AList.mem_keys, pass.keys, ← AList.mem_keys]
    exact sound.complete mem
  needsDone := by
    intro jobName next found running pre mem
    obtain ⟨_, stored, rfl | change⟩ := pass.change found
    · exact (sound.needsDone stored running pre mem).pass pass
    have frame := change.frame
    unfold JobStatus.frame at frame
    rw [Prod.mk.injEq] at frame
    rw [frame.1] at mem
    exact (sound.needsDone stored (change.eq_running running) pre mem).pass pass

theorem passes (sound : Sound snapshot before)
    (passes : Relation.ReflTransGen (Pass platform resources) before after) :
    Sound snapshot after := by
  induction passes with
  | refl => exact sound
  | tail _ last ih => exact ih.pass last

/-- The needs of a runnable target have succeeded. -/
theorem hasSucceeded_of_runnable (sound : Sound snapshot jobs)
    (runnable : Runnable snapshot jobs target) {job : JobStatus}
    (found : jobs.lookup target.jobName = some job) {pre : String} (mem : pre ∈ job.pre) :
    HasSucceeded jobs pre := by
  obtain ⟨_, stored, running | ready⟩ := runnable.job
  · cases found.symm.trans stored
    exact sound.needsDone found running pre mem
  cases found.symm.trans stored
  obtain ⟨need, present, succeeded⟩ := (Option.any_eq_true _ _).mp
    (List.all_eq_true.mp ((Bool.and_eq_true _ _).mp ready).2 pre mem)
  exact ⟨need, present, beq_iff_eq.mp succeeded⟩

/-- Starting a runnable target keeps job statuses sound. -/
theorem modify (sound : Sound snapshot jobs) (runnable : Runnable snapshot jobs target)
    {f : JobStatus → JobStatus} (started : ∀ job, Started job (f job)) :
    Sound snapshot (jobs.modify target.jobName f) where
  outlined := by
    intro jobName next found
    by_cases same : jobName = target.jobName
    · subst same
      rw [Table.lookup_modify_self] at found
      obtain ⟨job, stored, rfl⟩ := Option.map_eq_some_iff.mp found
      obtain ⟨spec, specified, pre, steps⟩ := sound.outlined stored
      exact ⟨spec, specified, (started job).pre.trans pre, (started job).steps.trans steps⟩
    · rw [Table.lookup_modify_ne same] at found
      exact sound.outlined found
  complete := by
    intro jobName mem
    rw [AList.mem_keys, Table.keys_modify, ← AList.mem_keys]
    exact sound.complete mem
  needsDone := by
    -- the job of the target has not succeeded, so no success is lost
    have kept : ∀ {pre}, HasSucceeded jobs pre →
        HasSucceeded (jobs.modify target.jobName f) pre := by
      rintro pre ⟨job, found, succeeded⟩
      have apart : pre ≠ target.jobName := by
        rintro rfl
        have unfinished := runnable.isTerminal found
        rw [succeeded] at unfinished
        cases unfinished
      exact ⟨job, by rw [Table.lookup_modify_ne apart, found], succeeded⟩
    intro jobName next found running pre mem
    by_cases same : jobName = target.jobName
    · subst same
      rw [Table.lookup_modify_self] at found
      obtain ⟨job, stored, rfl⟩ := Option.map_eq_some_iff.mp found
      rw [(started job).pre] at mem
      exact kept (sound.hasSucceeded_of_runnable runnable stored mem)
    · rw [Table.lookup_modify_ne same] at found
      exact kept (sound.needsDone found running pre mem)

/-- The first status is sound. -/
theorem initial (snapshot : Snapshot) :
    Sound snapshot (initializeActionStepStatuses (resolvedJobStatuses snapshot.jobs)
      snapshot.jobs snapshot.actions) where
  outlined := by
    intro jobName job found
    rw [lookup_initialStatuses] at found
    obtain ⟨spec, specified, rfl⟩ := Option.map_eq_some_iff.mp found
    refine ⟨spec, specified, rfl, ?_⟩
    rw [List.map_map]
    apply List.map_congr_left
    intro step _
    simp only [Function.comp_apply, initialActionSteps, StepSpec.frame]
    split
    · rfl
    split
    · rename_i missing; rw [missing]; rfl
    rename_i present
    rw [present]
    simp [StepStatus.frame]
  complete := by
    intro jobName mem
    rw [← AList.lookup_isSome, lookup_initialStatuses, Option.isSome_map, AList.lookup_isSome]
    exact mem
  needsDone := by
    intro jobName job found running
    rw [lookup_initialStatuses] at found
    obtain ⟨_, _, rfl⟩ := Option.map_eq_some_iff.mp found
    dsimp only at running
    split at running <;> cases running

end Sound

/-! ## Sound worlds -/

/-- The snapshot was accepted, and the stored job statuses are sound for it. -/
structure World.Sound (world : World) : Prop where
  accepted : ∀ {snapshot : Snapshot}, world.snapshot = some snapshot →
    ∃ find, acceptSnapshot find world.workflowRun.jobs = .ok snapshot
  sound : ∀ {jobs : JobStatuses}, world.workflowRun.status.jobs = some jobs →
    ∃ snapshot, world.snapshot = some snapshot ∧ Workflow.Sound snapshot jobs

theorem WorkflowRunStatus.jobTable_eq {status : WorkflowRunStatus}
    (present : status.jobs = some jobs) : status.jobTable = jobs := by
  rw [jobTable, present]
  rfl

namespace World.Sound

variable {world next : World}

/-- The job statuses that a reconcile derives are sound. -/
theorem derived (sound : world.Sound) (present : (world.derivedStatus platform).jobs = some jobs) :
    ∃ snapshot, world.snapshot = some snapshot ∧ Workflow.Sound snapshot jobs := by
  cases stored : world.workflowRun.status.jobs with
  | none =>
    rw [World.jobs_derivedStatus_eq_none_iff.mpr stored] at present
    cases present
  | some =>
    obtain ⟨snapshot, frozen, good⟩ := sound.sound stored
    refine ⟨snapshot, frozen, ?_⟩
    have passes := world.pass_derivedStatus platform
    rw [WorkflowRunStatus.jobTable_eq present, WorkflowRunStatus.jobTable_eq stored] at passes
    exact good.passes passes

/-- The rule for the loop over the targets of a plan: every target is handled in a
sound status in which it is runnable. -/
theorem loop (sound : world.Sound) {fate : Fate} {snapshot : Snapshot} {targets : List Target}
    (frozen : world.snapshot = some snapshot)
    (planned : world.plan platform = .startRunnableTargets targets)
    (Inv : World × WorkflowRunStatus → Prop) (each : ∀ state target, SameOwner world state.1 →
      Workflow.Sound snapshot state.2.jobTable → Runnable snapshot state.2.jobTable target →
      Inv state → Inv (startTarget platform definitions world.resources snapshot state target))
    (initial : Inv (world, world.derivedStatus platform)) :
    Workflow.Sound snapshot ((fate.cut targets).foldl
        (startTarget platform definitions world.resources snapshot)
        (world, world.derivedStatus platform)).2.jobTable ∧
      Inv ((fate.cut targets).foldl (startTarget platform definitions world.resources snapshot)
        (world, world.derivedStatus platform)) := by
  obtain ⟨_, _, _, present⟩ := World.jobs_of_startRunnableTargets planned
  obtain ⟨_, same, good⟩ := sound.derived present
  cases frozen.symm.trans same
  obtain ⟨apart, runnable⟩ := World.cut_targets frozen planned fate
  refine (Workflow.foldl_startTarget (fun state => SameOwner world state.1 ∧
    Workflow.Sound snapshot state.2.jobTable ∧ Inv state) ?_ apart runnable
    ⟨⟨rfl, rfl⟩, WorkflowRunStatus.jobTable_eq present ▸ good, initial⟩).2
  rintro state target ⟨owner, kept, inv⟩ ready
  refine ⟨owner.trans (sameOwner_startTarget state target), ?_,
    each state target owner kept ready inv⟩
  obtain ⟨f, changed, started⟩ : ∃ f, (startTarget platform definitions world.resources
      snapshot state target).2.jobTable = state.2.jobTable.modify target.jobName f ∧
        ∀ job, Started job (f job) := exists_modify_startTarget state target
  rw [changed]
  exact kept.modify ready started

/-- Every outcome of a reconcile is sound. -/
theorem reconciled (sound : world.Sound) (outcome : Reconciled platform world next) :
    next.Sound := by
  have kept : ∀ {other} fate {status}, SameOwner world other →
      (∀ {jobs}, status.jobs = some jobs →
        ∃ snapshot, world.snapshot = some snapshot ∧ Workflow.Sound snapshot jobs) →
      (other.commit fate status).Sound := by
    intro other fate status same good
    constructor
    · intro snapshot frozen
      rw [(same.sameRun.commit fate status).jobs]
      rw [World.snapshot_commit, same.snapshot] at frozen
      exact sound.accepted frozen
    · intro jobs present
      rw [World.snapshot_commit, same.snapshot]
      cases fate with
      | patched => exact good present
      | lost => exact sound.sound (same.workflowRun ▸ present)
  cases outcome with
  | unchanged => exact sound
  | derived | rejected => exact kept .patched ⟨rfl, rfl⟩ sound.derived
  | @frozen find snapshot fresh uninitialized accepted =>
    constructor
    · intro other same
      cases same
      exact ⟨find, accepted⟩
    · intro jobs present
      cases uninitialized.symm.trans present
  | @initialized snapshot accepted planned =>
    constructor
    · intro other same
      cases same
      rcases accepted with frozen | ⟨_, origin⟩
      · exact sound.accepted frozen
      · exact origin
    · intro jobs present
      cases present
      exact ⟨snapshot, rfl, Workflow.Sound.initial snapshot⟩
  | @started definitions fate snapshot targets frozen planned =>
    apply kept fate (sameOwner_foldl_startTarget (fate.cut targets)
      (world, world.derivedStatus platform))
    intro jobs present
    refine ⟨snapshot, frozen, ?_⟩
    rw [← WorkflowRunStatus.jobTable_eq present]
    exact (sound.loop frozen planned (fun _ => True) (fun _ _ _ _ _ _ => trivial) trivial).1
  | @cancelled fate loaded planned =>
    obtain ⟨_, reached, same, _, outcome⟩ := exists_cancelChildren_eq platform world fate
    rw [outcome]
    exact kept reached same sound.derived

/-- Every action keeps a sound world sound. -/
theorem step (sound : world.Sound) (stepped : Workflow.step platform action world = some next) :
    next.Sound := by
  rcases untouched_of_step stepped with ⟨definitions, fate, _, rfl⟩ | untouched
  · exact sound.reconciled (reconciled_reconcile platform definitions fate world)
  constructor
  · intro snapshot frozen
    rw [untouched.jobs]
    exact sound.accepted (untouched.snapshot.symm.trans frozen)
  · intro jobs present
    rw [untouched.snapshot]
    exact sound.sound (untouched.status ▸ present)

theorem initial (workflowRun : WorkflowRun) : (World.initial workflowRun).Sound where
  accepted := by intro snapshot frozen; cases frozen
  sound := by intro jobs present; cases present

end World.Sound

/-! ## Logical steps -/

/-- The names of the step and the inner step that a target stands for. -/
def Snapshot.stepNames (snapshot : Snapshot) (target : StepTarget) : Option (String × String) :=
  (snapshot.jobs.lookup target.jobName).bind fun job =>
    (job.steps[target.stepIndex]?).bind fun caller =>
      if target.actionStepIndex = 0 then some (caller.name, "")
      else
        (snapshot.actions.lookup (workflowActionSnapshotKey target.jobName caller.name)).bind
          fun action => (action.spec.steps[target.actionStepIndex - 1]?).map fun inner =>
            (caller.name, inner.name)

theorem actionStepName_of_executionOf {target : StepTarget} {caller : StepSpec}
    {execution : Execution} (found : executionOf snapshot statuses target caller = .ok execution) :
    execution.caller = caller ∧ (if target.actionStepIndex = 0 then some (caller.name, "")
        else
          (snapshot.actions.lookup (workflowActionSnapshotKey target.jobName caller.name)).bind
            fun action => (action.spec.steps[target.actionStepIndex - 1]?).map fun inner =>
              (caller.name, inner.name)) = some (caller.name, execution.actionStepName) := by
  unfold executionOf at found
  dsimp only at found
  split at found
  next inline =>
    cases found
    exact ⟨rfl, if_pos inline⟩
  next nested =>
    rw [if_neg nested]
    split at found
    · cases found
    rename_i present
    split at found
    · cases found
    rename_i listed
    split at found
    · cases found
    cases found
    rw [present, Option.bind_some, listed]
    exact ⟨rfl, rfl⟩

/-- The Run of a logical step, as the controller creates it. -/
def newStepRun (platform : WorkflowPlatform) (workflowRun : WorkflowRun)
    (jobName stepName actionStepName : String) (spec : StepRunSpec) : ChildRun where
  name := workflowStepRunName platform workflowRun.name jobName stepName actionStepName
  labels := workflowStepLabels workflowRun.uid jobName stepName actionStepName
  controller := some workflowRun.uid
  spec := spec

/-- A choice for a logical step: the listed Run under its key, or a new Run. -/
inductive ChosenFor (platform : WorkflowPlatform) (workflowRun : WorkflowRun)
    (childRuns : Table String ChildRun) (jobName stepName actionStepName : String) :
    StepChoice → Prop
  | reuse {run : ChildRun}
      (known : childRuns.lookup (workflowStepKey jobName stepName actionStepName) = some run) :
      ChosenFor platform workflowRun childRuns jobName stepName actionStepName (.reuse run)
  | create {spec : StepRunSpec}
      (unknown : childRuns.lookup (workflowStepKey jobName stepName actionStepName) = none) :
      ChosenFor platform workflowRun childRuns jobName stepName actionStepName
        (.create (newStepRun platform workflowRun jobName stepName actionStepName spec))

/-- What `createOrReuseStepRun` chooses belongs to the target's logical step. -/
theorem chooseStepRun_eq_ok {workflowRun : WorkflowRun} {childRuns : Table String ChildRun}
    {target : StepTarget} {choice : StepChoice}
    (chosen : chooseStepRun platform workflowRun childRuns snapshot statuses target = .ok choice) :
    ∃ stepName actionStepName, snapshot.stepNames target = some (stepName, actionStepName) ∧
      ChosenFor platform workflowRun childRuns target.jobName stepName actionStepName
        choice := by
  unfold chooseStepRun at chosen
  dsimp only at chosen
  split at chosen
  · cases chosen
  rename_i caller listed
  split at chosen
  · cases chosen
  rename_i execution executed
  obtain ⟨same, named⟩ := actionStepName_of_executionOf executed
  have specified : ∃ job, snapshot.jobs.lookup target.jobName = some job ∧
      job.steps[target.stepIndex]? = some caller := by
    cases found : snapshot.jobs.lookup target.jobName with
    | none => rw [found] at listed; simp at listed
    | some job => rw [found] at listed; exact ⟨job, rfl, listed⟩
  obtain ⟨_, found, j⟩ := specified
  refine ⟨caller.name, execution.actionStepName, ?_, ?_⟩
  · rw [Snapshot.stepNames, found, Option.bind_some, j, Option.bind_some, named]
  · split at chosen
    next present =>
      cases chosen
      exact .reuse present
    next absent =>
      unfold stepRunOf at chosen
      split at chosen
      · cases chosen
      rename_i resolved _
      split at chosen
      · cases chosen
      cases inputs : resolveWorkflowArtifactInputs statuses resolved.artifacts with
      | error => rw [inputs] at chosen; cases chosen
      | ok =>
        rw [inputs] at chosen
        cases chosen
        unfold buildStepRun
        rw [same]
        exact .create absent

/-- The child WorkflowRun of a call, up to its annotations and jobs. -/
theorem workflowCallOf_eq_ok {find : String → Option WorkflowSpec} {parent : WorkflowRun}
    {job : JobSpec} {child : WorkflowRun}
    (built : workflowCallOf platform find parent statuses jobName job = .ok child) :
    ∃ annotations jobs, child =
      { nameSpace := parent.nameSpace
        name := workflowCallRunName platform parent.name jobName
        uid := ""
        labels := (∅ : Labels).insert workflowRunUIDLabel parent.uid
        annotations := annotations
        controller := some parent.uid
        jobs := jobs } := by
  unfold workflowCallOf workflowCallWith at built
  dsimp only at built
  split at built
  · cases built
  split at built
  · cases built
  split at built
  · cases built
  split at built
  · cases built
  split at built
  · cases built
  · cases built
    exact ⟨_, _, rfl⟩

/-! ## The order of creations -/

/-- Every job that a job needs has succeeded. -/
def NeedsSucceeded (snapshot : Snapshot) (statuses : JobStatuses) (jobName : String) : Prop :=
  ∀ spec, snapshot.jobs.lookup jobName = some spec → ∀ need ∈ spec.needs, HasSucceeded statuses need

/-- Every step before a target has succeeded, and so has every inner step before it. -/
def StepsSucceeded (statuses : JobStatuses) (target : StepTarget) : Prop :=
  ∃ job, statuses.lookup target.jobName = some job ∧ (∀ position < target.stepIndex, ∃ step,
      job.steps[position]? = some step ∧ step.phase = .succeeded) ∧
    ∃ step, job.steps[target.stepIndex]? = some step ∧
      ∀ position, position + 1 < target.actionStepIndex → ∃ inner,
        step.actionSteps[position]? = some inner ∧ inner.phase = .succeeded

/-- A creation respects the order of jobs and steps. -/
def Event.InOrder (snapshot : Snapshot) : Event → Prop
  | .createdRun target statuses _ =>
    NeedsSucceeded snapshot statuses target.jobName ∧ StepsSucceeded statuses target
  | .createdWorkflowRun jobName statuses _ => NeedsSucceeded snapshot statuses jobName
  | .failedStep _ _ _ | .failedCall _ _ _ => True

/-- The logical step for which a Run was created. -/
def Event.createdStep? : Event → Option StepTarget
  | .createdRun target _ _ => some target
  | _ => none

/-- The job for which a child WorkflowRun was created. -/
def Event.createdCall? : Event → Option String
  | .createdWorkflowRun jobName _ _ => some jobName
  | _ => none

/-- All children were created in order. -/
def World.InOrder (world : World) : Prop :=
  ∀ event ∈ world.log, ∃ snapshot, world.snapshot = some snapshot ∧ event.InOrder snapshot

/-- At most one child was created for each logical step and each call. -/
structure World.OneEach (world : World) : Prop where
  oneRun : (world.log.filterMap Event.createdStep?).Nodup
  oneCall : (world.log.filterMap Event.createdCall?).Nodup

theorem Sound.needsSucceeded (sound : Sound snapshot jobs)
    (runnable : Runnable snapshot jobs target) :
    NeedsSucceeded snapshot jobs target.jobName := by
  intro spec specified need mem
  obtain ⟨_, found, _⟩ := runnable.job
  obtain ⟨_, same, pre, _⟩ := sound.outlined found
  cases specified.symm.trans same
  apply sound.hasSucceeded_of_runnable runnable found
  rw [pre, List.mem_insertionSort]
  exact mem

/-- The plan picks the first step, and the first inner step, that has not
succeeded. -/
theorem stepsSucceeded_of_runnableStepTarget {spec : JobSpec} {target : StepTarget}
    (chosen : runnableStepTarget jobs target.jobName spec = some target) :
    StepsSucceeded jobs target := by
  obtain ⟨job, found, _, _, next⟩ := runnableStepTarget_eq_some chosen
  obtain ⟨_, _, step, first⟩ := nextStepRunTarget_eq_some next
  refine ⟨job, found, first.earlier, step, first.here, fun j below => ?_⟩
  rcases first.kind with ⟨_, inline, _⟩ | ⟨_, _, _, nested, _, _, _, earlier⟩
  · rw [inline] at below
    exact absurd below (Nat.not_lt_zero _)
  · rw [nested] at below
    exact earlier j (Nat.lt_of_succ_lt_succ below)

/-- Handling a runnable target logs at most one event, in order. -/
theorem log_startTarget {resources : Resources} {state : World × WorkflowRunStatus}
    (sound : Sound snapshot state.2.jobTable)
    (runnable : Runnable snapshot state.2.jobTable target) :
    (startTarget platform definitions resources snapshot state target).1.log = state.1.log ∨
      ∃ event, event.InOrder snapshot ∧
        (startTarget platform definitions resources snapshot state target).1.log =
          event :: state.1.log := by
  have needs := sound.needsSucceeded runnable
  cases runnable with
  | @step target spec specified chosen =>
    have steps := stepsSucceeded_of_runnableStepTarget chosen
    rw [startTarget]
    split
    next message failed =>
      exact .inr ⟨.failedStep target state.2.jobTable message, trivial, rfl⟩
    · exact .inl rfl
    rename_i run created
    dsimp only
    unfold World.createRun
    split
    · exact .inl rfl
    · exact .inr ⟨.createdRun target state.2.jobTable run, ⟨needs, steps⟩, rfl⟩
  | @workflowCall jobName spec specified chosen =>
    rw [startTarget]
    split
    · rename_i message failed
      exact .inr ⟨.failedCall jobName state.2.jobTable message, trivial, rfl⟩
    rename_i child built
    dsimp only
    unfold World.createWorkflowRun
    split
    · exact .inl rfl
    · exact .inr ⟨.createdWorkflowRun jobName state.2.jobTable child, needs, rfl⟩

namespace World.InOrder

variable {world next : World}

/-- Only a reconcile that starts targets adds to the log. -/
theorem reconciled (inOrder : world.InOrder) (sound : world.Sound)
    (outcome : Reconciled platform world next) : next.InOrder := by
  -- a world without snapshot has an empty log
  have fresh : world.snapshot = none → ∀ event, event ∉ world.log := by
    intro absent event mem
    obtain ⟨_, frozen, _⟩ := inOrder event mem
    cases absent.symm.trans frozen
  cases outcome with
  | unchanged | derived | rejected => exact inOrder
  | frozen absent =>
    intro event mem
    exact absurd mem (fresh absent event)
  | initialized accepted =>
    intro event mem
    rcases accepted with frozen | ⟨absent, _⟩
    · obtain ⟨snapshot, found, ordered⟩ := inOrder event mem
      exact ⟨snapshot, frozen.symm.trans found, ordered⟩
    · exact absurd mem (fresh absent event)
  | @started definitions fate snapshot targets frozen planned =>
    have logged : ∀ event ∈ ((fate.cut targets).foldl
        (startTarget platform definitions world.resources snapshot)
        (world, world.derivedStatus platform)).1.log, event.InOrder snapshot := by
      apply (sound.loop frozen planned
        (fun state => ∀ event ∈ state.1.log, event.InOrder snapshot) ?_ ?_).2
      · intro state target _ good ready ordered
        rcases log_startTarget good ready with same | ⟨_, fine, extended⟩
        · rw [same]
          exact ordered
        · rw [extended]
          exact List.forall_mem_cons.mpr ⟨fine, ordered⟩
      · intro event mem
        obtain ⟨_, found, ordered⟩ := inOrder event mem
        cases frozen.symm.trans found
        exact ordered
    intro event mem
    rw [World.log_commit] at mem
    rw [World.snapshot_commit, (sameOwner_foldl_startTarget _ _).snapshot]
    exact ⟨snapshot, frozen, logged event mem⟩
  | @cancelled fate loaded planned =>
    obtain ⟨_, reached, owner, log, outcome⟩ := exists_cancelChildren_eq platform world fate
    rw [outcome]
    intro event mem
    rw [World.log_commit, log] at mem
    rw [World.snapshot_commit, owner.snapshot]
    exact inOrder event mem

theorem step (inOrder : world.InOrder) (sound : world.Sound)
    (stepped : Workflow.step platform action world = some next) : next.InOrder := by
  rcases untouched_of_step stepped with ⟨definitions, fate, _, rfl⟩ | untouched
  · exact inOrder.reconciled sound (reconciled_reconcile platform definitions fate world)
  intro event mem
  obtain ⟨snapshot, found, ordered⟩ := inOrder event (untouched.log ▸ mem)
  exact ⟨snapshot, untouched.snapshot.trans found, ordered⟩

end World.InOrder

/-- The log of a world: what was created is stored under the name of its logical step
or job, and nothing was created twice. -/
structure Logged (platform : WorkflowPlatform) (snapshot : Snapshot) (world : World) :
    Prop where
  oneRun : (world.log.filterMap Event.createdStep?).Nodup
  oneCall : (world.log.filterMap Event.createdCall?).Nodup
  storedRun : ∀ {target : StepTarget} {statuses : JobStatuses} {run : ChildRun},
    .createdRun target statuses run ∈ world.log → ∃ stepName actionStepName,
      snapshot.stepNames target = some (stepName, actionStepName) ∧
      (stored world.runs (workflowStepRunName platform world.workflowRun.name target.jobName
        stepName actionStepName)).isSome = true
  storedCall : ∀ {jobName : String} {statuses : JobStatuses} {child : WorkflowRun},
    .createdWorkflowRun jobName statuses child ∈ world.log → (stored world.workflowRuns
        (workflowCallRunName platform world.workflowRun.name jobName)).isSome = true

namespace Logged

variable {world next : World}

section Logging

variable (logged : Logged platform snapshot world)

include logged

/-- Worlds with the same log, as long as children stay. -/
theorem of_survives (log : next.log = world.log)
    (name : next.workflowRun.name = world.workflowRun.name) (survives : Survives world next) :
    Logged platform snapshot next where
  oneRun := by rw [log]; exact logged.oneRun
  oneCall := by rw [log]; exact logged.oneCall
  storedRun := by
    intro target statuses run mem
    rw [log] at mem
    obtain ⟨stepName, actionStepName, named, present⟩ := logged.storedRun mem
    rw [name]
    exact ⟨stepName, actionStepName, named, survives.runs present⟩
  storedCall := by
    intro jobName statuses child mem
    rw [log] at mem
    rw [name]
    exact survives.workflowRuns (logged.storedCall mem)

/-- An object is stored under a name that was free. -/
def Creates {α : Type} (before after : Table String (Watched (Option α))) (name : String) : Prop :=
  stored before name = none ∧ (stored after name).isSome = true

/-- One more event, with what it created. -/
theorem grow {event : Event} (log : next.log = event :: world.log)
    (name : next.workflowRun.name = world.workflowRun.name) (survives : Survives world next)
    (newRun : ∀ target statuses run, event = .createdRun target statuses run →
      ∃ stepName actionStepName, snapshot.stepNames target = some (stepName, actionStepName) ∧
        Creates world.runs next.runs (workflowStepRunName platform world.workflowRun.name
          target.jobName stepName actionStepName))
    (newCall : ∀ jobName statuses child, event = .createdWorkflowRun jobName statuses child →
      Creates world.workflowRuns next.workflowRuns
        (workflowCallRunName platform world.workflowRun.name jobName)) :
    Logged platform snapshot next where
  oneRun := by
    rw [log]
    cases event with
    | createdRun target =>
      -- an earlier Run for the target would occupy the name
      refine List.nodup_cons.mpr ⟨fun mem => ?_, logged.oneRun⟩
      obtain ⟨_, _, named, free, _⟩ := newRun _ _ _ rfl
      obtain ⟨event, recorded, created⟩ := List.mem_filterMap.mp mem
      cases event <;> cases created
      obtain ⟨_, _, otherNamed, present⟩ := logged.storedRun recorded
      cases named.symm.trans otherNamed
      rw [free] at present
      cases present
    | _ => exact logged.oneRun
  oneCall := by
    rw [log]
    cases event with
    | createdWorkflowRun =>
      refine List.nodup_cons.mpr ⟨fun mem => ?_, logged.oneCall⟩
      obtain ⟨event, recorded, created⟩ := List.mem_filterMap.mp mem
      cases event <;> cases created
      have present := logged.storedCall recorded
      rw [(newCall _ _ _ rfl).1] at present
      cases present
    | _ => exact logged.oneCall
  storedRun := by
    intro target statuses run mem
    rw [log] at mem
    rw [name]
    rcases List.mem_cons.mp mem with rfl | mem
    · obtain ⟨stepName, actionStepName, named, _, present⟩ := newRun _ _ _ rfl
      exact ⟨stepName, actionStepName, named, present⟩
    · obtain ⟨stepName, actionStepName, named, present⟩ := logged.storedRun mem
      exact ⟨stepName, actionStepName, named, survives.runs present⟩
  storedCall := by
    intro jobName statuses child mem
    rw [log] at mem
    rw [name]
    rcases List.mem_cons.mp mem with rfl | mem
    · exact (newCall _ _ _ rfl).2
    · exact survives.workflowRuns (logged.storedCall mem)

/-- The creation of a Run under a free name. -/
theorem createRun {target : StepTarget} {stepName actionStepName : String} {spec : StepRunSpec}
    (named : snapshot.stepNames target = some (stepName, actionStepName)) :
    Logged platform snapshot (world.createRun target statuses
      (newStepRun platform world.workflowRun target.jobName stepName actionStepName spec)) := by
  have survives := Survives.createRun world target statuses
    (newStepRun platform world.workflowRun target.jobName stepName actionStepName spec)
  unfold World.createRun at survives ⊢
  split
  · exact logged
  next free =>
    rw [free] at survives
    refine logged.grow rfl rfl survives ?_ (by simp)
    rintro _ _ _ ⟨⟩
    exact ⟨stepName, actionStepName, named, free,
      congrArg Option.isSome (stored_storeVersion_self _ _ _)⟩

/-- The creation of a child WorkflowRun under a free name. -/
theorem createWorkflowRun {child : WorkflowRun}
    (named : child.name = workflowCallRunName platform world.workflowRun.name jobName) :
    Logged platform snapshot (world.createWorkflowRun jobName statuses child) := by
  have survives := Survives.createWorkflowRun world jobName statuses child
  unfold World.createWorkflowRun at survives ⊢
  split
  · exact logged
  next free =>
    rw [free] at survives
    refine logged.grow rfl rfl survives (by simp) ?_
    rintro _ _ _ ⟨⟩
    rw [← named]
    exact ⟨free, congrArg Option.isSome (stored_storeVersion_self _ _ _)⟩

end Logging

/-- Handling a target creates nothing twice. -/
theorem startTarget {resources : Resources} {state : World × WorkflowRunStatus}
    (logged : Logged platform snapshot state.1)
    (same : state.1.workflowRun = resources.workflowRun)
    (runnable : Runnable snapshot state.2.jobTable target) :
    Logged platform snapshot
      (Workflow.startTarget platform definitions resources snapshot state target).1 := by
  cases runnable with
  | @step target spec specified chosen =>
    rw [Workflow.startTarget]
    split
    · exact logged.grow rfl rfl ⟨id, id⟩ (by simp) (by simp)
    · exact logged
    rename_i created
    rw [← same] at created
    obtain ⟨_, _, named, choice⟩ := chooseStepRun_eq_ok created
    cases choice with
    | create => exact logged.createRun named
  | @workflowCall jobName spec specified chosen =>
    rw [Workflow.startTarget]
    split
    · exact logged.grow rfl rfl ⟨id, id⟩ (by simp) (by simp)
    rename_i built
    rw [← same] at built
    obtain ⟨_, _, rfl⟩ := workflowCallOf_eq_ok built
    exact logged.createWorkflowRun rfl

end Logged

/-- The log of a world fits its snapshot; without a snapshot it is empty. -/
structure World.Logged (platform : WorkflowPlatform) (world : World) : Prop where
  logged : ∀ {snapshot : Snapshot}, world.snapshot = some snapshot →
    Workflow.Logged platform snapshot world
  empty : world.snapshot = none → world.log = []

namespace World.Logged

variable {world next : World}

/-- Storing a status leaves the log alone. -/
theorem commit {fate : Fate} {status : WorkflowRunStatus}
    (logged : Workflow.Logged platform snapshot world) (frozen : world.snapshot = some snapshot) :
    (world.commit fate status).Logged platform := by
  refine ⟨fun found => ?_, fun missing => ?_⟩
  · rw [World.snapshot_commit] at found
    cases frozen.symm.trans found
    cases fate with
    | patched => exact logged.of_survives rfl rfl ⟨id, id⟩
    | lost => exact logged
  · rw [World.snapshot_commit] at missing
    cases frozen.symm.trans missing

theorem reconciled (logged : world.Logged platform) (sound : world.Sound)
    (outcome : Reconciled platform world next) : next.Logged platform := by
  have survives := Survives.reconciled outcome
  have same := outcome.sameRun
  have kept : next.log = world.log → next.snapshot = world.snapshot → next.Logged platform := by
    intro log frozen
    refine ⟨fun found => ?_, fun missing => log.trans (logged.empty (frozen.symm.trans missing))⟩
    exact (logged.logged (frozen.symm.trans found)).of_survives log same.name survives
  -- nothing has been created before the snapshot is stored
  have fresh : ∀ {snapshot}, next.snapshot = some snapshot → next.log = [] →
      next.Logged platform := by
    intro snapshot frozen log
    refine ⟨fun found => ?_, fun missing => absurd (frozen.symm.trans missing) (by simp)⟩
    constructor <;> simp [log]
  cases outcome with
  | unchanged | derived | rejected => exact kept rfl rfl
  | frozen absent => exact fresh rfl (logged.empty absent)
  | initialized accepted =>
    rcases accepted with frozen | ⟨absent, _⟩
    · exact kept rfl frozen.symm
    · exact fresh rfl (logged.empty absent)
  | @started definitions fate snapshot targets frozen planned =>
    apply Logged.commit
    · exact (sound.loop frozen planned (fun state => Workflow.Logged platform snapshot state.1)
        (fun state target owner _ ready log => log.startTarget owner.workflowRun ready)
        (logged.logged frozen)).2
    · exact (sameOwner_foldl_startTarget (fate.cut targets)
        (world, world.derivedStatus platform)).snapshot.trans frozen
  | @cancelled fate loaded planned =>
    obtain ⟨_, reached, owner, log, outcome⟩ := exists_cancelChildren_eq platform world fate
    rw [outcome] at kept ⊢
    rw [World.log_commit, World.snapshot_commit] at kept
    exact kept log owner.snapshot

theorem step (logged : world.Logged platform) (sound : world.Sound)
    (keeps : action.deletes = false) (stepped : Workflow.step platform action world = some next) :
    next.Logged platform := by
  rcases untouched_of_step stepped with ⟨definitions, fate, _, rfl⟩ | untouched
  · exact logged.reconciled sound (reconciled_reconcile platform definitions fate world)
  constructor
  · intro snapshot frozen
    exact (logged.logged (untouched.snapshot.symm.trans frozen)).of_survives untouched.log
      untouched.name (survives_of_step keeps stepped)
  · intro missing
    exact untouched.log.trans (logged.empty (untouched.snapshot.symm.trans missing))

theorem oneEach (logged : world.Logged platform) : world.OneEach := by
  cases frozen : world.snapshot with
  | none => constructor <;> simp [logged.empty frozen]
  | some => exact ⟨(logged.logged frozen).oneRun, (logged.logged frozen).oneCall⟩

end World.Logged

/-- In every run a child is created for a job only when every job it needs is recorded
as succeeded, a step or an inner step only after all steps or inner steps before it
are; and if no child is deleted, no logical step and no call gets a second child. -/
theorem ordered_of_run {workflowRun : WorkflowRun} {actions : List Action} {world : World}
    (ran : run (step platform) actions (World.initial workflowRun) = some world) :
    world.InOrder ∧ (run (restrict (fun action _ => action.deletes = false) (step platform)) actions
        (World.initial workflowRun) = some world → world.OneEach) := by
  constructor
  · have invariant : world.Sound ∧ world.InOrder := by
      refine @invariant_of_run _ _ _ _ _ (step platform)
        (fun world => world.Sound ∧ world.InOrder) ?_ ⟨World.Sound.initial workflowRun, ?_⟩ ran
      · rintro _ _ _ ⟨sound, inOrder⟩ stepped
        exact ⟨sound.step stepped, inOrder.step sound stepped⟩
      · exact fun event member => absurd member List.not_mem_nil
    exact invariant.2
  · intro kept
    have invariant : world.Sound ∧ world.Logged platform := by
      refine invariant_of_guarded_run _ _ (fun world => world.Sound ∧ world.Logged platform)
        ?_ ⟨World.Sound.initial workflowRun, ?_⟩ kept
      · rintro _ _ _ keeps ⟨sound, logged⟩ stepped
        exact ⟨sound.step stepped, logged.step sound keeps stepped⟩
      · constructor
        · intro snapshot frozen
          cases frozen
        · intro missing
          rfl
    exact invariant.2.oneEach

/-! ## An example -/

/-- A stand-in for the truncated digest that keeps the first ten characters. -/
def samplePlatform : WorkflowPlatform where
  digest text := String.ofList ((text.toList ++ List.replicate 10 '0').take 10)
  digest_length text := by simp
  isQualifiedName _ := true
  cIdentifierComplaint := "a valid C identifier must start with alphabetic character or '_'"

/-- No Actions and no Workflows are stored. -/
def noDefinitions : Definitions where
  findAction _ := .error .notFound
  findWorkflow _ := none

/-- An inline step. -/
def inlineStep (name script : String) : StepSpec :=
  { name := name, run := script }

/-- A job `build` of two steps and a job `test` that needs it. -/
def pipeline : WorkflowRun where
  name := "ci"
  uid := "uid-1"
  jobs := ((∅ : JobSpecs).insert "build"
      { runsOn := "bash", steps := [inlineStep "get" "fetch", inlineStep "make" "make"] }).insert
    "test" { runsOn := "bash", needs := ["build"], steps := [inlineStep "all" "check"] }

/-- A child Run ends, and the informer learns of its creation and its end. -/
def finishRun (name : String) (phase : RunPhase) : List Action :=
  [.runProgress name phase ∅ [], .deliverRun name, .deliverRun name]

/-- A reconcile that stores its status. -/
def reconcileOnce : Action := .reconcile noDefinitions .patched

/-- The pipeline up to the start of `test`; the patch that records the start of
`make` is lost. -/
def pipelineActions : List Action :=
  [reconcileOnce, reconcileOnce] ++ finishRun "ci-build/get/" .succeeded ++
    [.reconcile noDefinitions (.lost 1), reconcileOnce] ++
    finishRun "ci-build/make" .succeeded ++ [reconcileOnce]

/-- Three Runs are created, one for each step. -/
theorem pipeline_ordered :
    ∃ world, run (restrict (fun action _ => action.deletes = false) (step samplePlatform))
        pipelineActions (World.initial pipeline) = some world ∧
      world.log.length = 3 ∧ world.InOrder ∧ world.OneEach := by
  apply exists_reached_and
  · decide +kernel
  intro world kept _
  obtain ⟨inOrder, oneEach⟩ := ordered_of_run (run_of_run_restrict _ _ kept)
  exact ⟨inOrder, oneEach kept⟩

end Kruntimes.Workflow
