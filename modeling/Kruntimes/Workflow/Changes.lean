import Kruntimes.Workflow.Passes
import Mathlib.Data.List.ReduceOption

/-!
# What a reconcile can do

`Reconciled` lists the outcomes of a reconcile.  The loop over the targets has a
rule of its own: a target of the plan is still runnable when its turn comes,
because the targets before it belong to other jobs.
-/

namespace Kruntimes.Workflow

open Api Data Transition

variable {spec : JobSpec} {jobs : JobStatuses} {targets : List Target} {name : String}
  {target : Target} {next world : World} {platform : WorkflowPlatform} {snapshot : Snapshot}
  {resources : Resources} {definitions : Definitions} {α : Type}

/-! ## Runnable targets -/

/-- The job a target belongs to. -/
def Target.jobName : Target → String
  | .step target => target.jobName
  | .workflowCall jobName => jobName

/-- A target that the plan would choose for these job statuses. -/
inductive Runnable (snapshot : Snapshot) (jobs : JobStatuses) : Target → Prop
  | step {target : StepTarget} {spec : JobSpec}
      (specified : snapshot.jobs.lookup target.jobName = some spec)
      (chosen : runnableStepTarget jobs target.jobName spec = some target) :
      Runnable snapshot jobs (.step target)
  | workflowCall {jobName : String} {spec : JobSpec}
      (specified : snapshot.jobs.lookup jobName = some spec)
      (chosen : isRunnableWorkflowCall jobs jobName spec = true) :
      Runnable snapshot jobs (.workflowCall jobName)

theorem nextRunnableWorkflowStep_eq_some {steps : List StepStatus} {i : Nat}
    {step : StepStatus} (first : nextRunnableWorkflowStep steps = some (i, step)) :
    steps[i]? = some step ∧ step.phase ≠ .succeeded ∧ step.phase ≠ .failed ∧
      ∀ j < i, ∃ other, steps[j]? = some other ∧ other.phase = .succeeded := by
  unfold nextRunnableWorkflowStep at first
  split at first
  · cases first
  rename_i found
  split at first
  · cases first
  rename_i open'
  cases first
  obtain ⟨here, unfinished, before⟩ :=
    find?_zipIdx_eq_some (fun step : StepStatus => decide (step.phase ≠ .succeeded)) found
  refine ⟨here, of_decide_eq_true unfinished, open', fun j below => ?_⟩
  obtain ⟨other, listed, done⟩ := before j below
  exact ⟨other, listed, not_not.mp (of_decide_eq_false done)⟩

theorem nextRunnableActionStep_eq_some {steps : List ActionStepStatus} {i : Nat}
    {step : ActionStepStatus} (first : nextRunnableActionStep steps = some (i, step)) :
    steps[i]? = some step ∧ step.phase = .pending ∧
      ∀ j < i, ∃ other, steps[j]? = some other ∧ other.phase = .succeeded := by
  unfold nextRunnableActionStep at first
  split at first
  · cases first
  rename_i found
  split at first
  next pending =>
    cases first
    obtain ⟨here, _, before⟩ := find?_zipIdx_eq_some
      (fun step : ActionStepStatus => decide (step.phase ≠ .succeeded)) found
    refine ⟨here, pending, fun j below => ?_⟩
    obtain ⟨other, listed, done⟩ := before j below
    exact ⟨other, listed, not_not.mp (of_decide_eq_false done)⟩
  · cases first

/-- The next target of a job: the first step that has not succeeded, and in an Action
its first inner step that has not succeeded. -/
structure NextTarget (spec : JobSpec) (job : JobStatus) (target : StepTarget)
    (stepSpec : StepSpec) (step : StepStatus) : Prop where
  here : job.steps[target.stepIndex]? = some step
  specified : spec.steps[target.stepIndex]? = some stepSpec
  unfinished : step.phase ≠ .succeeded ∧ step.phase ≠ .failed
  earlier : ∀ position < target.stepIndex, ∃ other, job.steps[position]? = some other ∧
    other.phase = .succeeded
  kind : stepSpec.uses = "" ∧ target.actionStepIndex = 0 ∧ step.phase = .pending ∧
      step.runName = "" ∨
    stepSpec.uses ≠ "" ∧ ∃ index inner, target.actionStepIndex = index + 1 ∧
      step.actionSteps[index]? = some inner ∧ inner.phase = .pending ∧ inner.runName = "" ∧
      ∀ position < index, ∃ other, step.actionSteps[position]? = some other ∧
        other.phase = .succeeded

theorem nextStepRunTarget_eq_some {jobName : String} {job : JobStatus} {target : StepTarget}
    (chosen : nextStepRunTarget jobName spec job = some target) :
    target.jobName = jobName ∧ ∃ stepSpec step, NextTarget spec job target stepSpec step := by
  unfold nextStepRunTarget at chosen
  split at chosen
  · cases chosen
  rename_i step first
  obtain ⟨here, unsucceeded, unfailed, earlier⟩ := nextRunnableWorkflowStep_eq_some first
  split at chosen
  · cases chosen
  rename_i stepSpec specified
  split at chosen
  next inline =>
    unfold nextInlineStepRunTarget at chosen
    split at chosen
    · cases chosen
    rename_i fresh
    rw [not_or, not_not, not_not] at fresh
    cases chosen
    exact ⟨rfl, stepSpec, step, here, specified, ⟨unsucceeded, unfailed⟩, earlier,
      .inl ⟨inline, rfl, fresh.1, fresh.2⟩⟩
  next calls =>
    unfold nextActionStepRunTarget at chosen
    split at chosen
    · cases chosen
    rename_i innerIndex inner innerFirst
    obtain ⟨innerHere, pending, innerEarlier⟩ := nextRunnableActionStep_eq_some innerFirst
    split at chosen
    · cases chosen
    rename_i fresh
    cases chosen
    exact ⟨rfl, stepSpec, step, here, specified, ⟨unsucceeded, unfailed⟩, earlier,
      .inr ⟨calls, innerIndex, inner, rfl, innerHere, pending, not_not.mp fresh, innerEarlier⟩⟩

/-- What makes a step runnable. -/
theorem runnableStepTarget_eq_some {jobName : String} {target : StepTarget}
    (chosen : runnableStepTarget jobs jobName spec = some target) :
    ∃ job, jobs.lookup jobName = some job ∧ spec.uses = "" ∧
      (job.phase = .running ∨ jobReadyToStart job jobs = true) ∧
      nextStepRunTarget jobName spec job = some target := by
  unfold runnableStepTarget at chosen
  split at chosen
  · cases chosen
  rename_i job found
  split at chosen
  · cases chosen
  rename_i shaped
  split at chosen
  · cases chosen
  rename_i ready
  refine ⟨job, found, by_contra fun other => shaped (.inl other), ?_, chosen⟩
  rw [not_and_or, not_not, Bool.not_eq_false] at ready
  exact ready

/-- What makes a call runnable. -/
theorem isRunnableWorkflowCall_eq_true {jobName : String}
    (chosen : isRunnableWorkflowCall jobs jobName spec = true) :
    ∃ job, jobs.lookup jobName = some job ∧ spec.uses ≠ "" ∧ job.workflowRunName = "" ∧
      jobReadyToStart job jobs = true := by
  unfold isRunnableWorkflowCall at chosen
  split at chosen
  · cases chosen
  rename_i job found
  rw [Bool.and_eq_true, Bool.and_eq_true, bne_iff_ne, beq_iff_eq] at chosen
  exact ⟨job, found, chosen.1.1, chosen.1.2, chosen.2⟩

/-- A runnable target belongs to a job that runs, or whose needs have all
succeeded. -/
theorem Runnable.job (runnable : Runnable snapshot jobs target) :
    ∃ job, jobs.lookup target.jobName = some job ∧
      (job.phase = .running ∨ jobReadyToStart job jobs = true) := by
  cases runnable with
  | step specified chosen =>
    obtain ⟨job, found, _, ready, _⟩ := runnableStepTarget_eq_some chosen
    exact ⟨job, found, ready⟩
  | workflowCall specified chosen =>
    obtain ⟨job, found, _, _, ready⟩ := isRunnableWorkflowCall_eq_true chosen
    exact ⟨job, found, .inr ready⟩

theorem isWaiting_of_jobReadyToStart {job : JobStatus} (ready : jobReadyToStart job jobs = true) :
    job.phase.isWaiting = true :=
  ((Bool.and_eq_true _ _).mp ready).1

/-- The job of a runnable target is not finished. -/
theorem Runnable.isTerminal (runnable : Runnable snapshot jobs target) {job : JobStatus}
    (found : jobs.lookup target.jobName = some job) :
    job.phase.isTerminal = false := by
  obtain ⟨_, stored, running | ready⟩ := runnable.job
  · cases found.symm.trans stored
    rw [running]; rfl
  · cases found.symm.trans stored
    exact JobPhase.isTerminal_of_isWaiting (isWaiting_of_jobReadyToStart ready)

/-- Two tables that agree on a job and on the success of its needs agree on its
readiness. -/
theorem jobReadyToStart_of_modify {jobName : String} {f : JobStatus → JobStatus}
    (unfinished : ∀ job, jobs.lookup jobName = some job → job.phase ≠ .succeeded)
    {job : JobStatus} (ready : jobReadyToStart job jobs = true) :
    jobReadyToStart job (jobs.modify jobName f) = true := by
  unfold jobReadyToStart at ready ⊢
  rw [Bool.and_eq_true, List.all_eq_true] at ready ⊢
  refine ⟨ready.1, fun pre mem => ?_⟩
  have done := ready.2 pre mem
  rw [Option.any_eq_true] at done
  obtain ⟨other, found, succeeded⟩ := done
  have distinct : pre ≠ jobName := by
    rintro rfl
    exact unfinished other found (beq_iff_eq.mp succeeded)
  rw [Table.lookup_modify_ne distinct, found]
  exact succeeded

/-- Starting one job leaves the targets of other jobs runnable. -/
theorem Runnable.of_modify (runnable : Runnable snapshot jobs target) {jobName : String}
    {f : JobStatus → JobStatus} (apart : target.jobName ≠ jobName)
    (unfinished : ∀ job, jobs.lookup jobName = some job → job.phase ≠ .succeeded) :
    Runnable snapshot (jobs.modify jobName f) target := by
  cases runnable with
  | @step target spec specified chosen =>
    change target.jobName ≠ jobName at apart
    refine .step specified ?_
    obtain ⟨job, found, _, ready, _⟩ := runnableStepTarget_eq_some chosen
    have still : ¬ (job.phase ≠ .running ∧
        jobReadyToStart job (jobs.modify jobName f) = false) := by
      rintro ⟨notRunning, notReady⟩
      rcases ready with running | ready
      · exact notRunning running
      · rw [jobReadyToStart_of_modify unfinished ready] at notReady
        cases notReady
    have before : ¬ (job.phase ≠ .running ∧ jobReadyToStart job jobs = false) := by
      rintro ⟨notRunning, notReady⟩
      rcases ready with running | ready
      · exact notRunning running
      · cases ready.symm.trans notReady
    unfold runnableStepTarget at chosen ⊢
    rw [Table.lookup_modify_ne apart, found]
    rw [found] at chosen
    simp only [if_neg before, if_neg still] at chosen ⊢
    exact chosen
  | @workflowCall name spec specified chosen =>
    change name ≠ jobName at apart
    refine .workflowCall specified ?_
    obtain ⟨_, found, uses, unnamed, ready⟩ := isRunnableWorkflowCall_eq_true chosen
    unfold isRunnableWorkflowCall
    rw [Table.lookup_modify_ne apart, found]
    simp [uses, unnamed, jobReadyToStart_of_modify unfinished ready]

/-! ## The targets of a plan -/

/-- When each plan is made. -/
theorem facts_of_plan {derived : WorkflowRunStatus} {plan : PlannedAction}
    (planned : calculateWorkflowRunPlan resources derived = plan) :
    match plan with
    | .none => True
    | .initializeWorkflowRun => derived.phase.isTerminal = false ∧
        resources.workflowRun.cancelRequested = false ∧ derived.jobs = none
    | .requestChildCancellation => (hasActiveChildRuns resources.childRuns ||
        hasActiveChildWorkflowRuns resources.childWorkflows) = true
    | .startRunnableTargets targets => derived.phase.isTerminal = false ∧
        resources.workflowRun.cancelRequested = false ∧ derived.jobs ≠ none ∧
        targets = runnableStepTargets derived.jobTable resources.jobs ++
          runnableWorkflowCallTargets derived.jobTable resources.jobs := by
  unfold calculateWorkflowRunPlan at planned
  split at planned
  · subst planned
    assumption
  rename_i initialized
  split at planned
  next active =>
    subst planned
    exact active.2
  · split at planned
    · subst planned
      trivial
    rename_i live
    rw [not_or, Bool.not_eq_true, Bool.not_eq_true] at live
    split at planned
    · subst planned
      trivial
    dsimp only at planned
    split at planned
    · subst planned
      trivial
    · subst planned
      exact ⟨live.1, live.2, fun missing => initialized ⟨live.1, live.2, missing⟩, rfl⟩

/-- The targets of a plan. -/
theorem eq_targets_of_plan {derived : WorkflowRunStatus}
    (frozen : resources.snapshot = some snapshot)
    (planned : calculateWorkflowRunPlan resources derived = .startRunnableTargets targets) :
    targets = runnableStepTargets derived.jobTable snapshot.jobs ++
      runnableWorkflowCallTargets derived.jobTable snapshot.jobs := by
  have jobs : resources.jobs = snapshot.jobs := by rw [Resources.jobs, frozen]; rfl
  rw [← jobs]
  exact (facts_of_plan planned).2.2.2

theorem mem_runnableStepTargets {specs : JobSpecs}
    (mem : target ∈ runnableStepTargets jobs specs) :
    ∃ step spec, target = .step step ∧ specs.lookup step.jobName = some spec ∧
      runnableStepTarget jobs step.jobName spec = some step := by
  obtain ⟨_, _, found⟩ := List.mem_filterMap.mp mem
  obtain ⟨spec, specified, chosen⟩ := Option.bind_eq_some_iff.mp found
  obtain ⟨step, runnable, rfl⟩ := Option.map_eq_some_iff.mp chosen
  obtain ⟨_, _, _, _, next⟩ := runnableStepTarget_eq_some runnable
  have named := (nextStepRunTarget_eq_some next).1
  exact ⟨step, spec, rfl, by rw [named]; exact specified, by rw [named]; exact runnable⟩

theorem mem_runnableWorkflowCallTargets {specs : JobSpecs}
    (mem : target ∈ runnableWorkflowCallTargets jobs specs) :
    ∃ jobName spec, target = .workflowCall jobName ∧ specs.lookup jobName = some spec ∧
      isRunnableWorkflowCall jobs jobName spec = true := by
  obtain ⟨jobName, filtered, rfl⟩ := List.mem_map.mp mem
  obtain ⟨spec, specified, chosen⟩ := (Option.any_eq_true _ _).mp (List.mem_filter.mp filtered).2
  exact ⟨jobName, spec, rfl, specified, chosen⟩

theorem runnable_of_mem (mem : target ∈ runnableStepTargets jobs snapshot.jobs ++
      runnableWorkflowCallTargets jobs snapshot.jobs) : Runnable snapshot jobs target := by
  rcases List.mem_append.mp mem with step | call
  · obtain ⟨_, _, rfl, specified, chosen⟩ := mem_runnableStepTargets step
    exact .step specified chosen
  · obtain ⟨_, _, rfl, specified, chosen⟩ := mem_runnableWorkflowCallTargets call
    exact .workflowCall specified chosen

/-- The targets of a plan belong to different jobs. -/
theorem pairwise_targets (jobs : JobStatuses) (specs : JobSpecs) :
    (runnableStepTargets jobs specs ++ runnableWorkflowCallTargets jobs specs).Pairwise
      fun first second => first.jobName ≠ second.jobName := by
  rw [List.pairwise_append]
  refine ⟨?_, ?_, ?_⟩
  · unfold runnableStepTargets
    rw [List.pairwise_filterMap]
    refine (Table.nodup_sortedKeys specs).imp_of_mem ?_
    intro first second _ _ distinct target found other otherFound
    have named : ∀ {name target}, ((specs.lookup name).bind fun spec =>
          (runnableStepTarget jobs name spec).map Target.step) = some target →
        target.jobName = name := by
      intro name target chosen
      obtain ⟨_, _, mapped⟩ := Option.bind_eq_some_iff.mp chosen
      obtain ⟨_, runnable, rfl⟩ := Option.map_eq_some_iff.mp mapped
      obtain ⟨_, _, _, _, next⟩ := runnableStepTarget_eq_some runnable
      exact (nextStepRunTarget_eq_some next).1
    rw [named found, named otherFound]
    exact distinct
  · unfold runnableWorkflowCallTargets
    rw [List.pairwise_map]
    exact (Table.nodup_sortedKeys specs).filter _
  · -- a job either calls a Workflow or has steps
    intro first firstMember second secondMember
    obtain ⟨step, _, rfl, specified, chosen⟩ := mem_runnableStepTargets firstMember
    obtain ⟨jobName, _, rfl, otherSpecified, call⟩ := mem_runnableWorkflowCallTargets secondMember
    rintro (same : step.jobName = jobName)
    obtain ⟨_, _, inline, _⟩ := runnableStepTarget_eq_some chosen
    obtain ⟨_, _, uses, _⟩ := isRunnableWorkflowCall_eq_true call
    rw [same, otherSpecified] at specified
    cases specified
    exact uses inline

/-! ## The loop over the targets -/

section

variable {platform : WorkflowPlatform} {definitions : Definitions} {resources : Resources}
  {snapshot : Snapshot}

/-- What handling a target does to the status of its job. -/
structure Started (job next : JobStatus) : Prop where
  pre : next.pre = job.pre
  steps : next.steps.map StepStatus.frame = job.steps.map StepStatus.frame
  phase : next.phase = .running ∨ next.phase = .failed
  outputs : next.outputs = job.outputs

/-- What `recordStepRun` does to the step of a target. -/
def StepStatus.start (target : StepTarget) (runName : String) (step : StepStatus) : StepStatus :=
  if target.actionStepIndex = 0 then { step with phase := .running, runName := runName }
  else
    { step with
      phase := .running
      actionSteps := step.actionSteps.modify (target.actionStepIndex - 1) fun inner =>
        { inner with phase := .running, runName := runName } }

/-- What `recordStepRun` does to the job of a target. -/
def JobStatus.start (target : StepTarget) (runName : String) (job : JobStatus) : JobStatus :=
  { job with
    phase := .running
    steps := job.steps.modify target.stepIndex (StepStatus.start target runName) }

/-- What `recordStepFailure` does to the job of a target. -/
def JobStatus.failStep (target : StepTarget) (job : JobStatus) : JobStatus :=
  { job with
    phase := .running
    steps := job.steps.modify target.stepIndex fun step => { step with phase := .failed } }

section Records

variable (status : WorkflowRunStatus)

include status

theorem jobTable_recordStepRun (target : StepTarget) (runName : String) :
    (recordStepRun status target runName).jobTable =
      status.jobTable.modify target.jobName (JobStatus.start target runName) :=
  status.jobTable_modifyJob target.jobName _

theorem jobTable_recordStepFailure (target : StepTarget) (message : String) :
    (recordStepFailure status target message).jobTable =
      status.jobTable.modify target.jobName (JobStatus.failStep target) :=
  status.jobTable_modifyJob target.jobName _

theorem jobTable_recordWorkflowCall (jobName childName : String) :
    (recordWorkflowCall status jobName childName).jobTable =
      status.jobTable.modify jobName fun job =>
        { job with phase := .running, workflowRunName := childName } :=
  status.jobTable_modifyJob jobName _

theorem jobTable_recordWorkflowCallFailure (jobName message : String) :
    (recordWorkflowCallFailure status jobName message).jobTable =
      status.jobTable.modify jobName fun job => { job with phase := .failed } :=
  status.jobTable_modifyJob jobName _

end Records

theorem frame_start (target : StepTarget) (runName : String) (step : StepStatus) :
    (step.start target runName).frame = step.frame := by
  unfold StepStatus.start
  split
  · rfl
  unfold StepStatus.frame
  rw [map_modify]
  intro inner
  rfl

/-- Handling a target changes the status of its own job only. -/
theorem exists_modify_startTarget (state : World × WorkflowRunStatus) (target : Target) :
    ∃ f, (startTarget platform definitions resources snapshot state target).2.jobTable =
      state.2.jobTable.modify target.jobName f ∧ ∀ job, Started job (f job) := by
  cases target with
  | step target =>
    rw [startTarget]
    split
    · exact ⟨_, jobTable_recordStepFailure _ target _, fun job =>
        ⟨rfl, map_modify (by intro step; rfl) _ _, .inl rfl, rfl⟩⟩
    · exact ⟨_, jobTable_recordStepRun _ target _, fun job =>
        ⟨rfl, map_modify (frame_start target _) _ _, .inl rfl, rfl⟩⟩
    · exact ⟨_, jobTable_recordStepRun _ target _, fun job =>
        ⟨rfl, map_modify (frame_start target _) _ _, .inl rfl, rfl⟩⟩
  | workflowCall jobName =>
    rw [startTarget]
    split
    · exact ⟨_, jobTable_recordWorkflowCallFailure _ jobName _, fun job =>
        ⟨rfl, rfl, .inr rfl, rfl⟩⟩
    · exact ⟨_, jobTable_recordWorkflowCall _ jobName _, fun job => ⟨rfl, rfl, .inl rfl, rfl⟩⟩

/-- The rule for the loop over targets of different jobs: what handling a runnable
target preserves holds in the end. -/
theorem foldl_startTarget (Inv : World × WorkflowRunStatus → Prop)
    (each : ∀ state target, Inv state → Runnable snapshot state.2.jobTable target →
      Inv (startTarget platform definitions resources snapshot state target))
    {state : World × WorkflowRunStatus}
    (apart : targets.Pairwise fun first second => first.jobName ≠ second.jobName)
    (runnable : ∀ target ∈ targets, Runnable snapshot state.2.jobTable target)
    (initial : Inv state) :
    Inv (targets.foldl (startTarget platform definitions resources snapshot) state) := by
  induction targets generalizing state with
  | nil => exact initial
  | cons target rest ih =>
    rw [List.pairwise_cons] at apart
    have first := runnable target List.mem_cons_self
    apply ih apart.2 _ (each state target initial first)
    intro other mem
    obtain ⟨f, changed, _⟩ : ∃ f,
        (startTarget platform definitions resources snapshot state target).2.jobTable =
          state.2.jobTable.modify target.jobName f ∧ ∀ job, Started job (f job) :=
      exists_modify_startTarget state target
    rw [changed]
    apply (runnable other (List.mem_cons_of_mem _ mem)).of_modify (apart.1 other mem).symm
    intro job found succeeded
    have unfinished := first.isTerminal found
    rw [succeeded] at unfinished
    cases unfinished

end

/-! ## Outcomes -/

/-- The status a reconcile derives. -/
def World.derivedStatus (platform : WorkflowPlatform) (world : World) : WorkflowRunStatus :=
  world.resources.deriveWorkflowRunStatus platform

/-- The plan of a reconcile. -/
def World.plan (platform : WorkflowPlatform) (world : World) : PlannedAction :=
  calculateWorkflowRunPlan world.resources (world.derivedStatus platform)

/-- The world with another stored status. -/
def World.withStatus (world : World) (status : WorkflowRunStatus) : World :=
  { world with workflowRun := { world.workflowRun with status := status } }

theorem World.log_commit (world : World) (fate : Fate) (status : WorkflowRunStatus) :
    (world.commit fate status).log = world.log := by
  cases fate <;> rfl

theorem World.snapshot_commit (world : World) (fate : Fate) (status : WorkflowRunStatus) :
    (world.commit fate status).snapshot = world.snapshot := by
  cases fate <;> rfl

theorem World.pass_derivedStatus (platform : WorkflowPlatform) (world : World) :
    Relation.ReflTransGen (Pass platform world.resources) world.workflowRun.status.jobTable
      (world.derivedStatus platform).jobTable :=
  pass_deriveWorkflowRunStatus

theorem Fate.cut_sublist (fate : Fate) (writes : List α) :
    (fate.cut writes).Sublist writes := by
  cases fate with
  | patched => exact List.Sublist.refl _
  | lost => exact List.take_sublist _ _

/-- The targets that a reconcile gets to are runnable and belong to different
jobs. -/
theorem World.cut_targets (frozen : world.snapshot = some snapshot)
    (planned : world.plan platform = .startRunnableTargets targets) (fate : Fate) :
    (fate.cut targets).Pairwise (fun first second => first.jobName ≠ second.jobName) ∧
      ∀ target ∈ fate.cut targets,
        Runnable snapshot (world.derivedStatus platform).jobTable target := by
  have all : targets = _ := eq_targets_of_plan frozen planned
  subst all
  exact ⟨(pairwise_targets _ _).sublist (fate.cut_sublist _),
    fun target mem => runnable_of_mem ((fate.cut_sublist _).subset mem)⟩

/-- The outcomes of a reconcile. -/
inductive Reconciled (platform : WorkflowPlatform) (world : World) : World → Prop
  | unchanged : Reconciled platform world world
  | derived (loaded : world.snapshot = none → world.workflowRun.status.jobs = none)
      (planned : world.plan platform = .none) :
      Reconciled platform world (world.withStatus (world.derivedStatus platform))
  | rejected {message : String} (fresh : world.snapshot = none)
      (planned : world.plan platform = .initializeWorkflowRun) :
      Reconciled platform world
        (world.withStatus (rejectedStatus (world.derivedStatus platform) message))
  | frozen {find : String → Except LookupFailure ActionSpec} {snapshot : Snapshot}
      (fresh : world.snapshot = none) (uninitialized : world.workflowRun.status.jobs = none)
      (accepted : acceptSnapshot find world.workflowRun.jobs = .ok snapshot) :
      Reconciled platform world { world with snapshot := some snapshot }
  | initialized {snapshot : Snapshot}
      (accepted : world.snapshot = some snapshot ∨ world.snapshot = none ∧
        ∃ find, acceptSnapshot find world.workflowRun.jobs = .ok snapshot)
      (planned : world.plan platform = .initializeWorkflowRun) :
      Reconciled platform world ({ world with snapshot := some snapshot }.withStatus
        (initializedStatus platform world.workflowRun snapshot (world.derivedStatus platform)))
  | started {definitions : Definitions} {fate : Fate} {snapshot : Snapshot}
      {targets : List Target} (frozen : world.snapshot = some snapshot)
      (planned : world.plan platform = .startRunnableTargets targets) :
      Reconciled platform world (((fate.cut targets).foldl
          (startTarget platform definitions world.resources snapshot)
          (world, world.derivedStatus platform)).1.commit fate
        ((fate.cut targets).foldl (startTarget platform definitions world.resources snapshot)
          (world, world.derivedStatus platform)).2)
  | cancelled {fate : Fate} (loaded : world.snapshot = none → world.workflowRun.status.jobs = none)
      (planned : world.plan platform = .requestChildCancellation) :
      Reconciled platform world (world.cancelChildren fate (cancellations world.resources)
          (world.derivedStatus platform))

theorem Reconciled.of_commit {status : WorkflowRunStatus}
    (patched : Reconciled platform world (world.withStatus status)) (fate : Fate) :
    Reconciled platform world (world.commit fate status) := by
  cases fate with
  | patched => exact patched
  | lost => exact .unchanged

/-- A job table that is absent stays absent through a derivation. -/
theorem World.jobs_derivedStatus_eq_none_iff :
    (world.derivedStatus platform).jobs = none ↔ world.workflowRun.status.jobs = none := by
  have present : (world.derivedStatus platform).jobs.isSome =
      world.workflowRun.status.jobs.isSome := by
    rw [derivedStatus, Resources.jobs_deriveWorkflowRunStatus]
    exact passes_decidedStatus.present
  rw [← Option.isNone_iff_eq_none, ← Option.isNone_iff_eq_none, ← Option.not_isSome,
    ← Option.not_isSome, present]

/-- Only an uninitialized WorkflowRun is initialized. -/
theorem World.jobs_eq_none_of_initializeWorkflowRun
    (planned : world.plan platform = .initializeWorkflowRun) :
    world.workflowRun.status.jobs = none :=
  jobs_derivedStatus_eq_none_iff.mp (facts_of_plan planned).2.2

/-- Targets are planned only for an initialized WorkflowRun that is neither finished
nor to be cancelled. -/
theorem World.jobs_of_startRunnableTargets
    (planned : world.plan platform = .startRunnableTargets targets) :
    (world.derivedStatus platform).phase.isTerminal = false ∧
      world.workflowRun.cancelRequested = false ∧
      ∃ jobs, (world.derivedStatus platform).jobs = some jobs := by
  obtain ⟨live, wanted, present, _⟩ := facts_of_plan planned
  exact ⟨live, wanted, Option.ne_none_iff_exists'.mp present⟩

/-- A reconcile has one of the listed outcomes. -/
theorem reconciled_reconcile (platform : WorkflowPlatform) (definitions : Definitions)
    (fate : Fate) (world : World) :
    Reconciled platform world (reconcile platform definitions fate world) := by
  unfold reconcile
  split
  · exact .unchanged
  split
  · exact .unchanged
  rename_i broken
  have loaded : world.snapshot = none → world.workflowRun.status.jobs = none := by
    intro missing
    by_contra present
    exact broken ⟨missing, present⟩
  dsimp only
  split
  next planned =>
    exact (Reconciled.derived loaded planned).of_commit fate
  next snapshot planned frozen =>
    have same : { world with snapshot := some snapshot } = world := by rw [← frozen]
    have done := Reconciled.initialized (.inl frozen) planned
    rw [same] at done
    exact done.of_commit fate
  next planned fresh =>
    split
    · exact (Reconciled.rejected fresh planned).of_commit fate
    rename_i accepted
    split
    · exact .unchanged
    cases fate with
    | patched => exact .initialized (.inr ⟨fresh, _, accepted⟩) planned
    | lost => exact .frozen fresh (loaded fresh) accepted
  next planned frozen =>
    exact .started frozen planned
  · exact .unchanged
  next planned =>
    exact .cancelled loaded planned

/-! ## Actions of the environment -/

/-- What no action changes: the identity and the jobs of the WorkflowRun, and a request
for its cancellation. -/
structure SameRun (world next : World) : Prop where
  name : next.workflowRun.name = world.workflowRun.name
  uid : next.workflowRun.uid = world.workflowRun.uid
  jobs : next.workflowRun.jobs = world.workflowRun.jobs
  cancelRequested : world.workflowRun.cancelRequested = true →
    next.workflowRun.cancelRequested = true

/-- What only a reconcile changes. -/
structure Untouched (world next : World) : Prop extends SameRun world next where
  status : next.workflowRun.status = world.workflowRun.status
  snapshot : next.snapshot = world.snapshot
  log : next.log = world.log

/-- Every other action leaves status, snapshot and log alone. -/
theorem untouched_of_step {action : Action} (stepped : step platform action world = some next) :
    (∃ definitions fate, action = .reconcile definitions fate ∧
      next = reconcile platform definitions fate world) ∨ Untouched world next := by
  cases action with
  | reconcile definitions fate =>
    exact .inl ⟨definitions, fate, rfl, (Option.some.inj stepped).symm⟩
  | runProgress | workflowRunProgress =>
    obtain ⟨_, _, changed⟩ := Option.bind_eq_some_iff.mp stepped
    split at changed
    · cases changed
    · cases changed; exact .inr ⟨⟨rfl, rfl, rfl, id⟩, rfl, rfl, rfl⟩
  | deliverRun | deliverWorkflowRun | deleteRun | deleteWorkflowRun =>
    obtain ⟨_, _, rfl⟩ := Option.map_eq_some_iff.mp stepped
    exact .inr ⟨⟨rfl, rfl, rfl, id⟩, rfl, rfl, rfl⟩
  | foreignRun | foreignWorkflowRun =>
    simp only [step] at stepped
    split at stepped
    · cases stepped
    · cases stepped; exact .inr ⟨⟨rfl, rfl, rfl, id⟩, rfl, rfl, rfl⟩
  | cancel => cases stepped; exact .inr ⟨⟨rfl, rfl, rfl, fun _ => rfl⟩, rfl, rfl, rfl⟩
  | delete => cases stepped; exact .inr ⟨⟨rfl, rfl, rfl, id⟩, rfl, rfl, rfl⟩

/-! ## What a reconcile leaves alone -/

/-- The two worlds agree on the WorkflowRun and its snapshot. -/
structure SameOwner (world next : World) : Prop where
  workflowRun : next.workflowRun = world.workflowRun
  snapshot : next.snapshot = world.snapshot

theorem SameOwner.trans {middle : World} (first : SameOwner world middle)
    (second : SameOwner middle next) : SameOwner world next :=
  ⟨second.workflowRun.trans first.workflowRun, second.snapshot.trans first.snapshot⟩

theorem SameOwner.sameRun (same : SameOwner world next) :
    SameRun world next := by
  constructor
  · rw [same.workflowRun]
  · rw [same.workflowRun]
  · rw [same.workflowRun]
  · rw [same.workflowRun]
    exact id

/-- The stored status is no part of the identity. -/
theorem SameRun.commit (same : SameRun world next) (fate : Fate) (status : WorkflowRunStatus) :
    SameRun world (next.commit fate status) := by
  cases fate with
  | patched => exact ⟨same.name, same.uid, same.jobs, same.cancelRequested⟩
  | lost => exact same

/-- Handling a target writes children only. -/
theorem sameOwner_startTarget (state : World × WorkflowRunStatus) (target : Target) :
    SameOwner state.1 (startTarget platform definitions resources snapshot state target).1 := by
  cases target with
  | step =>
    rw [startTarget]
    split
    · exact ⟨rfl, rfl⟩
    · exact ⟨rfl, rfl⟩
    · dsimp only [World.createRun]
      split <;> exact ⟨rfl, rfl⟩
  | workflowCall =>
    rw [startTarget]
    split
    · exact ⟨rfl, rfl⟩
    · dsimp only [World.createWorkflowRun]
      split <;> exact ⟨rfl, rfl⟩

theorem sameOwner_foldl_startTarget (targets : List Target) (state : World × WorkflowRunStatus) :
    SameOwner state.1
      (targets.foldl (startTarget platform definitions resources snapshot) state).1 := by
  induction targets generalizing state with
  | nil => exact ⟨rfl, rfl⟩
  | cons target rest ih => exact (sameOwner_startTarget state target).trans (ih _)

theorem sameOwner_foldl_requestCancellation (requests : List Cancellation) (world : World) :
    SameOwner world (requests.foldl World.requestCancellation world) ∧
      (requests.foldl World.requestCancellation world).log = world.log := by
  induction requests generalizing world with
  | nil => exact ⟨⟨rfl, rfl⟩, rfl⟩
  | cons request rest ih =>
    have first : SameOwner world (world.requestCancellation request) ∧
        (world.requestCancellation request).log = world.log := by
      cases request <;> exact ⟨⟨rfl, rfl⟩, rfl⟩
    have others := ih (world.requestCancellation request)
    exact ⟨first.1.trans others.1, others.2.trans first.2⟩

/-- Requests for cancellation leave snapshot and log alone, and store the derived
status if anything. -/
theorem exists_cancelChildren_eq (platform : WorkflowPlatform) (world : World) (fate : Fate) :
    ∃ patched reached, SameOwner world patched ∧ patched.log = world.log ∧
      world.cancelChildren fate (cancellations world.resources) (world.derivedStatus platform) =
        patched.commit reached (world.derivedStatus platform) := by
  obtain ⟨same, log⟩ := sameOwner_foldl_requestCancellation
    ((fate.cut (cancellations world.resources)).takeWhile world.stores) world
  unfold World.cancelChildren
  dsimp only
  split
  · exact ⟨_, fate, same, log, rfl⟩
  · exact ⟨_, .lost 0, same, log, rfl⟩

/-- No reconcile changes the identity or the jobs of the WorkflowRun. -/
theorem Reconciled.sameRun (reconciled : Reconciled platform world next) : SameRun world next := by
  cases reconciled with
  | unchanged | derived | rejected | frozen | initialized => exact ⟨rfl, rfl, rfl, id⟩
  | @started definitions fate snapshot targets frozen planned =>
    exact (sameOwner_foldl_startTarget (fate.cut targets)
      (world, world.derivedStatus platform)).sameRun.commit fate _
  | @cancelled fate loaded planned =>
    obtain ⟨_, reached, same, _, outcome⟩ := exists_cancelChildren_eq platform world fate
    rw [outcome]
    exact same.sameRun.commit reached _

/-! ## Versions -/

section Versions

variable {α : Type} {objects : Table String (Watched (Option α))} {version : α}

/-- Every version of an object that is listed, stored or still to be delivered. -/
def versionsOf (objects : Table String (Watched (Option α))) : List α :=
  objects.entries.flatMap fun entry => entry.2.versions.reduceOption

theorem mem_versionsOf :
    version ∈ versionsOf objects ↔
      ∃ name object, objects.lookup name = some object ∧ some version ∈ object.versions := by
  unfold versionsOf
  rw [List.mem_flatMap]
  constructor
  · rintro ⟨entry, mem, inside⟩
    exact ⟨entry.1, entry.2, Table.mem_entries_iff.mp mem, List.reduceOption_mem_iff.mp inside⟩
  · rintro ⟨name, object, found, inside⟩
    exact ⟨⟨name, object⟩, Table.mem_entries_iff.mpr found, List.reduceOption_mem_iff.mpr inside⟩

theorem mem_versionsOf_of_mem_listed (mem : version ∈ listed objects) :
    version ∈ versionsOf objects := by
  obtain ⟨entry, inside, cached⟩ := List.mem_filterMap.mp mem
  refine mem_versionsOf.mpr ⟨entry.1, entry.2, Table.mem_entries_iff.mp inside, ?_⟩
  rw [← cached]
  exact entry.2.cached_mem_versions

theorem mem_versionsOf_of_stored (found : stored objects name = some version) :
    version ∈ versionsOf objects := by
  obtain ⟨object, present, latest⟩ := Option.bind_eq_some_iff.mp found
  refine mem_versionsOf.mpr ⟨name, object, present, ?_⟩
  rw [← latest]
  exact object.persisted_mem_versions

/-- Storing a version adds that version only. -/
theorem mem_versionsOf_storeVersion {stored : Option α}
    (mem : version ∈ versionsOf (storeVersion objects name stored)) :
    version ∈ versionsOf objects ∨ stored = some version := by
  obtain ⟨other, object, found, inside⟩ := mem_versionsOf.mp mem
  unfold storeVersion at found
  rcases Table.lookup_insert_cases found with ⟨rfl, rfl⟩ | ⟨_, found⟩
  · rcases Watched.mem_versions_write.mp inside with old | new
    · cases present : objects.lookup other with
      | none =>
        rw [present] at old
        cases List.mem_singleton.mp old
      | some existing =>
        rw [present] at old
        exact .inl (mem_versionsOf.mpr ⟨other, existing, present, old⟩)
    · exact .inr new.symm
  · exact .inl (mem_versionsOf.mpr ⟨other, object, found, inside⟩)

/-- A delivery adds no version. -/
theorem mem_versionsOf_of_deliverVersion {next : Table String (Watched (Option α))}
    (delivered : deliverVersion objects name = some next) (mem : version ∈ versionsOf next) :
    version ∈ versionsOf objects := by
  obtain ⟨object, found, mapped⟩ := Option.bind_eq_some_iff.mp delivered
  obtain ⟨_, moved, rfl⟩ := Option.map_eq_some_iff.mp mapped
  obtain ⟨other, after, stored, inside⟩ := mem_versionsOf.mp mem
  rcases Table.lookup_insert_cases stored with ⟨rfl, rfl⟩ | ⟨_, stored⟩
  · exact mem_versionsOf.mpr ⟨other, object, found, Watched.mem_versions_of_deliver moved inside⟩
  · exact mem_versionsOf.mpr ⟨other, after, stored, inside⟩

end Versions

/-! ## Children that stay -/

/-- Whatever is stored in the first world is stored in the second. -/
structure Survives (world next : World) : Prop where
  runs : ∀ {name : String}, (stored world.runs name).isSome = true →
    (stored next.runs name).isSome = true
  workflowRuns : ∀ {name : String}, (stored world.workflowRuns name).isSome = true →
    (stored next.workflowRuns name).isSome = true

namespace Survives

theorem refl (world : World) : Survives world world := ⟨id, id⟩

theorem trans {middle : World} (first : Survives world middle) (second : Survives middle next) :
    Survives world next :=
  ⟨fun present => second.runs (first.runs present),
    fun present => second.workflowRuns (first.workflowRuns present)⟩

/-- Storing a version keeps the other objects and puts one where it is stored. -/
theorem isSome_storeVersion {objects : Table String (Watched (Option α))} {other : String}
    {version : Option α} (kept : (stored objects name).isSome = true → version.isSome = true)
    (present : (stored objects other).isSome = true) :
    (stored (storeVersion objects name version) other).isSome = true := by
  by_cases same : other = name
  · subst same
    rw [stored_storeVersion_self]
    exact kept present
  · rw [stored_storeVersion_ne same]
    exact present

theorem createRun (world : World) (target : StepTarget) (statuses : JobStatuses)
    (run : ChildRun) : Survives world (world.createRun target statuses run) := by
  unfold World.createRun
  split
  · exact refl world
  · exact ⟨isSome_storeVersion fun _ => rfl, id⟩

theorem createWorkflowRun (world : World) (jobName : String) (statuses : JobStatuses)
    (child : WorkflowRun) : Survives world (world.createWorkflowRun jobName statuses child) := by
  unfold World.createWorkflowRun
  split
  · exact refl world
  · exact ⟨id, isSome_storeVersion fun _ => rfl⟩

theorem startTarget (state : World × WorkflowRunStatus) (target : Target) :
    Survives state.1 (startTarget platform definitions resources snapshot state target).1 := by
  cases target with
  | step =>
    rw [Workflow.startTarget]
    split
    · exact ⟨id, id⟩
    · exact refl _
    · exact createRun _ _ _ _
  | workflowCall =>
    rw [Workflow.startTarget]
    split
    · exact ⟨id, id⟩
    · exact createWorkflowRun _ _ _ _

theorem foldl {f : World → α → World} (each : ∀ world item, Survives world (f world item))
    (items : List α) (world : World) : Survives world (items.foldl f world) := by
  induction items generalizing world with
  | nil => exact refl world
  | cons item rest ih => exact (each world item).trans (ih _)

theorem foldl_startTarget (targets : List Target) (state : World × WorkflowRunStatus) :
    Survives state.1 (targets.foldl
      (Workflow.startTarget platform definitions resources snapshot) state).1 := by
  induction targets generalizing state with
  | nil => exact refl _
  | cons target rest ih => exact (startTarget state target).trans (ih _)

theorem requestCancellation (world : World) (request : Cancellation) :
    Survives world (world.requestCancellation request) := by
  cases request with
  | run => exact ⟨isSome_storeVersion fun present => by rwa [Option.isSome_map], id⟩
  | workflowRun => exact ⟨id, isSome_storeVersion fun present => by rwa [Option.isSome_map]⟩

theorem commit (survives : Survives world next) (fate : Fate) (status : WorkflowRunStatus) :
    Survives world (next.commit fate status) := by
  cases fate with
  | patched => exact ⟨survives.runs, survives.workflowRuns⟩
  | lost => exact survives

/-- A reconcile deletes nothing. -/
theorem reconciled (outcome : Reconciled platform world next) :
    Survives world next := by
  cases outcome with
  | unchanged => exact refl _
  | derived | rejected | frozen | initialized => exact ⟨id, id⟩
  | @started definitions fate snapshot targets frozen planned =>
    exact (foldl_startTarget (fate.cut targets) (world, world.derivedStatus platform)).commit fate _
  | @cancelled fate loaded planned =>
    unfold World.cancelChildren
    dsimp only
    split
    · exact (foldl requestCancellation _ world).commit fate _
    · exact foldl requestCancellation _ world

end Survives

/-- The deletion of a child. -/
def Action.deletes : Action → Bool
  | .deleteRun _ | .deleteWorkflowRun _ => true
  | _ => false

/-- Without deletions whatever is stored stays stored. -/
theorem survives_of_step {action : Action} (keeps : action.deletes = false)
    (stepped : step platform action world = some next) :
    Survives world next := by
  cases action with
  | reconcile definitions fate =>
    cases stepped
    exact .reconciled (reconciled_reconcile platform definitions fate world)
  | runProgress =>
    obtain ⟨_, _, changed⟩ := Option.bind_eq_some_iff.mp stepped
    split at changed
    · cases changed
    · cases changed; exact ⟨Survives.isSome_storeVersion fun _ => rfl, id⟩
  | workflowRunProgress =>
    obtain ⟨_, _, changed⟩ := Option.bind_eq_some_iff.mp stepped
    split at changed
    · cases changed
    · cases changed; exact ⟨id, Survives.isSome_storeVersion fun _ => rfl⟩
  | deliverRun =>
    obtain ⟨_, delivered, rfl⟩ := Option.map_eq_some_iff.mp stepped
    refine ⟨fun present => ?_, id⟩
    rwa [stored_of_deliverVersion delivered]
  | deliverWorkflowRun =>
    obtain ⟨_, delivered, rfl⟩ := Option.map_eq_some_iff.mp stepped
    refine ⟨id, fun present => ?_⟩
    rwa [stored_of_deliverVersion delivered]
  | deleteRun | deleteWorkflowRun => cases keeps
  | foreignRun =>
    simp only [step] at stepped
    split at stepped
    · cases stepped
    · cases stepped; exact ⟨Survives.isSome_storeVersion fun _ => rfl, id⟩
  | foreignWorkflowRun =>
    simp only [step] at stepped
    split at stepped
    · cases stepped
    · cases stepped; exact ⟨id, Survives.isSome_storeVersion fun _ => rfl⟩
  | cancel | delete => cases stepped; exact ⟨id, id⟩

end Kruntimes.Workflow
