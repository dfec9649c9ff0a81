import Kruntimes.Workflow.System

/-!
# What a derivation can do to a job

Every pass of `deriveWorkflowRunStatus` changes each job for one of six reasons,
which `JobChange` lists together with what the pass has seen.  A derivation is a
sequence of passes, so a property of job statuses that every reason preserves
holds of a derived status when it holds of the stored one.
-/

namespace Kruntimes.Workflow

open Api Data Transition

section

variable (platform : WorkflowPlatform) (resources : Resources)

/-- The reasons for which a pass over `jobs` changes the status of one job. -/
inductive JobChange (jobs : JobStatuses) (jobName : String) (job : JobStatus) : JobStatus → Prop
  | malformed {key message : String} {run : ChildRun} {phase : StepPhase}
      (child : resources.childRuns.lookup key = some run) (labelled : run.jobName = jobName)
      (terminal : terminalRunStepPhase run.phase = some phase)
      (unreadable : workflowEnvironmentOutputs platform run.outputs = .error message) :
      JobChange jobs jobName job
        (job.onStep run.stepName fun step => { step with phase := .failed })
  | projected {key : String} {run : ChildRun} {phase : StepPhase} {environment : Labels}
      (child : resources.childRuns.lookup key = some run) (labelled : run.jobName = jobName)
      (terminal : terminalRunStepPhase run.phase = some phase)
      (readable : workflowEnvironmentOutputs platform run.outputs = .ok environment) :
      JobChange jobs jobName job (job.onStep run.stepName (projectOntoStep run phase))
  | actionStep {snapshot : Snapshot} {jobSpec : JobSpec} {spec : StepSpec} {index : Nat}
      {step : StepStatus} (frozen : resources.snapshot = some snapshot)
      (specified : snapshot.jobs.lookup jobName = some jobSpec)
      (listed : jobSpec.steps[index]? = some spec) (calls : spec.uses ≠ "")
      (found : job.steps[index]? = some step) :
      JobChange jobs jobName job { job with
          steps := job.steps.set index (deriveActionCallStatus snapshot.actions jobName spec
            step (workflowRunStepContext jobs jobName)).1 }
  | call : JobChange jobs jobName job (decideCall platform resources.childWorkflows jobName job).1
  | decided : JobChange jobs jobName job
      (decideJob resources.jobs resources.childRuns jobName job).1
  | skipped (live : resources.workflowRun.cancelRequested = false)
      (waits : job.phase.isWaiting = true)
      (blocked : hasFailedOrSkippedDependency job jobs = true) :
      JobChange jobs jobName job { job with phase := .skipped }

/-- One pass: every job is left alone or changed for a reason. -/
structure Pass (before after : JobStatuses) : Prop where
  keys : after.keys = before.keys
  change : ∀ {jobName : String} {next : JobStatus}, after.lookup jobName = some next →
    ∃ job, before.lookup jobName = some job ∧
      (next = job ∨ JobChange platform resources before jobName job next)

/-- The effect of passes on a whole status. -/
structure Passes (before after : WorkflowRunStatus) : Prop where
  present : after.jobs.isSome = before.jobs.isSome
  phase : after.phase = before.phase
  jobs : Relation.ReflTransGen (Pass platform resources) before.jobTable after.jobTable

end

variable {platform : WorkflowPlatform} {resources : Resources}

/-- A job in front of a pass is left alone or changed. -/
theorem Pass.forward {before after : JobStatuses} (pass : Pass platform resources before after)
    {jobName : String} {job : JobStatus} (found : before.lookup jobName = some job) :
    ∃ next, after.lookup jobName = some next ∧
      (next = job ∨ JobChange platform resources before jobName job next) := by
  have mem : jobName ∈ after := by
    rw [AList.mem_keys, pass.keys, ← AList.mem_keys]
    exact AList.lookup_isSome.mp (by rw [found]; rfl)
  obtain ⟨next, present⟩ := Option.isSome_iff_exists.mp (AList.lookup_isSome.mpr mem)
  obtain ⟨_, stored, change⟩ := pass.change present
  cases found.symm.trans stored
  exact ⟨next, present, change⟩

/-- Change one job for a reason. -/
theorem Pass.of_modify {jobs : JobStatuses} {jobName : String} {f : JobStatus → JobStatus}
    (reason : ∀ job, jobs.lookup jobName = some job →
      JobChange platform resources jobs jobName job (f job)) :
    Pass platform resources jobs (jobs.modify jobName f) where
  keys := Table.keys_modify _ _ _
  change := by
    intro other next found
    by_cases same : other = jobName
    · subst same
      rw [Table.lookup_modify_self, Option.map_eq_some_iff] at found
      obtain ⟨job, stored, rfl⟩ := found
      exact ⟨job, stored, .inr (reason job stored)⟩
    · rw [Table.lookup_modify_ne same] at found
      exact ⟨next, found, .inl rfl⟩

/-- Change every job for a reason. -/
theorem Pass.of_mapValues {jobs : JobStatuses} {f : String → JobStatus → JobStatus}
    (reason : ∀ jobName job, JobChange platform resources jobs jobName job (f jobName job)) :
    Pass platform resources jobs (jobs.mapValues f) where
  keys := Table.keys_mapValues _ _
  change := by
    intro jobName next found
    rw [Table.lookup_mapValues, Option.map_eq_some_iff] at found
    obtain ⟨job, stored, rfl⟩ := found
    exact ⟨job, stored, .inr (reason jobName job)⟩

section Tables

variable (status : WorkflowRunStatus)

include status

@[simp]
theorem WorkflowRunStatus.jobTable_mapJobs {f : JobStatuses → JobStatuses} (empty : f ∅ = ∅) :
    (status.mapJobs f).jobTable = f status.jobTable := by
  unfold mapJobs jobTable
  cases status.jobs with
  | none => exact empty.symm
  | some => rfl

@[simp]
theorem WorkflowRunStatus.isSome_jobs_mapJobs (f : JobStatuses → JobStatuses) :
    (status.mapJobs f).jobs.isSome = status.jobs.isSome := by
  unfold mapJobs
  cases status.jobs <;> rfl

@[simp]
theorem WorkflowRunStatus.jobTable_modifyJob (jobName : String) (f : JobStatus → JobStatus) :
    (status.modifyJob jobName f).jobTable = status.jobTable.modify jobName f :=
  status.jobTable_mapJobs rfl

@[simp]
theorem WorkflowRunStatus.isSome_jobs_modifyJob (jobName : String) (f : JobStatus → JobStatus) :
    (status.modifyJob jobName f).jobs.isSome = status.jobs.isSome :=
  status.isSome_jobs_mapJobs _

end Tables

namespace Passes

variable {before middle after : WorkflowRunStatus}

theorem refl (status : WorkflowRunStatus) : Passes platform resources status status :=
  ⟨rfl, rfl, .refl⟩

theorem trans (first : Passes platform resources before middle)
    (second : Passes platform resources middle after) : Passes platform resources before after :=
  ⟨second.present.trans first.present, second.phase.trans first.phase, first.jobs.trans second.jobs⟩

/-- A fold of passes. -/
theorem foldl {α : Type} {items : List α} {f : WorkflowRunStatus → α → WorkflowRunStatus}
    (each : ∀ item ∈ items, ∀ status, Passes platform resources status (f status item))
    (status : WorkflowRunStatus) : Passes platform resources status (items.foldl f status) := by
  induction items generalizing status with
  | nil => exact refl status
  | cons item rest ih =>
    exact (each item (.head _) status).trans
      (ih (fun other mem => each other (.tail _ mem)) _)

/-- Messages do not matter. -/
theorem report (passes : Passes platform resources before after) (message : String) :
    Passes platform resources before (after.report message) := by
  unfold WorkflowRunStatus.report
  split
  · exact passes
  · exact ⟨passes.present, passes.phase, passes.jobs⟩

/-- One job is changed for a reason. -/
theorem modifyJob {status : WorkflowRunStatus} {jobName : String} {f : JobStatus → JobStatus}
    (reason : ∀ job, status.jobTable.lookup jobName = some job →
      JobChange platform resources status.jobTable jobName job (f job)) :
    Passes platform resources status (status.modifyJob jobName f) where
  present := status.isSome_jobs_modifyJob jobName f
  phase := rfl
  jobs := by
    rw [status.jobTable_modifyJob]
    exact .single (Pass.of_modify reason)

end Passes

/-! ## What a change leaves alone -/

/-- The parts of a step status that identify it. -/
def StepStatus.frame (step : StepStatus) : String × List String :=
  (step.name, step.actionSteps.map ActionStepStatus.name)

/-- The parts of a job status that are fixed when it is initialized, and the name of
its call. -/
def JobStatus.frame (job : JobStatus) : List String × String × List (String × List String) :=
  (job.pre, job.workflowRunName, job.steps.map StepStatus.frame)

theorem JobStatus.frame_onStep {name : String} {change : StepStatus → StepStatus}
    (keeps : ∀ step, (change step).frame = step.frame) (job : JobStatus) :
    (job.onStep name change).frame = job.frame := by
  unfold frame onStep
  rw [map_modifyFirst keeps]

theorem frame_projectOntoStep (run : ChildRun) (phase : StepPhase) (step : StepStatus) :
    (projectOntoStep run phase step).frame = step.frame := by
  unfold projectOntoStep
  split
  · unfold StepStatus.onActionStep StepStatus.frame
    rw [map_modifyFirst]
    intro inner
    unfold recordTerminalActionRunStatus
    split <;> rfl
  · unfold recordTerminalRunStatus
    split <;> rfl

section ActionCalls

variable (actions : Table String ActionSnapshot) (jobName : String) (spec : StepSpec)
  (step : StepStatus)

include actions jobName spec step

/-- An Action call is left alone, has failed, or is decided by its outputs. -/
theorem deriveActionCallStatus_cases :
    (∀ ctx, (deriveActionCallStatus actions jobName spec step ctx).1 = step) ∨
    (∀ ctx, (deriveActionCallStatus actions jobName spec step ctx).1 =
      { step with phase := .failed }) ∨
    ∃ action : ActionSpec, ∀ ctx, (deriveActionCallStatus actions jobName spec step ctx).1 =
      match resolveActionOutputs action step.actionSteps spec.withValues ctx with
      | .error _ => { step with phase := .failed }
      | .ok outputs =>
        { step with
          phase := .succeeded
          outputs := withEnvironmentOutputs outputs step.actionSteps } := by
  unfold deriveActionCallStatus
  split
  · exact .inl fun _ => rfl
  dsimp only
  split
  · exact .inr (.inl fun _ => rfl)
  rename_i action _
  split
  · exact .inr (.inl fun _ => rfl)
  split
  · exact .inr (.inl fun _ => rfl)
  · exact .inl fun _ => rfl
  · exact .inl fun _ => rfl
  · refine .inr (.inr ⟨action.spec, fun ctx => ?_⟩)
    cases resolveActionOutputs action.spec step.actionSteps spec.withValues ctx <;> rfl

/-- An Action call that is undecided keeps everything but its phase and outputs. -/
theorem deriveActionCallStatus_eq (ctx : ResolveContext) :
    ∃ phase outputs, (deriveActionCallStatus actions jobName spec step ctx).1 =
      { step with phase := phase, outputs := outputs } := by
  rcases deriveActionCallStatus_cases actions jobName spec step with same | failed | ⟨_, decided⟩
  · exact ⟨step.phase, step.outputs, same ctx⟩
  · exact ⟨.failed, step.outputs, failed ctx⟩
  rw [decided]
  split
  · exact ⟨.failed, step.outputs, rfl⟩
  · exact ⟨.succeeded, _, rfl⟩

end ActionCalls

/-- A call is decided only while it runs. -/
theorem decideCall_cases (childWorkflows : Table String WorkflowRun) (jobName : String)
    (job : JobStatus) :
    (decideCall platform childWorkflows jobName job).1 = job ∨
      job.phase = .running ∧ job.workflowRunName ≠ "" ∧
        ∃ child, childWorkflows.lookup job.workflowRunName = some child ∧
          child.status.phase.isTerminal = true ∧
          ((decideCall platform childWorkflows jobName job).1 = { job with phase := .failed } ∨
            ∃ outputs, resolveWorkflowCallOutputs platform child = .ok outputs ∧
              (decideCall platform childWorkflows jobName job).1 =
                { job with phase := .succeeded, outputs := outputs }) := by
  unfold decideCall
  split
  · exact .inl rfl
  rename_i running
  rw [not_or, not_not] at running
  split
  · exact .inl rfl
  rename_i child found
  split
  next succeeded =>
    refine .inr ⟨running.2, running.1, child, found, by rw [succeeded]; rfl, ?_⟩
    split
    · exact .inl rfl
    next outputs resolved =>
      exact .inr ⟨outputs, resolved, rfl⟩
  next failed =>
    exact .inr ⟨running.2, running.1, child, found, by rw [failed]; rfl, .inl rfl⟩
  next cancelled =>
    exact .inr ⟨running.2, running.1, child, found, by rw [cancelled]; rfl, .inl rfl⟩
  · exact .inl rfl

/-- The steps make a job fail or succeed. -/
theorem terminalJobPhase_eq_some {job : JobStatus} {phase : JobPhase}
    (terminal : terminalJobPhase job = some phase) : phase = .failed ∨ phase = .succeeded := by
  unfold terminalJobPhase at terminal
  split at terminal
  · cases terminal
  split at terminal
  · cases terminal; exact .inl rfl
  split at terminal
  · cases terminal; exact .inr rfl
  · cases terminal

/-- A job is decided from its steps only while it runs. -/
theorem decideJob_cases (jobs : JobSpecs) (childRuns : Table String ChildRun)
    (jobName : String) (job : JobStatus) :
    (decideJob jobs childRuns jobName job).1 = job ∨ job.phase = .running ∧
        ((decideJob jobs childRuns jobName job).1 = { job with phase := .failed } ∨
          terminalJobPhase job = some .succeeded ∧ ∃ outputs artifacts,
            (decideJob jobs childRuns jobName job).1 =
              { job with phase := .succeeded, outputs := outputs, artifacts := artifacts }) := by
  unfold decideJob
  split
  · exact .inl rfl
  rename_i running
  rw [not_not] at running
  split
  · exact .inl rfl
  rename_i terminal
  rcases terminalJobPhase_eq_some terminal with rfl | rfl
  · exact .inr ⟨running, .inl rfl⟩
  rw [if_neg (not_not.mpr rfl)]
  split
  · exact .inr ⟨running, .inl rfl⟩
  · exact .inr ⟨running, .inr ⟨terminal, _, _, rfl⟩⟩

namespace JobChange

variable {jobs : JobStatuses} {jobName : String} {job next : JobStatus}

section Change

variable (change : JobChange platform resources jobs jobName job next)

include change

/-- A change keeps what identifies the job, its steps and its call. -/
theorem frame : next.frame = job.frame := by
  cases change with
  | malformed =>
    apply JobStatus.frame_onStep
    intro step
    rfl
  | projected =>
    apply JobStatus.frame_onStep
    intro step
    exact frame_projectOntoStep _ _ step
  | @actionStep snapshot jobSpec spec i step frozen specified listed calls found =>
    obtain ⟨phase, outputs, derived⟩ := deriveActionCallStatus_eq snapshot.actions jobName
      spec step (workflowRunStepContext jobs jobName)
    have kept : (job.steps.set i { step with phase := phase, outputs := outputs }).map
        StepStatus.frame = job.steps.map StepStatus.frame := by
      obtain ⟨_, rfl⟩ := List.getElem?_eq_some_iff.mp found
      have within : i < (job.steps.map StepStatus.frame).length := by
        rwa [List.length_map]
      have same : StepStatus.frame { job.steps[i] with phase := phase, outputs := outputs } =
            (job.steps.map StepStatus.frame)[i] := by
        rw [List.getElem_map]
        rfl
      rw [List.map_set, same, List.set_getElem_self]
    rw [derived]
    unfold JobStatus.frame
    rw [kept]
  | call =>
    rcases decideCall_cases resources.childWorkflows jobName job with
      same | ⟨_, _, _, _, _, failed | ⟨_, _, succeeded⟩⟩
    · rw [same]
    · rw [failed]; rfl
    · rw [succeeded]; rfl
  | decided =>
    rcases decideJob_cases resources.jobs resources.childRuns jobName job with
      same | ⟨_, failed | ⟨_, _, _, succeeded⟩⟩
    · rw [same]
    · rw [failed]; rfl
    · rw [succeeded]; rfl
  | skipped => rfl

/-- How a change moves the phase of a job. -/
theorem phase :
    next.phase = job.phase ∧ next.outputs = job.outputs ∧ next.artifacts = job.artifacts ∨
      job.phase = .running ∧ next.phase = .failed ∨
      job.phase = .running ∧ next.phase = .succeeded ∨
      resources.workflowRun.cancelRequested = false ∧ job.phase.isWaiting = true ∧
        next.phase = .skipped := by
  cases change with
  | malformed | projected | actionStep => exact .inl ⟨rfl, rfl, rfl⟩
  | call =>
    rcases decideCall_cases resources.childWorkflows jobName job with
      same | ⟨running, _, _, _, _, failed | ⟨_, _, succeeded⟩⟩
    · rw [same]; exact .inl ⟨rfl, rfl, rfl⟩
    · rw [failed]; exact .inr (.inl ⟨running, rfl⟩)
    · rw [succeeded]; exact .inr (.inr (.inl ⟨running, rfl⟩))
  | decided =>
    rcases decideJob_cases resources.jobs resources.childRuns jobName job with
      same | ⟨running, failed | ⟨_, _, _, succeeded⟩⟩
    · rw [same]; exact .inl ⟨rfl, rfl, rfl⟩
    · rw [failed]; exact .inr (.inl ⟨running, rfl⟩)
    · rw [succeeded]; exact .inr (.inr (.inl ⟨running, rfl⟩))
  | skipped live waits => exact .inr (.inr (.inr ⟨live, waits, rfl⟩))

/-- No pass starts a job. -/
theorem eq_running (running : next.phase = .running) : job.phase = .running := by
  rcases change.phase with ⟨same, _⟩ | ⟨_, failed⟩ | ⟨_, succeeded⟩ | ⟨_, _, skipped⟩
  · rw [← same, running]
  · rw [failed] at running; cases running
  · rw [succeeded] at running; cases running
  · rw [skipped] at running; cases running

/-- A finished job keeps its phase and what it exposes. -/
theorem of_isTerminal (terminal : job.phase.isTerminal = true) :
    next.phase = job.phase ∧ next.outputs = job.outputs ∧ next.artifacts = job.artifacts := by
  rcases change.phase with same | ⟨running, _⟩ | ⟨running, _⟩ | ⟨_, waits, _⟩
  · exact same
  · rw [running] at terminal; cases terminal
  · rw [running] at terminal; cases terminal
  · rw [JobPhase.isTerminal_of_isWaiting waits] at terminal; cases terminal

end Change

end JobChange

/-! ## The passes of the derivation -/

theorem passes_projectChildRunStatus {key : String} {run : ChildRun}
    (child : resources.childRuns.lookup key = some run) (status : WorkflowRunStatus) :
    Passes platform resources status (projectChildRunStatus platform status run) := by
  unfold projectChildRunStatus
  split
  · exact Passes.refl status
  rename_i phase terminal
  split
  · exact Passes.refl status
  split
  next unreadable =>
    have changed : Passes platform resources status
        (status.modifyJob run.jobName (JobStatus.onStep run.stepName fun step =>
          { step with phase := .failed })) :=
      Passes.modifyJob fun job _ => JobChange.malformed child rfl terminal unreadable
    exact ⟨changed.present, changed.phase, changed.jobs⟩
  next readable =>
    exact Passes.modifyJob fun job _ => JobChange.projected child rfl terminal readable

theorem passes_deriveStepStatusesFromChildRuns (status : WorkflowRunStatus) :
    Passes platform resources status
      (deriveStepStatusesFromChildRuns platform resources.childRuns status) := by
  apply Passes.foldl
  intro run mem
  obtain ⟨_, _, child⟩ := List.mem_filterMap.mp mem
  exact passes_projectChildRunStatus child

theorem passes_deriveActionStep {snapshot : Snapshot} {jobName : String} {jobSpec : JobSpec}
    (frozen : resources.snapshot = some snapshot)
    (specified : snapshot.jobs.lookup jobName = some jobSpec) {indexed : StepSpec × Nat}
    (listed : jobSpec.steps[indexed.2]? = some indexed.1) (status : WorkflowRunStatus) :
    Passes platform resources status
      (deriveActionStep snapshot.actions jobName status indexed) := by
  unfold deriveActionStep
  split
  · exact Passes.refl status
  rename_i found
  split
  · exact Passes.refl status
  rename_i calls
  apply Passes.report
  apply Passes.modifyJob
  intro job stored
  rw [status.job?_eq, stored] at found
  exact JobChange.actionStep frozen specified listed calls found

theorem passes_deriveActionStepStatuses (status : WorkflowRunStatus) :
    Passes platform resources status (deriveActionStepStatuses resources.snapshot status) := by
  unfold deriveActionStepStatuses
  split
  · exact Passes.refl status
  rename_i snapshot frozen
  apply Passes.foldl
  intro jobName _ status
  unfold deriveActionStepsForJob
  cases specified : snapshot.jobs.lookup jobName with
  | none => exact Passes.refl status
  | some =>
    apply Passes.foldl
    intro indexed mem
    exact passes_deriveActionStep frozen specified (List.mk_mem_zipIdx_iff_getElem?.mp mem)

theorem passes_decideJobs {decide : String → JobStatus → JobStatus × String}
    (reason : ∀ jobs jobName job,
      JobChange platform resources jobs jobName job (decide jobName job).1)
    (status : WorkflowRunStatus) :
    Passes platform resources status (status.decideJobs decide) := by
  have mapped : Passes platform resources status
      (status.mapJobs fun jobs => jobs.mapValues fun jobName job => (decide jobName job).1) :=
    ⟨status.isSome_jobs_mapJobs _, rfl, by
      rw [status.jobTable_mapJobs rfl]
      exact .single (Pass.of_mapValues fun jobName job => reason _ jobName job)⟩
  apply mapped.trans
  apply Passes.foldl
  intro jobName _ other
  exact (Passes.refl other).report _

theorem pass_skipJob (live : resources.workflowRun.cancelRequested = false)
    (jobs : JobStatuses) (jobName : String) :
    Relation.ReflTransGen (Pass platform resources) jobs (skipJob jobs jobName) := by
  unfold skipJob
  split
  · exact .refl
  rename_i found
  split
  next blocked =>
    rw [Bool.and_eq_true] at blocked
    apply Relation.ReflTransGen.single
    apply Pass.of_modify
    intro job stored
    cases found.symm.trans stored
    exact JobChange.skipped live blocked.1 blocked.2
  · exact .refl

theorem pass_skipRounds (live : resources.workflowRun.cancelRequested = false)
    (jobNames : List String) (rounds : Nat) (jobs : JobStatuses) :
    Relation.ReflTransGen (Pass platform resources) jobs (skipRounds jobNames rounds jobs) := by
  have round : ∀ (names : List String) (jobs : JobStatuses),
      Relation.ReflTransGen (Pass platform resources) jobs (names.foldl skipJob jobs) := by
    intro names
    induction names with
    | nil => exact fun _ => .refl
    | cons name rest ih => exact fun jobs => (pass_skipJob live jobs name).trans (ih _)
  induction rounds generalizing jobs with
  | zero => exact .refl
  | succ rounds ih =>
    rw [skipRounds]
    split
    · exact .refl
    · exact (round jobNames jobs).trans (ih _)

theorem deriveSkippedJobStatuses_empty : deriveSkippedJobStatuses ∅ = ∅ := rfl

/-- The status in front of the last pass. -/
def Resources.decidedStatus (platform : WorkflowPlatform) (resources : Resources) :
    WorkflowRunStatus :=
  if resources.workflowRun.cancelRequested then resources.projectedStatus platform
  else (resources.projectedStatus platform).mapJobs deriveSkippedJobStatuses

theorem passes_projectedStatus :
    Passes platform resources resources.workflowRun.status
      (resources.projectedStatus platform) := by
  have steps : Passes platform resources _ _ :=
    passes_deriveStepStatusesFromChildRuns resources.workflowRun.status
  have actions := steps.trans (passes_deriveActionStepStatuses _)
  have calls := actions.trans (passes_decideJobs (fun _ _ _ => JobChange.call) _)
  exact calls.trans (passes_decideJobs (fun _ _ _ => JobChange.decided) _)

theorem passes_decidedStatus :
    Passes platform resources resources.workflowRun.status (resources.decidedStatus platform) := by
  unfold Resources.decidedStatus
  split
  · exact passes_projectedStatus
  rename_i live
  apply passes_projectedStatus.trans
  refine ⟨WorkflowRunStatus.isSome_jobs_mapJobs _ _, rfl, ?_⟩
  rw [WorkflowRunStatus.jobTable_mapJobs _ deriveSkippedJobStatuses_empty]
  exact pass_skipRounds (Bool.eq_false_iff.mpr live) _ _ _

/-- The last pass decides about the WorkflowRun and leaves the jobs alone. -/
theorem Resources.jobs_deriveWorkflowRunStatus :
    (resources.deriveWorkflowRunStatus platform).jobs =
      (resources.decidedStatus platform).jobs := by
  unfold deriveWorkflowRunStatus decidedStatus
  split
  · unfold deriveCancelledWorkflowRunStatus
    split
    · rfl
    · split <;> rfl
  · unfold deriveTerminalWorkflowRunStatus
    split
    · rfl
    · split <;> rfl

/-- The job statuses of a derivation come from the stored ones by passes. -/
theorem pass_deriveWorkflowRunStatus :
    Relation.ReflTransGen (Pass platform resources) resources.workflowRun.status.jobTable
      (resources.deriveWorkflowRunStatus platform).jobTable := by
  have same : (resources.deriveWorkflowRunStatus platform).jobTable =
      (resources.decidedStatus platform).jobTable :=
    congrArg (Option.getD · ∅) Resources.jobs_deriveWorkflowRunStatus
  rw [same]
  exact passes_decidedStatus.jobs

end Kruntimes.Workflow
