import Kruntimes.Data.Update
import Kruntimes.Workflow.Expression
import Kruntimes.Workflow.Names

/-!
# Deriving a WorkflowRun's status

`deriveWorkflowRunStatus` runs over the stored status in several passes: terminal
child Runs are copied into their steps, Action calls are decided from their inner
steps, calls of Workflows from their child WorkflowRuns, running jobs from their
steps, waiting jobs from their needs, and the WorkflowRun from its jobs.  A
requested cancellation replaces the last two passes.

Where the source ranges over a map, the order only decides whose message is kept;
the sorted order stands for all of them.
-/

namespace Kruntimes.Workflow

open Api Data

/-! ## Runs into steps -/

def terminalRunStepPhase : RunPhase → Option StepPhase
  | .succeeded => some .succeeded
  | .failed | .timeout | .cancelled => some .failed
  | _ => none

def recordTerminalRunStatus (runName : String) (phase : StepPhase) (outputs : Labels)
    (step : StepStatus) : StepStatus :=
  if step.runName ≠ "" ∧ step.runName ≠ runName then step
  else { step with runName := runName, phase := phase, outputs := outputs }

def recordTerminalActionRunStatus (runName : String) (phase : StepPhase) (outputs : Labels)
    (step : ActionStepStatus) : ActionStepStatus :=
  if step.runName ≠ "" ∧ step.runName ≠ runName then step
  else { step with runName := runName, phase := phase, outputs := outputs }

/-- Change the first step with a name, the one `workflowStepStatus` finds. -/
def JobStatus.onStep (name : String) (change : StepStatus → StepStatus) (job : JobStatus) :
    JobStatus :=
  { job with steps := modifyFirst (fun step => step.name == name) change job.steps }

/-- Change the first Action step with a name, the one `actionStepStatus` finds. -/
def StepStatus.onActionStep (name : String) (change : ActionStepStatus → ActionStepStatus)
    (step : StepStatus) : StepStatus :=
  { step with
    actionSteps := modifyFirst (fun inner => inner.name == name) change step.actionSteps }

/-- What a terminal Run with readable outputs does to the step it is labelled with. -/
def projectOntoStep (run : ChildRun) (phase : StepPhase) (step : StepStatus) : StepStatus :=
  if run.actionStepName ≠ "" then
    step.onActionStep run.actionStepName (recordTerminalActionRunStatus run.name phase run.outputs)
  else recordTerminalRunStatus run.name phase run.outputs step

def projectChildRunStatus (platform : WorkflowPlatform) (status : WorkflowRunStatus)
    (run : ChildRun) : WorkflowRunStatus :=
  match terminalRunStepPhase run.phase with
  | none => status
  | some phase =>
    match (status.job? run.jobName).bind fun job =>
        job.steps.find? fun step => step.name == run.stepName with
    | none => status
    | some step =>
      match workflowEnvironmentOutputs platform run.outputs with
      | .error message =>
        { status.modifyJob run.jobName (JobStatus.onStep run.stepName fun step =>
            { step with phase := .failed }) with
          message := "read environment outputs for step " ++ quoted step.name ++
            " in job " ++ quoted run.jobName ++ ": " ++ message }
      | .ok _ =>
        status.modifyJob run.jobName (JobStatus.onStep run.stepName (projectOntoStep run phase))

def deriveStepStatusesFromChildRuns (platform : WorkflowPlatform)
    (childRuns : Table String ChildRun) (status : WorkflowRunStatus) : WorkflowRunStatus :=
  (childRuns.sortedKeys.filterMap fun key => childRuns.lookup key).foldl
    (projectChildRunStatus platform) status

/-! ## Action calls -/

def actionCallPhase (steps : List ActionStepStatus) : StepPhase :=
  if steps.any fun step => step.phase == .failed then .failed
  else if steps.any fun step => step.phase == .running then .running
  else if steps.any fun step => step.phase == .pending then .pending
  else .succeeded

/-- The outputs of the succeeded steps of an Action. -/
def actionStepOutputs (steps : List ActionStepStatus) : Table String Labels :=
  steps.foldl (fun table step =>
    if step.phase = .succeeded ∧ step.outputs.entries ≠ [] then
      table.insert step.name (publicWorkflowOutputs step.outputs)
    else table) ∅

def resolveActionOutputs (spec : ActionSpec) (actionSteps : List ActionStepStatus)
    (values : Labels) (ctx : ResolveContext) : Except String Labels :=
  match resolveActionInputs values ctx spec.inputs with
  | .error message => .error message
  | .ok inputs =>
    resolveOutputs spec.outputs
      { inputs := some inputs, steps := some (actionStepOutputs actionSteps)
        jobs := ctx.jobs }

/-- The reserved outputs of succeeded Action steps, added to the Action's own. -/
def withEnvironmentOutputs (outputs : Labels) (actionSteps : List ActionStepStatus) : Labels :=
  (actionSteps.filter fun step => step.phase == .succeeded).foldl (fun outputs step =>
      (step.outputs.keep fun key _ => isEnvironmentKey key).entries.foldl
        (fun outputs entry => outputs.insert entry.1 entry.2) outputs) outputs

/-- `deriveActionCallStatus`: the new status and a message, which is empty when
there is nothing to report. -/
def deriveActionCallStatus (actions : Table String ActionSnapshot) (jobName : String)
    (spec : StepSpec) (status : StepStatus) (ctx : ResolveContext) : StepStatus × String :=
  if status.phase = .succeeded ∨ status.phase = .failed then (status, "")
  else
    let missing := ({ status with phase := .failed }, "Action " ++ quoted spec.uses ++
      " for step " ++ quoted spec.name ++ " in job " ++ quoted jobName ++
      " is missing from the execution snapshot")
    match actions.lookup (workflowActionSnapshotKey jobName spec.name) with
    | none => missing
    | some action =>
      if status.actionSteps.length ≠ action.spec.steps.length then missing
      else
        match actionCallPhase status.actionSteps with
        | .failed => ({ status with phase := .failed }, "")
        | .pending | .running => (status, "")
        | .succeeded =>
          match resolveActionOutputs action.spec status.actionSteps spec.withValues ctx with
          | .error message =>
            ({ status with phase := .failed },
              "resolve Action outputs for step " ++ quoted spec.name ++ " in job " ++
                quoted jobName ++ ": " ++ message)
          | .ok outputs =>
            ({ status with
                phase := .succeeded
                outputs := withEnvironmentOutputs outputs status.actionSteps }, "")

/-- A message replaces the old one unless it is empty. -/
def WorkflowRunStatus.report (status : WorkflowRunStatus) (message : String) :
    WorkflowRunStatus :=
  if message = "" then status else { status with message := message }

/-- One pass of the loop of `deriveActionStepsForJob`.  The context is read from the
status that the passes before have left. -/
def deriveActionStep (actions : Table String ActionSnapshot) (jobName : String)
    (status : WorkflowRunStatus) (indexed : StepSpec × Nat) : WorkflowRunStatus :=
  match (status.job? jobName).bind fun job => job.steps[indexed.2]? with
  | none => status
  | some step =>
    if indexed.1.uses = "" then status
    else
      let derived := deriveActionCallStatus actions jobName indexed.1 step
        (workflowRunStepContext status.jobTable jobName)
      (status.modifyJob jobName fun job =>
        { job with steps := job.steps.set indexed.2 derived.1 }).report derived.2

def deriveActionStepsForJob (snapshot : Snapshot) (status : WorkflowRunStatus)
    (jobName : String) : WorkflowRunStatus :=
  ((snapshot.jobs.lookup jobName).elim [] fun job => job.steps.zipIdx).foldl
    (deriveActionStep snapshot.actions jobName) status

def deriveActionStepStatuses (snapshot : Option Snapshot) (status : WorkflowRunStatus) :
    WorkflowRunStatus :=
  match snapshot with
  | none => status
  | some snapshot => snapshot.jobs.sortedKeys.foldl (deriveActionStepsForJob snapshot) status

/-! ## Jobs -/

/-- The loops over all jobs that decide each one by itself. -/
def WorkflowRunStatus.decideJobs (status : WorkflowRunStatus)
    (decide : String → JobStatus → JobStatus × String) : WorkflowRunStatus :=
  status.jobTable.sortedKeys.foldl (fun reported jobName =>
      reported.report ((status.job? jobName).elim "" fun job => (decide jobName job).2))
    (status.mapJobs fun jobs => jobs.mapValues fun jobName job => (decide jobName job).1)

def workflowOutputContractFromAnnotations (platform : WorkflowPlatform)
    (annotations : Labels) : Except String Labels :=
  annotations.sortedKeys.foldlM (fun outputs key =>
    match cutLeading workflowOutputAnnotationPrefix key with
    | none => .ok outputs
    | some name =>
      if name = "" ∨ platform.isQualifiedName key = false then
        .error ("invalid workflow output annotation " ++ quoted key)
      else .ok (outputs.insert name (label annotations key))) ∅

def resolveWorkflowCallOutputs (platform : WorkflowPlatform) (child : WorkflowRun) :
    Except String Labels :=
  match workflowOutputContractFromAnnotations platform child.annotations with
  | .error message =>
    .error ("child workflowrun " ++ child.nameSpace ++ "/" ++ child.name ++ ": " ++ message)
  | .ok contract => resolveOutputs contract (workflowRunJobOutputContext child.status.jobTable)

/-- The body of `deriveWorkflowCallStatuses`. -/
def decideCall (platform : WorkflowPlatform) (childWorkflows : Table String WorkflowRun)
    (jobName : String) (status : JobStatus) : JobStatus × String :=
  if status.workflowRunName = "" ∨ status.phase ≠ .running then (status, "")
  else
    match childWorkflows.lookup status.workflowRunName with
    | none => (status, "")
    | some child =>
      match child.status.phase with
      | .succeeded =>
        match resolveWorkflowCallOutputs platform child with
        | .error message =>
          ({ status with phase := .failed },
            "resolve outputs for job " ++ quoted jobName ++ ": " ++ message)
        | .ok outputs => ({ status with phase := .succeeded, outputs := outputs }, "")
      | .failed | .cancelled => ({ status with phase := .failed }, "")
      | _ => (status, "")

def deriveWorkflowCallStatuses (platform : WorkflowPlatform)
    (childWorkflows : Table String WorkflowRun) (status : WorkflowRunStatus) :
    WorkflowRunStatus :=
  status.decideJobs (decideCall platform childWorkflows)

def terminalJobPhase (status : JobStatus) : Option JobPhase :=
  if status.steps = [] then none
  else if status.steps.any fun step => step.phase == .failed then some .failed
  else if status.steps.all fun step => step.phase == .succeeded then some .succeeded
  else none

/-- The outputs a job sees: those of all its steps. -/
def jobStepOutputs (steps : List StepStatus) : Table String Labels :=
  steps.foldl (fun table step =>
    if step.outputs.entries ≠ [] then
      table.insert step.name (publicWorkflowOutputs step.outputs)
    else table) ∅

def resolveJobOutputs (job : JobSpec) (status : JobStatus) : Except String Labels :=
  resolveOutputs job.outputs { steps := some (jobStepOutputs status.steps) }

def childRunByName (childRuns : Table String ChildRun) (name : String) : Option ChildRun :=
  (childRuns.entries.find? fun entry => entry.2.name == name).map Sigma.snd

def copyRunArtifactRefs (destination : Table String ArtifactRef) (run : Option ChildRun) :
    Table String ArtifactRef :=
  match run with
  | none => destination
  | some run =>
    if run.phase = .succeeded then
      run.artifactRefs.foldl (fun refs ref => refs.insert ref.name ref) destination
    else destination

def resolveJobArtifactRefs (status : JobStatus) (childRuns : Table String ChildRun) :
    Table String ArtifactRef :=
  status.steps.foldl (fun refs step =>
    step.actionSteps.foldl
      (fun refs inner => copyRunArtifactRefs refs (childRunByName childRuns inner.runName))
      (if step.runName ≠ "" then
        copyRunArtifactRefs refs (childRunByName childRuns step.runName)
      else refs)) ∅

/-- The body of `deriveJobStatuses`. -/
def decideJob (jobs : JobSpecs) (childRuns : Table String ChildRun) (jobName : String)
    (status : JobStatus) : JobStatus × String :=
  if status.phase ≠ .running then (status, "")
  else
    match terminalJobPhase status with
    | none => (status, "")
    | some phase =>
      if phase ≠ .succeeded then ({ status with phase := phase }, "")
      else
        match resolveJobOutputs ((jobs.lookup jobName).getD {}) status with
        | .error message =>
          ({ status with phase := .failed },
            "resolve outputs for job " ++ quoted jobName ++ ": " ++ message)
        | .ok outputs =>
          ({ status with
              phase := .succeeded
              outputs := outputs
              artifacts := resolveJobArtifactRefs status childRuns }, "")

def deriveJobStatuses (jobs : JobSpecs) (childRuns : Table String ChildRun)
    (status : WorkflowRunStatus) : WorkflowRunStatus :=
  status.decideJobs (decideJob jobs childRuns)

/-! ## Skipping -/

def hasFailedOrSkippedDependency (status : JobStatus) (jobs : JobStatuses) : Bool :=
  status.pre.any fun pre => (jobs.lookup pre).any fun job =>
    job.phase == .failed || job.phase == .skipped

/-- One job in one round of `deriveSkippedJobStatuses`. -/
def skipJob (jobs : JobStatuses) (jobName : String) : JobStatuses :=
  match jobs.lookup jobName with
  | none => jobs
  | some status =>
    if status.phase.isWaiting && hasFailedOrSkippedDependency status jobs then
      jobs.modify jobName fun status => { status with phase := .skipped }
    else jobs

/-- The rounds of `deriveSkippedJobStatuses`, which stop when one changes nothing. -/
def skipRounds (jobNames : List String) : Nat → JobStatuses → JobStatuses
  | 0, jobs => jobs
  | rounds + 1, jobs =>
    let next := jobNames.foldl skipJob jobs
    if next = jobs then jobs else skipRounds jobNames rounds next

def deriveSkippedJobStatuses (jobs : JobStatuses) : JobStatuses :=
  skipRounds jobs.sortedKeys jobs.sortedKeys.length jobs

/-! ## The WorkflowRun -/

/-- `deriveTerminalWorkflowRunStatus` without a requested cancellation. -/
def deriveTerminalWorkflowRunStatus (status : WorkflowRunStatus) : WorkflowRunStatus :=
  if status.jobTable.entries = [] then status
  else if status.jobTable.entries.all fun entry => entry.2.phase.isTerminal then
    { status with
      phase :=
        if status.jobTable.entries.any fun entry => entry.2.phase == .failed then .failed
        else .succeeded }
  else status

/-- `deriveCancelledWorkflowRunStatus` with a requested cancellation. -/
def deriveCancelledWorkflowRunStatus (childRuns : Table String ChildRun)
    (childWorkflows : Table String WorkflowRun) (status : WorkflowRunStatus) :
    WorkflowRunStatus :=
  if status.phase.isTerminal then status
  else if (childRuns.entries.all fun entry => entry.2.phase.isTerminal) &&
      childWorkflows.entries.all fun entry => entry.2.status.phase.isTerminal then
    { status with phase := .cancelled }
  else status

/-- `workflowRunResources`. -/
structure Resources where
  workflowRun : WorkflowRun
  childRuns : Table String ChildRun
  childWorkflows : Table String WorkflowRun
  snapshot : Option Snapshot

namespace Resources

/-- The jobs of the snapshot. -/
def jobs (resources : Resources) : JobSpecs :=
  resources.snapshot.elim ∅ Snapshot.jobs

/-- The passes that do not depend on a cancellation. -/
def projectedStatus (platform : WorkflowPlatform) (resources : Resources) :
    WorkflowRunStatus :=
  deriveJobStatuses resources.jobs resources.childRuns
    (deriveWorkflowCallStatuses platform resources.childWorkflows
      (deriveActionStepStatuses resources.snapshot
        (deriveStepStatusesFromChildRuns platform resources.childRuns
          resources.workflowRun.status)))

def deriveWorkflowRunStatus (platform : WorkflowPlatform) (resources : Resources) :
    WorkflowRunStatus :=
  if resources.workflowRun.cancelRequested then
    deriveCancelledWorkflowRunStatus resources.childRuns resources.childWorkflows
      (resources.projectedStatus platform)
  else
    deriveTerminalWorkflowRunStatus
      ((resources.projectedStatus platform).mapJobs deriveSkippedJobStatuses)

end Resources

end Kruntimes.Workflow
