import Kruntimes.Workflow.Status
import Kruntimes.Workflow.Template
import Kruntimes.Workflow.Validation

/-!
# Planning and starting targets

`calculateWorkflowRunPlan` decides from a derived status which children to start.
`createOrReuseStepRun` and `createWorkflowCall` build the child of a target; what
the API server answers to a creation is left to the caller.
-/

namespace Kruntimes.Workflow

open Api Data

/-! ## Targets -/

/-- `jobStepRunTarget`.  Inner steps of an Action are counted from one; zero stands
for the inline step itself. -/
structure StepTarget where
  jobName : String
  stepIndex : Nat
  actionStepIndex : Nat
  deriving DecidableEq

/-- `workflowRunTarget`. -/
inductive Target
  | step (target : StepTarget)
  | workflowCall (jobName : String)
  deriving DecidableEq

def jobReadyToStart (status : JobStatus) (jobs : JobStatuses) : Bool :=
  status.phase.isWaiting &&
    status.pre.all fun pre => (jobs.lookup pre).any fun job => job.phase == .succeeded

/-- `nextRunnableWorkflowStep`: the first step that has not succeeded, with its
index, unless it failed. -/
def nextRunnableWorkflowStep (steps : List StepStatus) : Option (Nat × StepStatus) :=
  match steps.zipIdx.find? fun entry => entry.1.phase ≠ .succeeded with
  | none => none
  | some (step, index) => if step.phase = .failed then none else some (index, step)

/-- `nextRunnableActionStep`: the first inner step that has not succeeded, if it is
pending. -/
def nextRunnableActionStep (steps : List ActionStepStatus) : Option (Nat × ActionStepStatus) :=
  match steps.zipIdx.find? fun entry => entry.1.phase ≠ .succeeded with
  | none => none
  | some (step, index) => if step.phase = .pending then some (index, step) else none

def nextInlineStepRunTarget (jobName : String) (stepIndex : Nat) (status : StepStatus) :
    Option StepTarget :=
  if status.phase ≠ .pending ∨ status.runName ≠ "" then none
  else some ⟨jobName, stepIndex, 0⟩

def nextActionStepRunTarget (jobName : String) (stepIndex : Nat) (status : StepStatus) :
    Option StepTarget :=
  match nextRunnableActionStep status.actionSteps with
  | none => none
  | some (index, inner) => if inner.runName ≠ "" then none else some ⟨jobName, stepIndex, index + 1⟩

def nextStepRunTarget (jobName : String) (job : JobSpec) (status : JobStatus) :
    Option StepTarget :=
  match nextRunnableWorkflowStep status.steps with
  | none => none
  | some (index, step) =>
    match job.steps[index]? with
    | none => none
    | some spec =>
      if spec.uses = "" then nextInlineStepRunTarget jobName index step
      else nextActionStepRunTarget jobName index step

/-- The body of `runnableStepTargets`. -/
def runnableStepTarget (statuses : JobStatuses) (jobName : String) (job : JobSpec) :
    Option StepTarget :=
  match statuses.lookup jobName with
  | none => none
  | some status =>
    if job.uses ≠ "" ∨ status.steps.length ≠ job.steps.length ∨ job.steps = [] then none
    else if status.phase ≠ .running ∧ jobReadyToStart status statuses = false then none
    else nextStepRunTarget jobName job status

/-- The body of `runnableWorkflowCallTargets`. -/
def isRunnableWorkflowCall (statuses : JobStatuses) (jobName : String) (job : JobSpec) :
    Bool :=
  match statuses.lookup jobName with
  | none => false
  | some status => job.uses != "" && status.workflowRunName == "" && jobReadyToStart status statuses

def runnableStepTargets (statuses : JobStatuses) (jobs : JobSpecs) : List Target :=
  jobs.sortedKeys.filterMap fun jobName =>
    (jobs.lookup jobName).bind fun job =>
      (runnableStepTarget statuses jobName job).map .step

def runnableWorkflowCallTargets (statuses : JobStatuses) (jobs : JobSpecs) : List Target :=
  (jobs.sortedKeys.filter fun jobName =>
    (jobs.lookup jobName).any (isRunnableWorkflowCall statuses jobName)).map .workflowCall

def hasActiveChildRuns (childRuns : Table String ChildRun) : Bool :=
  childRuns.entries.any fun entry => !entry.2.phase.isTerminal && !entry.2.spec.terminated

def hasActiveChildWorkflowRuns (childWorkflows : Table String WorkflowRun) : Bool :=
  childWorkflows.entries.any fun entry =>
    !entry.2.status.phase.isTerminal && !entry.2.cancelRequested

/-- The action of a `workflowRunPlan`, with its targets. -/
inductive PlannedAction
  | none
  | initializeWorkflowRun
  | startRunnableTargets (targets : List Target)
  | requestChildCancellation
  deriving DecidableEq

/-- `calculateWorkflowRunPlan` on the derived status. -/
def calculateWorkflowRunPlan (resources : Resources) (derived : WorkflowRunStatus) :
    PlannedAction :=
  if derived.phase.isTerminal = false ∧ resources.workflowRun.cancelRequested = false ∧
      derived.jobs = none then .initializeWorkflowRun
  else if resources.workflowRun.cancelRequested = true ∧ (hasActiveChildRuns resources.childRuns ||
        hasActiveChildWorkflowRuns resources.childWorkflows) = true then
    .requestChildCancellation
  else if derived.phase.isTerminal = true ∨ resources.workflowRun.cancelRequested = true then
    .none
  else if resources.jobs.entries = [] ∨ derived.jobTable.entries = [] then .none
  else
    let targets := runnableStepTargets derived.jobTable resources.jobs ++
      runnableWorkflowCallTargets derived.jobTable resources.jobs
    if targets = [] then .none else .startRunnableTargets targets

/-! ## Building a child Run -/

/-- `mergeWorkflowEnvironment` over a list of outputs. -/
def mergeEnvironments (platform : WorkflowPlatform) (environment : Labels)
    (outputs : List Labels) : Except String Labels :=
  outputs.foldlM (fun environment outputs =>
    (workflowEnvironmentOutputs platform outputs).map fun updates =>
      updates.entries.foldl (fun environment entry => environment.insert entry.1 entry.2)
        environment) environment

def workflowStepEnvironment (platform : WorkflowPlatform) (status : JobStatus)
    (target : StepTarget) : Except String Labels :=
  let earlier := (status.steps.take target.stepIndex).filter fun step =>
    step.phase == .succeeded
  let inner :=
    if target.actionStepIndex = 0 then []
    else
      ((((status.steps[target.stepIndex]?).elim [] StepStatus.actionSteps).take
        (target.actionStepIndex - 1)).filter fun step => step.phase == .succeeded)
  mergeEnvironments platform ∅
    (earlier.map StepStatus.outputs ++ inner.map ActionStepStatus.outputs)

def resolveWorkflowArtifactInputs (statuses : JobStatuses)
    (inputs : List WorkflowArtifactInput) : Except String (List ArtifactInput) :=
  inputs.mapM fun input =>
    match workflowArtifactSource input.source with
    | .error message => .error message
    | .ok (jobName, artifactName) =>
      let missing := Except.error ("artifact input " ++ quoted input.source ++
        " requires succeeded job " ++ quoted jobName)
      match statuses.lookup jobName with
      | none => missing
      | some job =>
        if job.phase ≠ .succeeded then missing
        else
          match job.artifacts.lookup artifactName with
          | none => .error ("artifact input " ++ quoted input.source ++ " was not produced")
          | some ref => .ok ⟨ref, input.path⟩

/-- The environment of a step: what it inherits, overridden by its own. -/
def stepEnvironment (inherited own : Labels) : List (String × String) :=
  let environment := own.entries.foldl
    (fun environment entry => environment.insert entry.1 entry.2) inherited
  environment.sortedKeys.map fun name => (name, label environment name)

/-- `buildStepRun` with the labels and the controlling owner. -/
def buildStepRun (platform : WorkflowPlatform) (workflowRun : WorkflowRun)
    (jobName stepName actionStepName : String) (job : JobSpec) (step : StepSpec)
    (inherited : Labels) (artifactInputs : List ArtifactInput) : ChildRun where
  name := workflowStepRunName platform workflowRun.name jobName stepName actionStepName
  labels := workflowStepLabels workflowRun.uid jobName stepName actionStepName
  controller := some workflowRun.uid
  spec :=
    { runtime := job.runsOn
      inline := step.run
      args := step.args
      env := stepEnvironment inherited step.env
      artifactInputs := artifactInputs
      workspace := workflowJobWorkspaceName platform workflowRun.name jobName }

/-- What a target executes: the step, the name of its inner step and the context of
its expressions. -/
structure Execution where
  caller : StepSpec
  actionStepName : String
  step : StepSpec
  ctx : ResolveContext

/-- The first part of `createOrReuseStepRun`.  An error is a
`workflowStepValidationError`. -/
def executionOf (snapshot : Snapshot) (statuses : JobStatuses) (target : StepTarget)
    (caller : StepSpec) : Except String Execution :=
  let ctx := workflowRunStepContext statuses target.jobName
  if target.actionStepIndex = 0 then .ok ⟨caller, "", caller, ctx⟩
  else
    match snapshot.actions.lookup (workflowActionSnapshotKey target.jobName caller.name) with
    | none =>
      .error ("Action " ++ quoted caller.uses ++ " for step " ++ quoted caller.name ++
        " in job " ++ quoted target.jobName ++ " is missing from the execution snapshot")
    | some action =>
      match action.spec.steps[target.actionStepIndex - 1]? with
      | none =>
        .error ("Action " ++ quoted action.name ++ " has no step at index " ++
          toString (target.actionStepIndex - 1))
      | some step =>
        match resolveActionInputs caller.withValues ctx action.spec.inputs with
        | .error message =>
          .error ("resolve Action " ++ quoted action.name ++ " inputs: " ++ message)
        | .ok inputs => .ok ⟨caller, step.name, step, { ctx with inputs := some inputs }⟩

/-- The second part of `createOrReuseStepRun`: the Run to create. -/
def stepRunOf (platform : WorkflowPlatform) (workflowRun : WorkflowRun) (job : JobSpec)
    (statuses : JobStatuses) (target : StepTarget) (execution : Execution) :
    Except String ChildRun :=
  match resolveStepExecution execution.step execution.ctx with
  | .error message => .error message
  | .ok resolved =>
    match (statuses.lookup target.jobName).elim (.ok ∅) fun status =>
        workflowStepEnvironment platform status target with
    | .error message => .error ("read environment outputs: " ++ message)
    | .ok inherited =>
      (resolveWorkflowArtifactInputs statuses resolved.artifacts).map
        (buildStepRun platform workflowRun target.jobName execution.caller.name
          execution.actionStepName job resolved inherited)

/-- What `createOrReuseStepRun` does for a target before it asks the API server. -/
inductive StepChoice
  | reuse (run : ChildRun)
  | create (run : ChildRun)

/-- `createOrReuseStepRun` up to the creation. -/
def chooseStepRun (platform : WorkflowPlatform) (workflowRun : WorkflowRun)
    (childRuns : Table String ChildRun) (snapshot : Snapshot) (statuses : JobStatuses)
    (target : StepTarget) : Except String StepChoice :=
  let job := (snapshot.jobs.lookup target.jobName).getD {}
  match job.steps[target.stepIndex]? with
  -- `job.Steps[target.stepIndex]` panics beyond the end of the steps
  | none =>
    .error ("runtime error: index out of range [" ++ toString target.stepIndex ++
      "] with length " ++ toString job.steps.length)
  | some caller =>
    match executionOf snapshot statuses target caller with
    | .error message => .error message
    | .ok execution =>
      match childRuns.lookup
          (workflowStepKey target.jobName caller.name execution.actionStepName) with
      | some run => .ok (.reuse run)
      | none => (stepRunOf platform workflowRun job statuses target execution).map .create

/-! ## Building a child WorkflowRun -/

def maxWorkflowOutputContractAnnotationBytes : Nat := 240 * 1024

/-- One output in the loop of `workflowOutputContractAnnotations`, with the bytes
counted so far. -/
def annotateOutput (platform : WorkflowPlatform) (outputs : Labels)
    (state : Labels × Nat) (name : String) : Except String (Labels × Nat) :=
  let key := workflowOutputAnnotationPrefix ++ name
  let bytes := state.2 + key.utf8ByteSize + (label outputs name).utf8ByteSize
  if platform.isQualifiedName key = false then
    .error ("output name " ++ quoted name ++ " cannot be represented as a WorkflowRun annotation")
  else if maxWorkflowOutputContractAnnotationBytes < bytes then
    .error ("output contract is " ++ toString bytes ++ " bytes, exceeds " ++
      toString maxWorkflowOutputContractAnnotationBytes ++ " byte annotation limit")
  else .ok (state.1.insert key (label outputs name), bytes)

def workflowOutputContractAnnotations (platform : WorkflowPlatform) (outputs : Labels) :
    Except String Labels :=
  (outputs.sortedKeys.foldlM (annotateOutput platform outputs) (∅, 0)).map Prod.fst

/-- `createWorkflowCall` behind its first `Get` and up to the creation.  `lookup` is what
`ValidateCallGraph` reads with; an error is a `workflowCallValidationError`.  The UID of the
child is assigned by the API server and not used here. -/
def workflowCallWith (platform : WorkflowPlatform) (found : Option WorkflowSpec)
    (lookup : String → Except String WorkflowSpec) (parent : WorkflowRun)
    (statuses : JobStatuses) (jobName : String) (job : JobSpec) : Except String WorkflowRun :=
  let site := "reusable workflow " ++ quoted job.uses ++ " for job " ++ quoted jobName
  match found with
  | none => .error (site ++ " does not exist")
  | some workflow =>
    match validateCallGraph job.uses lookup with
    | .error message => .error ("validate " ++ site ++ ": " ++ message)
    | .ok () =>
      match resolveWorkflowCallInputs job.withValues (workflowRunJobOutputContext statuses) with
      | .error message =>
        .error ("resolve inputs for job " ++ quoted jobName ++ ": " ++ message)
      | .ok inputs =>
        match materialize workflow inputs with
        | .error message => .error ("materialize " ++ site ++ ": " ++ message)
        | .ok jobs =>
          match workflowOutputContractAnnotations platform workflow.outputs with
          | .error message =>
            .error ("materialize output contract for reusable workflow " ++
              quoted job.uses ++ " and job " ++ quoted jobName ++ ": " ++ message)
          | .ok annotations =>
            .ok { nameSpace := parent.nameSpace
                  name := workflowCallRunName platform parent.name jobName
                  uid := ""
                  labels := (∅ : Labels).insert workflowRunUIDLabel parent.uid
                  annotations := annotations
                  controller := some parent.uid
                  jobs := jobs }

/-- The lookup of a stored Workflow. -/
def lookupWorkflow (find : String → Option WorkflowSpec) (name : String) :
    Except String WorkflowSpec :=
  (find name).elim (.error ("workflows.kruntimes.io " ++ quoted name ++ " not found")) .ok

/-- `createWorkflowCall` up to the creation, when every `Get` is answered.  `find` answers
with the stored Workflows. -/
def workflowCallOf (platform : WorkflowPlatform) (find : String → Option WorkflowSpec)
    (parent : WorkflowRun) (statuses : JobStatuses) (jobName : String) (job : JobSpec) :
    Except String WorkflowRun :=
  workflowCallWith platform (find job.uses) (lookupWorkflow find) parent statuses jobName job

/-! ## Recording -/

def recordStepRun (status : WorkflowRunStatus) (target : StepTarget) (runName : String) :
    WorkflowRunStatus :=
  { status.modifyJob target.jobName (fun job =>
      { job with
        phase := .running
        steps := job.steps.modify target.stepIndex fun step =>
          if target.actionStepIndex = 0 then
            { step with phase := .running, runName := runName }
          else
            { step with
              phase := .running
              actionSteps := step.actionSteps.modify (target.actionStepIndex - 1) fun inner =>
                { inner with phase := .running, runName := runName } } }) with
    phase := .running }

def recordStepFailure (status : WorkflowRunStatus) (target : StepTarget) (message : String) :
    WorkflowRunStatus :=
  { status.modifyJob target.jobName (fun job =>
      { job with
        phase := .running
        steps := job.steps.modify target.stepIndex fun step =>
          { step with phase := .failed } }) with
    phase := .running
    message := "resolve step " ++ quoted (((status.job? target.jobName).bind fun job =>
      job.steps[target.stepIndex]?).elim "" StepStatus.name) ++ " in job " ++
      quoted target.jobName ++ ": " ++ message }

def recordWorkflowCall (status : WorkflowRunStatus) (jobName childName : String) :
    WorkflowRunStatus :=
  { status.modifyJob jobName (fun job =>
      { job with phase := .running, workflowRunName := childName }) with
    phase := .running }

def recordWorkflowCallFailure (status : WorkflowRunStatus) (jobName message : String) :
    WorkflowRunStatus :=
  { status.modifyJob jobName (fun job => { job with phase := .failed }) with
    phase := .running
    message := message }

end Kruntimes.Workflow
