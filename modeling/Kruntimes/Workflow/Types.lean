import Kruntimes.Api.Run

/-!
# Workflows, Actions and WorkflowRuns

The part of `Workflow`, `Action` and `WorkflowRun` that the WorkflowRun
controller reads or writes, and the child Runs it creates.  All objects belong to
one namespace.

A Go map that is read at a missing key yields the zero value.  The job and step
phases of a status are never empty, so a missing job is kept apart as a failed
lookup instead of a phase of its own.
-/

namespace Kruntimes.Workflow

open Api Data

/-! ## Phases -/

/-- `WorkflowPhase`; `unset` is the empty string of a WorkflowRun without status. -/
inductive WorkflowPhase
  | unset
  | pending
  | running
  | succeeded
  | failed
  | cancelled
  deriving DecidableEq

/-- `isTerminalWorkflowPhase`. -/
def WorkflowPhase.isTerminal : WorkflowPhase → Bool
  | succeeded | failed | cancelled => true
  | _ => false

inductive JobPhase
  | pending
  | waiting
  | running
  | succeeded
  | failed
  | skipped
  deriving DecidableEq

namespace JobPhase

/-- The phases a finished job can have. -/
def isTerminal : JobPhase → Bool
  | succeeded | failed | skipped => true
  | _ => false

/-- The two phases of a job that has not started. -/
def isWaiting : JobPhase → Bool
  | pending | waiting => true
  | _ => false

theorem isTerminal_eq_false_iff (phase : JobPhase) :
    phase.isTerminal = false ↔ phase.isWaiting = true ∨ phase = running := by
  cases phase <;> decide

theorem isTerminal_of_isWaiting {phase : JobPhase} (waits : phase.isWaiting = true) :
    phase.isTerminal = false :=
  (isTerminal_eq_false_iff phase).mpr (.inl waits)

end JobPhase

inductive StepPhase
  | pending
  | running
  | succeeded
  | failed
  deriving DecidableEq

/-! ## Definitions -/

/-- `WorkflowArtifactInput`; `source` is the field `from`. -/
structure WorkflowArtifactInput where
  source : String
  path : String
  deriving DecidableEq

/-- `StepSpec`; `withValues` is the field `with`. -/
structure StepSpec where
  name : String
  run : String := ""
  args : List String := []
  env : Labels := ∅
  artifacts : List WorkflowArtifactInput := []
  uses : String := ""
  withValues : Labels := ∅
  deriving DecidableEq

structure JobSpec where
  runsOn : String := ""
  needs : List String := []
  steps : List StepSpec := []
  uses : String := ""
  withValues : Labels := ∅
  outputs : Labels := ∅
  deriving DecidableEq

abbrev JobSpecs := Table String JobSpec

/-- `WorkflowInputSpec` and `ActionInputSpec`, which agree. -/
structure InputSpec where
  required : Bool := false
  default : String := ""
  deriving DecidableEq

/-- `ActionSpec`; an output is given by its expression. -/
structure ActionSpec where
  inputs : Table String InputSpec := ∅
  outputs : Labels := ∅
  steps : List StepSpec
  deriving DecidableEq

structure WorkflowSpec where
  inputs : Table String InputSpec := ∅
  outputs : Labels := ∅
  jobs : JobSpecs
  deriving DecidableEq

/-- `workflowActionSnapshot`. -/
structure ActionSnapshot where
  name : String
  spec : ActionSpec
  deriving DecidableEq

/-- `workflowExecutionSnapshot`: the jobs of the accepted specification and the
Actions its steps call. -/
structure Snapshot where
  jobs : JobSpecs
  actions : Table String ActionSnapshot
  deriving DecidableEq

/-! ## Status -/

structure ActionStepStatus where
  name : String
  phase : StepPhase := .pending
  runName : String := ""
  outputs : Labels := ∅
  deriving DecidableEq

structure StepStatus where
  name : String
  phase : StepPhase := .pending
  runName : String := ""
  outputs : Labels := ∅
  actionSteps : List ActionStepStatus := []
  deriving DecidableEq

structure JobStatus where
  phase : JobPhase
  pre : List String := []
  workflowRunName : String := ""
  outputs : Labels := ∅
  artifacts : Table String ArtifactRef := ∅
  steps : List StepStatus := []
  deriving DecidableEq

abbrev JobStatuses := Table String JobStatus

/-- The Accepted condition of a WorkflowRun. -/
structure Acceptance where
  accepted : Bool
  reason : String
  message : String
  deriving DecidableEq

/-- `WorkflowRunStatus`.  `jobs` is `none` until the WorkflowRun is initialized. -/
structure WorkflowRunStatus where
  phase : WorkflowPhase := .unset
  jobs : Option JobStatuses := none
  snapshotName : String := ""
  message : String := ""
  acceptance : Option Acceptance := none
  deriving DecidableEq

namespace WorkflowRunStatus

/-- `status.Jobs[name]`. -/
def job? (status : WorkflowRunStatus) (name : String) : Option JobStatus :=
  status.jobs.bind fun jobs => jobs.lookup name

/-- The job statuses; a nil map reads as an empty one. -/
def jobTable (status : WorkflowRunStatus) : JobStatuses :=
  status.jobs.getD ∅

/-- Change the job statuses, if there are any. -/
def mapJobs (status : WorkflowRunStatus) (f : JobStatuses → JobStatuses) :
    WorkflowRunStatus :=
  { status with jobs := status.jobs.map f }

/-- Change the status of one job. -/
def modifyJob (status : WorkflowRunStatus) (name : String) (f : JobStatus → JobStatus) :
    WorkflowRunStatus :=
  status.mapJobs fun jobs => jobs.modify name f

theorem job?_eq (status : WorkflowRunStatus) (name : String) :
    status.job? name = status.jobTable.lookup name := by
  unfold job? jobTable
  cases status.jobs <;> simp

end WorkflowRunStatus

/-! ## Objects -/

/-- The labels of a child resource. -/
def workflowRunUIDLabel : String := "kruntimes.io/workflowrun-uid"
def workflowJobLabel : String := "kruntimes.io/workflow-job"
def workflowStepLabel : String := "kruntimes.io/workflow-step"
def workflowActionStepLabel : String := "kruntimes.io/workflow-action-step"

/-- Run outputs under this prefix set environment variables of later steps. -/
def workflowEnvironmentOutputPrefix : String := "kruntimes.io/env/"

/-- Annotations under this prefix carry the output expressions of a called
Workflow. -/
def workflowOutputAnnotationPrefix : String := "kruntimes.io/workflow-output."

/-- The API's `ArtifactInput`. -/
structure ArtifactInput where
  ref : ArtifactRef
  path : String
  deriving DecidableEq

/-- The `RunSpec` of a step.  `terminated` says whether its immediate termination
has been requested. -/
structure StepRunSpec where
  runtime : String
  inline : String
  args : List String := []
  env : List (String × String) := []
  artifactInputs : List ArtifactInput := []
  workspace : String := ""
  terminated : Bool := false
  deriving DecidableEq

/-- A Run as the WorkflowRun controller sees it.  `controller` is the UID of its
controlling owner. -/
structure ChildRun where
  name : String
  labels : Labels
  controller : Option String
  spec : StepRunSpec
  phase : RunPhase := .pending
  outputs : Labels := ∅
  artifactRefs : List ArtifactRef := []
  deriving DecidableEq

/-- A `WorkflowRun`. -/
structure WorkflowRun where
  nameSpace : String := "default"
  name : String
  uid : String
  labels : Labels := ∅
  annotations : Labels := ∅
  controller : Option String := none
  deleting : Bool := false
  jobs : JobSpecs
  cancelRequested : Bool := false
  status : WorkflowRunStatus := {}
  deriving DecidableEq

/-- What the controller takes from outside its own sources: the first ten hex
digits of a SHA-256 sum, whether `IsQualifiedName` accepts an annotation key, and
the text of an `IsCIdentifier` complaint. -/
structure WorkflowPlatform where
  digest : String → String
  digest_length : ∀ text, (digest text).length = 10
  isQualifiedName : String → Bool
  cIdentifierComplaint : String

end Kruntimes.Workflow
