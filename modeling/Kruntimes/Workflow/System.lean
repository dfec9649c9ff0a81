import Kruntimes.Transition.Run
import Kruntimes.Transition.Watched
import Kruntimes.Workflow.Plan

/-!
# A WorkflowRun and its children

One WorkflowRun is reconciled against an API server.  The controller reads the
WorkflowRun and its snapshot as they are stored, and lists children through an
informer whose copy of an object may lag by any amount but never goes back.

A reconcile reads everything before its first write, so it is one action.  It may
end early, after any number of writes, through a crash or a failed request; then
its status patch is lost, and so it is when only the patch itself fails.  A
creation under a name in use is answered by `AlreadyExists`, whereupon the
controller fetches the stored object; when the informer does not know that object
yet, the reconcile ends early.

Between two reconciles children make progress or are deleted, other users create
objects with any labels, and the cancellation may be requested.  A terminal child
does not change any more.  `log` records what reconciles created and which targets
they failed, together with the job statuses that they acted on.
-/

namespace Kruntimes.Workflow

open Api Data Transition

/-- What a reconcile did for a target, and the job statuses it had derived. -/
inductive Event
  | createdRun (target : StepTarget) (statuses : JobStatuses) (run : ChildRun)
  | failedStep (target : StepTarget) (statuses : JobStatuses) (message : String)
  | createdWorkflowRun (jobName : String) (statuses : JobStatuses) (child : WorkflowRun)
  | failedCall (jobName : String) (statuses : JobStatuses) (message : String)
  deriving DecidableEq

/-- The stored WorkflowRun, its snapshot, and all Runs and other WorkflowRuns of the
namespace under their names; `none` is the version of an object that is absent. -/
structure World where
  workflowRun : WorkflowRun
  snapshot : Option Snapshot
  runs : Table String (Watched (Option ChildRun))
  workflowRuns : Table String (Watched (Option WorkflowRun))
  log : List Event

/-! ## Objects -/

section Objects

variable {α : Type}

/-- The stored version of an object. -/
def stored (objects : Table String (Watched (Option α))) (name : String) : Option α :=
  (objects.lookup name).bind Watched.persisted

/-- Store a version of an object that may be new. -/
def storeVersion (objects : Table String (Watched (Option α))) (name : String)
    (version : Option α) : Table String (Watched (Option α)) :=
  objects.insert name (((objects.lookup name).getD ⟨none, []⟩).write version)

/-- What the informer lists. -/
def listed (objects : Table String (Watched (Option α))) : List α :=
  objects.entries.filterMap fun entry => entry.2.cached

/-- Deliver the next version of an object to the informer. -/
def deliverVersion (objects : Table String (Watched (Option α))) (name : String) :
    Option (Table String (Watched (Option α))) :=
  (objects.lookup name).bind fun object => object.deliver.map fun next =>
    objects.insert name next

@[simp]
theorem stored_storeVersion_self (objects : Table String (Watched (Option α))) (name : String)
    (version : Option α) : stored (storeVersion objects name version) name = version := by
  unfold stored storeVersion
  rw [AList.lookup_insert, Option.bind_some, Watched.persisted_write]

theorem stored_storeVersion_ne {objects : Table String (Watched (Option α))}
    {name other : String} (distinct : other ≠ name) (version : Option α) :
    stored (storeVersion objects name version) other = stored objects other := by
  unfold stored storeVersion
  rw [AList.lookup_insert_ne distinct]

/-- A delivery leaves what is stored alone. -/
theorem stored_of_deliverVersion {objects next : Table String (Watched (Option α))}
    {name : String} (delivered : deliverVersion objects name = some next) (other : String) :
    stored next other = stored objects other := by
  obtain ⟨_, found, mapped⟩ := Option.bind_eq_some_iff.mp delivered
  obtain ⟨_, moved, rfl⟩ := Option.map_eq_some_iff.mp mapped
  unfold stored
  by_cases same : other = name
  · subst same
    rw [AList.lookup_insert, found, Option.bind_some, Option.bind_some,
      Watched.persisted_of_deliver moved]
  · rw [AList.lookup_insert_ne same]

end Objects

/-! ## Loading -/

/-- Keep the Run with the smallest name for each key. -/
def addChildRun (childRuns : Table String ChildRun) (run : ChildRun) : Table String ChildRun :=
  match childRuns.lookup run.stepKey with
  | none => childRuns.insert run.stepKey run
  | some existing =>
    if run.name < existing.name then childRuns.insert run.stepKey run else childRuns

/-- The children among the listed Runs, by key. -/
def childRunsOf (uid : String) (runs : List ChildRun) : Table String ChildRun :=
  (runs.filter fun run => label run.labels workflowRunUIDLabel == uid).foldl addChildRun ∅

/-- The children among the listed WorkflowRuns, by name. -/
def childWorkflowsOf (uid : String) (workflowRuns : List WorkflowRun) :
    Table String WorkflowRun :=
  (workflowRuns.filter fun child => label child.labels workflowRunUIDLabel == uid &&
    child.controller == some uid).foldl (fun children child => children.insert child.name child) ∅

/-- `loadWorkflowRunResources`. -/
def World.resources (world : World) : Resources where
  workflowRun := world.workflowRun
  childRuns := childRunsOf world.workflowRun.uid (listed world.runs)
  childWorkflows := childWorkflowsOf world.workflowRun.uid (listed world.workflowRuns)
  snapshot := world.snapshot

/-! ## Reconciling -/

/-- The Actions and Workflows stored while a reconcile runs. -/
structure Definitions where
  findAction : String → Except LookupFailure ActionSpec
  findWorkflow : String → Option WorkflowSpec

/-- How a reconcile ends: with its patch stored, or without it after a number of
writes. -/
inductive Fate
  | patched
  | lost (writes : Nat)
  deriving DecidableEq

/-- The writes that a reconcile gets to. -/
def Fate.cut {α : Type} : Fate → List α → List α
  | .patched, writes => writes
  | .lost count, writes => writes.take count

namespace World

/-- Store the status, unless the patch is lost. -/
def commit (world : World) (fate : Fate) (status : WorkflowRunStatus) : World :=
  match fate with
  | .patched => { world with workflowRun := { world.workflowRun with status := status } }
  | .lost _ => world

def record (world : World) (event : Event) : World :=
  { world with log := event :: world.log }

/-- Create a Run for a target unless its name is in use. -/
def createRun (world : World) (target : StepTarget) (statuses : JobStatuses)
    (run : ChildRun) : World :=
  match stored world.runs run.name with
  | some _ => world
  | none =>
    { world with runs := storeVersion world.runs run.name (some run) }.record
      (.createdRun target statuses run)

/-- Create a child WorkflowRun for a job unless its name is in use. -/
def createWorkflowRun (world : World) (jobName : String) (statuses : JobStatuses)
    (child : WorkflowRun) : World :=
  match stored world.workflowRuns child.name with
  | some _ => world
  | none =>
    { world with
      workflowRuns := storeVersion world.workflowRuns child.name (some child) }.record
      (.createdWorkflowRun jobName statuses child)

end World

section

variable (platform : WorkflowPlatform)

/-- One pass of the loop of `applyStartRunnableTargets` over the world and the
status in memory. -/
def startTarget (definitions : Definitions) (resources : Resources) (snapshot : Snapshot)
    (state : World × WorkflowRunStatus) : Target → World × WorkflowRunStatus
  | .step target =>
    match chooseStepRun platform resources.workflowRun resources.childRuns snapshot
        state.2.jobTable target with
    | .error message =>
      (state.1.record (.failedStep target state.2.jobTable message),
        recordStepFailure state.2 target message)
    | .ok (.reuse run) => (state.1, recordStepRun state.2 target run.name)
    | .ok (.create run) =>
      (state.1.createRun target state.2.jobTable run, recordStepRun state.2 target run.name)
  | .workflowCall jobName =>
    match workflowCallOf platform definitions.findWorkflow resources.workflowRun
        state.2.jobTable jobName ((snapshot.jobs.lookup jobName).getD {}) with
    | .error message =>
      (state.1.record (.failedCall jobName state.2.jobTable message),
        recordWorkflowCallFailure state.2 jobName message)
    | .ok child =>
      (state.1.createWorkflowRun jobName state.2.jobTable child,
        recordWorkflowCall state.2 jobName child.name)

/-- The status of an accepted WorkflowRun. -/
def initializedStatus (workflowRun : WorkflowRun) (snapshot : Snapshot)
    (status : WorkflowRunStatus) : WorkflowRunStatus :=
  { status with
    phase := .pending
    message := ""
    jobs := some (initializeActionStepStatuses (resolvedJobStatuses snapshot.jobs)
      snapshot.jobs snapshot.actions)
    snapshotName :=
      if status.snapshotName = "" then workflowSnapshotName platform workflowRun
      else status.snapshotName
    acceptance := some ⟨true, "Accepted", "WorkflowRun accepted and initialized"⟩ }

/-- `rejectWorkflowRun`. -/
def rejectedStatus (status : WorkflowRunStatus) (message : String) : WorkflowRunStatus :=
  { status with
    phase := .failed
    message := message
    acceptance := some ⟨false, "WorkflowValidationFailed", message⟩ }

end

/-- A child whose cancellation is to be requested. -/
inductive Cancellation
  | run (name : String)
  | workflowRun (name : String)

/-- The loops of `applyRequestChildCancellation`. -/
def cancellations (resources : Resources) : List Cancellation :=
  ((resources.childRuns.entries.filter fun entry =>
      !entry.2.spec.terminated && !entry.2.phase.isTerminal).map fun entry =>
        .run entry.2.name) ++
    ((resources.childWorkflows.entries.filter fun entry =>
      !entry.2.cancelRequested && !entry.2.status.phase.isTerminal).map fun entry =>
        .workflowRun entry.2.name)

namespace World

/-- Whether the child that is to be patched exists. -/
def stores (world : World) : Cancellation → Bool
  | .run name => (stored world.runs name).isSome
  | .workflowRun name => (stored world.workflowRuns name).isSome

/-- Patch the specification of a child. -/
def requestCancellation (world : World) : Cancellation → World
  | .run name =>
    { world with
      runs := storeVersion world.runs name ((stored world.runs name).map fun run =>
        { run with spec := { run.spec with terminated := true } }) }
  | .workflowRun name =>
    { world with
      workflowRuns := storeVersion world.workflowRuns name
        ((stored world.workflowRuns name).map fun child =>
          { child with cancelRequested := true }) }

/-- `applyRequestChildCancellation` and the patch behind it.  The request for a
child that is gone fails and ends the reconcile. -/
def cancelChildren (world : World) (fate : Fate) (requests : List Cancellation)
    (derived : WorkflowRunStatus) : World :=
  let reached := (fate.cut requests).takeWhile world.stores
  let patched := reached.foldl requestCancellation world
  if reached.length = requests.length then patched.commit fate derived else patched

end World

def reconcile (platform : WorkflowPlatform) (definitions : Definitions) (fate : Fate)
    (world : World) : World :=
  if world.workflowRun.deleting then world
  -- initialized jobs without a snapshot fail the load
  else if world.snapshot = none ∧ world.workflowRun.status.jobs ≠ none then world
  else
    let resources := world.resources
    let derived := resources.deriveWorkflowRunStatus platform
    match calculateWorkflowRunPlan resources derived, world.snapshot with
    | .none, _ => world.commit fate derived
    | .initializeWorkflowRun, some snapshot =>
      world.commit fate (initializedStatus platform world.workflowRun snapshot derived)
    | .initializeWorkflowRun, none =>
      match acceptSnapshot definitions.findAction world.workflowRun.jobs with
      | .error message => world.commit fate (rejectedStatus derived message)
      | .ok snapshot =>
        if fate = .lost 0 then world
        else { world with snapshot := some snapshot }.commit fate
          (initializedStatus platform world.workflowRun snapshot derived)
    | .startRunnableTargets targets, some snapshot =>
      let final := (fate.cut targets).foldl
        (startTarget platform definitions resources snapshot) (world, derived)
      final.1.commit fate final.2
    | .startRunnableTargets _, none => world
    | .requestChildCancellation, _ => world.cancelChildren fate (cancellations resources) derived

/-! ## The environment -/

/-- What happens to the WorkflowRun and its namespace. -/
inductive Action
  | reconcile (definitions : Definitions) (fate : Fate)
  | runProgress (name : String) (phase : RunPhase) (outputs : Labels)
      (artifactRefs : List ArtifactRef)
  | workflowRunProgress (name : String) (status : WorkflowRunStatus)
  | deliverRun (name : String)
  | deliverWorkflowRun (name : String)
  | deleteRun (name : String)
  | deleteWorkflowRun (name : String)
  | foreignRun (run : ChildRun)
  | foreignWorkflowRun (workflowRun : WorkflowRun)
  | cancel
  | delete

/-- One action. -/
def step (platform : WorkflowPlatform) : Step Action World
  | .reconcile definitions fate, world => some (Workflow.reconcile platform definitions fate world)
  | .runProgress name phase outputs artifactRefs, world =>
    (stored world.runs name).bind fun run =>
      if run.phase.isTerminal then none
      else
        some { world with
          runs := storeVersion world.runs name (some { run with
            phase := phase, outputs := outputs, artifactRefs := artifactRefs }) }
  | .workflowRunProgress name status, world =>
    (stored world.workflowRuns name).bind fun child =>
      if child.status.phase.isTerminal then none
      else
        some { world with
          workflowRuns := storeVersion world.workflowRuns name
            (some { child with status := status }) }
  | .deliverRun name, world =>
    (deliverVersion world.runs name).map fun runs => { world with runs := runs }
  | .deliverWorkflowRun name, world =>
    (deliverVersion world.workflowRuns name).map fun workflowRuns =>
      { world with workflowRuns := workflowRuns }
  | .deleteRun name, world =>
    (stored world.runs name).map fun _ =>
      { world with runs := storeVersion world.runs name none }
  | .deleteWorkflowRun name, world =>
    (stored world.workflowRuns name).map fun _ =>
      { world with workflowRuns := storeVersion world.workflowRuns name none }
  | .foreignRun run, world =>
    match stored world.runs run.name with
    | some _ => none
    | none => some { world with runs := storeVersion world.runs run.name (some run) }
  | .foreignWorkflowRun child, world =>
    match stored world.workflowRuns child.name with
    | some _ => none
    | none =>
      some { world with
        workflowRuns := storeVersion world.workflowRuns child.name (some child) }
  | .cancel, world =>
    some { world with workflowRun := { world.workflowRun with cancelRequested := true } }
  | .delete, world => some { world with workflowRun := { world.workflowRun with deleting := true } }

/-- A WorkflowRun that has just been created, in a namespace without other objects. -/
def World.initial (workflowRun : WorkflowRun) : World where
  workflowRun := { workflowRun with deleting := false, status := {} }
  snapshot := none
  runs := ∅
  workflowRuns := ∅
  log := []

end Kruntimes.Workflow
