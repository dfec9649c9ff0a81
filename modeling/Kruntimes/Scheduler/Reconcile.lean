import Kruntimes.Api.Retry
import Kruntimes.Scheduler.Framework

/-!
# The stages of the scheduler's Reconcile

`RunReconciler.Reconcile` reads a Run, may write its mode, decides whether the
Run is to be scheduled at all, takes a snapshot, plans, reserves and binds.  Each
stage is a pure function of what it reads; the status updates it asks for are
returned as Run values and performed by the system model.
-/

namespace Kruntimes.Scheduler

open Api Data

/-- The mode backfill: the Run to store, if its recorded mode is outdated. -/
def modeBackfill (run : Run) : Option Run :=
  if run.spec.mode.name ≠ "" ∧ run.status.mode ≠ run.spec.mode.name then
    some { run with
        status :=
          { run.status with
            mode := run.spec.mode.name
            phase := if run.status.phase = .unset then .pending else run.status.phase } }
  else none

def pendingRetryDelay (platform : Platform) (run : Run) (now : Time) : Duration :=
  if run.status.phase ≠ .pending ∨ run.status.attempt ≤ 1 then 0
  else match findStatusCondition run.status.conditions conditionRunning with
    | none => 0
    | some condition =>
      if condition.status ≠ .conditionFalse then 0
      else condition.lastTransitionTime +
        backoff platform (withDefaults run.spec.retryPolicy) run.status.attempt - now

/-- What `Reconcile` does with a Run before it looks at Pods. -/
inductive Admission
  /-- Return without a requeue. -/
  | ignore
  /-- Store a terminal status (`applyCancelled`, `applyInvalidResources`). -/
  | terminate (run : Run)
  /-- Come back after the retry delay. -/
  | delay
  /-- Schedule the Run with this request. -/
  | schedule (request : ResourceList)

/-- The checks between the mode backfill and the snapshot. -/
def admission (platform : Platform) (run : Run) (now : Time) : Admission :=
  if run.status.phase.isPending = false then .ignore
  else if run.spec.runtime = "" then .ignore
  else if run.spec.hasImmediateTermination then
    .terminate (setTerminal run .cancelled reasonCancelled "cancelled by user" now)
  else match run.spec.resourceRequests with
    | .error message => .terminate (setTerminal run .failed "InvalidResources" message now)
    | .ok request =>
      if 0 < pendingRetryDelay platform run now then .delay else .schedule request

/-- The contribution of one listed Run to `assignedRunUsage`. -/
def addAssignedRun (usage : Usage) (run : Run) : Usage :=
  if run.status.assignedPod = "" then usage
  else if run.status.phase.consumesRuntimeCapacity then
    match run.spec.resourceRequests with
    | .error _ => usage
    | .ok requests => addUsage usage run.status.assignedPod requests
  else usage

/-- `assignedRunUsage` for the Runs listed in the namespace. -/
def assignedRunUsage (runs : List Run) : Usage :=
  runs.foldl addAssignedRun noUsage

/-- The Pods that the runtime selector lists in the Run's namespace. -/
def runtimePods (run : Run) (pods : List Pod) : List Pod :=
  pods.filter fun pod =>
    pod.nameSpace == run.nameSpace && label pod.labels "runtime" == run.spec.runtime

/-- `loadSchedulingSnapshot`: the synchronised cache and the snapshot. -/
def loadSchedulingSnapshot (cache : AssumedReservationCache) (run : Run)
    (request : ResourceList) (pods : List Pod) (workspace : Option PersistentWorkspace)
    (runs : List Run) (now : Time) : AssumedReservationCache × SchedulingSnapshot :=
  let actualUsageByPod := assignedRunUsage runs
  let taken := snapshot cache actualUsageByPod runs
  (taken.1,
    { run, request, pods := runtimePods run pods, actualUsageByPod, usageByPod := taken.2.1
      runs, affinityTargets := taken.2.2, workspace, now })

/-- The Pods of a snapshot that are available to its Run. -/
def availablePods (reconciler : RunReconciler) (taken : SchedulingSnapshot) : List Pod :=
  taken.pods.filter fun pod => isRuntimePodAvailable reconciler.toSchedulerConfig pod taken.now
    (taken.usageByPod pod.name) taken.request

/-- How a cycle continues after planning and reserving. -/
inductive CycleOutcome
  /-- A score error: retried through the workqueue. -/
  | retry
  /-- A planning error: store the failed status. -/
  | fail (run : Run)
  /-- No feasible Pod: store the waiting status if it is new, and come back. -/
  | wait (run : Option Run)
  /-- The reservation was made; `bind` is next. -/
  | reserved (pod : Pod)
  deriving DecidableEq

/-- The waiting status, if it differs from the recorded one. -/
def waitingStatus (run : Run) (message : String) : Option Run :=
  if run.status.phase ≠ .pending ∨ run.status.message ≠ message then
    some { run with status := { run.status with phase := .pending, message } }
  else none

/-- The status of a Run whose planning failed. -/
def selectionFailure (run : Run) (message : String) : Run :=
  { run with
    status := { run.status with phase := .failed, message := "pod selection failed: " ++ message } }

/-- `planSchedulingCycle` and `reserve` on a snapshot. -/
def planAndReserve (reconciler : RunReconciler) (cache : AssumedReservationCache)
    (taken : SchedulingSnapshot) : AssumedReservationCache × CycleOutcome :=
  match planSchedulingCycle reconciler taken with
  | .error (.scorePlugin _) => (cache, .retry)
  | .error (.other message) => (cache, .fail (selectionFailure taken.run message))
  | .ok (.wait message) => (cache, .wait (waitingStatus taken.run message))
  | .ok (.bind selected) =>
    let result := reserve cache taken selected fun usage =>
      isRuntimePodAvailable reconciler.toSchedulerConfig selected taken.now usage taken.request
    (result.1, if result.2 then .reserved selected else .retry)

/-- The Run that `bind` stores. -/
def bindStatus (run : Run) (pod : Pod) (now : Time) : Run :=
  { run with
    status :=
      { run.status with
        assignedPod := pod.name
        assignedPodUID := pod.uid
        phase := .scheduled
        conditions := setStatusCondition run.status.conditions
          { type := conditionScheduled, status := .conditionTrue, reason := "Assigned"
            message := "assigned to runtime pod " ++ pod.name
            lastTransitionTime := now } } }

/-- `pendingRunPredicate` for the new object of an event. -/
def pendingRunPredicate (run : Run) : Bool :=
  run.status.phase.isPending || (run.spec.mode.name != "" && run.status.mode != run.spec.mode.name)

/-- `runCapacityReleasedPredicate`; a missing new object is a deletion. -/
def runCapacityReleasedPredicate (old new : Option Run) : Bool :=
  match old, new with
  | some old, some new =>
    old.status.phase.consumesRuntimeCapacity && !new.status.phase.consumesRuntimeCapacity
  | some old, none => old.status.phase.consumesRuntimeCapacity
  | none, _ => false

/-! ## Facts about the stages -/

/-- The requested amount of a resource; a Run without a valid request asks for
nothing. -/
def requestAmount (run : Run) (resource : String) : Int :=
  match run.spec.resourceRequests with
  | .error _ => 0
  | .ok requests => amount requests resource

/-- The amount one listed Run adds to the usage of a Pod. -/
def usageOn (run : Run) (pod resource : String) : Int :=
  if run.status.assignedPod = pod ∧ pod ≠ "" ∧ run.status.phase.consumesRuntimeCapacity = true then
    requestAmount run resource
  else 0

theorem requestAmount_nonneg (run : Run) (resource : String) :
    0 ≤ requestAmount run resource := by
  unfold requestAmount
  cases requests : run.spec.resourceRequests with
  | error => exact le_rfl
  | ok => exact (RunSpec.resourceRequests_allPositive requests).amount_nonneg resource

theorem addAssignedRun_apply (usage : Usage) (run : Run) (pod resource : String) :
    addAssignedRun usage run pod resource = usage pod resource + usageOn run pod resource := by
  unfold addAssignedRun usageOn requestAmount
  by_cases unassigned : run.status.assignedPod = ""
  · by_cases same : run.status.assignedPod = pod
    · simp [unassigned, ← same]
    · simp [unassigned, unassigned ▸ same]
  · cases consumes : run.status.phase.consumesRuntimeCapacity with
    | false => simp
    | true =>
      cases requests : run.spec.resourceRequests with
      | error => simp
      | ok =>
        by_cases same : run.status.assignedPod = pod
        · simp [addUsage_apply, same, same ▸ unassigned]
        · simp [addUsage_apply, unassigned, same]

/-- The observed usage of a Pod is the sum over the listed Runs. -/
theorem assignedRunUsage_apply (runs : List Run) (pod resource : String) :
    assignedRunUsage runs pod resource = (runs.map fun run => usageOn run pod resource).sum := by
  suffices general : ∀ usage : Usage, (runs.foldl addAssignedRun usage) pod resource =
      usage pod resource + (runs.map fun run => usageOn run pod resource).sum by
    simpa [assignedRunUsage, noUsage] using general noUsage
  induction runs with
  | nil => simp
  | cons run rest ih =>
    intro usage
    rw [List.foldl_cons, ih, addAssignedRun_apply, List.map_cons, List.sum_cons, add_assoc]

theorem usageOn_nonneg (run : Run) (pod resource : String) :
    0 ≤ usageOn run pod resource := by
  unfold usageOn
  split
  · exact requestAmount_nonneg run resource
  · exact le_rfl

/-- A Run that reaches the snapshot is Pending and its request is the computed one. -/
theorem admission_eq_schedule {platform : Platform} {run : Run} {now : Time}
    {request : ResourceList} (admitted : admission platform run now = .schedule request) :
    run.status.phase.isPending = true ∧ run.spec.resourceRequests = .ok request := by
  unfold admission at admitted
  cases pending : run.status.phase.isPending with
  | false => simp [pending] at admitted
  | true =>
    refine ⟨rfl, ?_⟩
    simp only [pending, Bool.true_eq_false, if_false] at admitted
    split at admitted
    · contradiction
    split at admitted
    · contradiction
    cases computed : run.spec.resourceRequests with
    | error => simp [computed] at admitted
    | ok =>
      simp only [computed] at admitted
      split at admitted
      · contradiction
      · cases admitted
        rfl

/-- A Run terminated before the snapshot was Pending and gets a terminal status. -/
theorem admission_eq_terminate {platform : Platform} {run terminal : Run} {now : Time}
    (admitted : admission platform run now = .terminate terminal) :
    ∃ phase reason message, terminal = setTerminal run phase reason message now ∧
      phase.isTerminal = true ∧ run.status.phase.isPending = true := by
  unfold admission at admitted
  cases pending : run.status.phase.isPending with
  | false => simp [pending] at admitted
  | true =>
    simp only [pending, Bool.true_eq_false, if_false] at admitted
    split at admitted
    · contradiction
    split at admitted
    · cases admitted
      exact ⟨_, _, _, rfl, rfl, rfl⟩
    cases computed : run.spec.resourceRequests with
    | error =>
      simp only [computed] at admitted
      cases admitted
      exact ⟨_, _, _, rfl, rfl, rfl⟩
    | ok =>
      simp only [computed] at admitted
      split at admitted <;> contradiction

/-- The possible results of planning and reserving on a synchronised cache. -/
inductive Planned (reconciler : RunReconciler) (cache : AssumedReservationCache)
    (taken : SchedulingSnapshot) : AssumedReservationCache × CycleOutcome → Prop
  | retry : Planned reconciler cache taken (cache, .retry)
  | fail (message : String) :
      Planned reconciler cache taken (cache, .fail (selectionFailure taken.run message))
  | wait (message : String) :
      Planned reconciler cache taken (cache, .wait (waitingStatus taken.run message))
  | reserved (pod : Pod) (listed : pod ∈ taken.pods)
      (available : isRuntimePodAvailable reconciler.toSchedulerConfig pod taken.now
        (mergeUsage taken.actualUsageByPod (usageLocked cache) pod.name) taken.request = true) :
      Planned reconciler cache taken
        (assumeLocked cache taken.run pod.name taken.request, .reserved pod)

theorem planned_planAndReserve {reconciler : RunReconciler}
    {cache : AssumedReservationCache} {taken : SchedulingSnapshot}
    (synced : syncLocked cache taken.runs = cache) :
    Planned reconciler cache taken (planAndReserve reconciler cache taken) := by
  unfold planAndReserve
  cases plan : planSchedulingCycle reconciler taken with
  | error failure =>
    cases failure with
    | scorePlugin => exact Planned.retry
    | other message => exact Planned.fail message
  | ok plan' =>
    cases plan' with
    | wait message => exact Planned.wait message
    | bind selected =>
      simp only [reserve, synced]
      by_cases available : isRuntimePodAvailable reconciler.toSchedulerConfig selected
          taken.now (mergeUsage taken.actualUsageByPod (usageLocked cache) selected.name)
          taken.request = true
      · simp only [available, if_true]
        exact Planned.reserved selected (mem_of_planSchedulingCycle plan) available
      · simp only [available]
        exact Planned.retry

end Kruntimes.Scheduler
