import Kruntimes.Api.Retry
import Kruntimes.Api.RuntimePod

/-!
# The stale-Run reaper

`StaleRunReaper` watches claimed Runs.  When the assigned Pod is gone, replaced,
terminating or unhealthy, it returns the Run to the scheduler for another attempt, or
fails it.
-/

namespace Kruntimes.Reaper

open Api

structure StaleRunReaper where
  stalenessThreshold : Duration

def isStaleMonitoredRunPhase : RunPhase → Bool
  | .running | .ready | .finalizing => true
  | _ => false

theorem isActive_of_isStaleMonitoredRunPhase {phase : RunPhase}
    (monitored : isStaleMonitoredRunPhase phase = true) : phase.isActive = true := by
  cases phase <;> first | rfl | cases monitored

/-- `runningRunPredicate`, which `Reconcile` checks again on the Run it reads. -/
def runningRunPredicate (run : Run) : Bool :=
  isStaleMonitoredRunPhase run.status.phase && run.status.assignedPod != ""

/-- Why a Run is stale. -/
structure Verdict where
  reason : String
  message : String
  deriving DecidableEq

def stalePodState (reaper : StaleRunReaper) (pod : Pod) (now : Time) : Option Verdict :=
  if pod.deleting then some ⟨reasonPodTerminating, "assigned pod is terminating"⟩
  else match pod.conditions.find? fun condition => condition.type == podReady with
    | none => none
    | some condition =>
      if condition.status ≠ .conditionTrue then
        if reaper.stalenessThreshold ≤ 0 ∨
            reaper.stalenessThreshold < now - condition.lastTransitionTime then
          some ⟨reasonPodUnhealthy, "assigned pod is not ready"⟩
        else none
      else if freshRuntimedReady pod now reaper.stalenessThreshold then none
      else some ⟨reasonPodUnhealthy, "assigned pod runtimed heartbeat is stale"⟩

/-- `Reconcile` up to `handleStaleRun`; a missing Pod was not found. -/
def reconcile (reaper : StaleRunReaper) (run : Run) (pod : Option Pod) (now : Time) :
    Option Verdict :=
  if runningRunPredicate run = false then none
  else match pod with
    | none => some ⟨reasonPodGone, "assigned pod was deleted"⟩
    | some pod =>
      if run.status.assignedPodUID ≠ "" ∧ pod.uid ≠ run.status.assignedPodUID then
        some ⟨reasonPodGone, "assigned pod was replaced"⟩
      else stalePodState reaper pod now

/-- The reset of `handleStaleRun`: the scheduler assigns the Run again. -/
def resetStatus (run : Run) (verdict : Verdict) (now : Time) : Run :=
  { run with
    status :=
      { run.status with
        attempt := nextAttempt run.status.attempt
        phase := .pending, assignedPod := "", assignedPodUID := "", startTime := none
        conditions := setStatusCondition run.status.conditions
          { type := conditionRunning, status := .conditionFalse, reason := verdict.reason
            message := verdict.message, lastTransitionTime := now } } }

/-- The failure of `handleStaleRun`. -/
def failedStatus (run : Run) (verdict : Verdict) (now : Time) : Run :=
  setTerminal
    { run with status := { run.status with attempt := currentAttempt run.status.attempt } }
    .failed verdict.reason verdict.message now

/-- The Run that `handleStaleRun` stores. -/
def handleStaleRun (run : Run) (verdict : Verdict) (now : Time) : Run :=
  if shouldRetry (withDefaults run.spec.retryPolicy) (currentAttempt run.status.attempt)
      verdict.reason then
    resetStatus run verdict now
  else failedStatus run verdict now

/-- The metadata update in front of the status update: the finalizer of a registration
that disappeared with its Pod is removed from a failed Run. -/
def abandonedRegistration (stale : Run) (verdict : Verdict) : Option Run :=
  if stale.status.phase = .failed ∧
      (verdict.reason = reasonPodGone ∨ verdict.reason = reasonPodTerminating) then
    removeFinalizer stale runRegistrationCleanupFinalizer
  else none

/-- Only monitored Runs are found stale. -/
theorem runningRunPredicate_of_reconcile {reaper : StaleRunReaper} {run : Run}
    {pod : Option Pod} {now : Time} {verdict : Verdict}
    (stale : reconcile reaper run pod now = some verdict) : runningRunPredicate run = true := by
  unfold reconcile at stale
  by_contra unwatched
  simp [unwatched] at stale

end Kruntimes.Reaper
