import Kruntimes.Runtimed.Function

/-!
# The reconciler of runtimed

Dispatch on the phase of the Run, the claim of a Scheduled Run, deletion, startup
recovery, and the goroutines that the reconciler starts.  Every program of runtimed
keeps the contract.
-/

namespace Kruntimes.Runtimed

open Api Transition
open Program (keeps_bind)

/-! ## Claiming -/

/-- The registration finalizer of `reconcileScheduled`, for Sessions and Functions. -/
def addRegistrationFinalizer (run : Run) : Process (Except String Run) :=
  if run.spec.mode.session.isSome = true ∨ run.spec.mode.function.isSome = true then
    match addFinalizer run runRegistrationCleanupFinalizer with
    | none => pure (.ok run)
    | some marked => updateMetadata marked
  else pure (.ok run)

/-- The end of `reconcileScheduled`, after the claim is stored. -/
def afterClaim (handle : Nat) (run : Run) : Process Result :=
  if run.spec.mode.session.isSome = true ∨ run.spec.mode.function.isSome = true then
    keepObserving handle run
  else do
    let prepared ← ask .prepareSource
    match (prepared : Option String) with
    | some message => applyFailure handle run reasonPrepareSource ("prepare source: " ++ message)
    | none => keepObserving handle run

/-- The deadline that the claim gives to the entry. -/
def setClaimDeadline (handle : Nat) (run : Run) (startedAt : Time) : Process Unit :=
  match run.spec.timeout with
  | none => pure ()
  | some timeout => amend (.setDeadline handle (startedAt + timeout))

/-- The claim of `reconcileScheduled`: the local entry first, then the status. -/
def claimRun (controller : Controller) (run : Run) : Process Result := do
  let handle ← buildActiveRun run
  let claimed ← tryClaimActiveRun controller handle run
  if claimed then do
    let startedAt ← now
    setClaimDeadline handle run startedAt
    let written ← updateStatus (claimStatus run startedAt)
    match written with
    | .error message => do
      unclaimActiveRun handle
      pure (.failed message)
    | .ok stored => afterClaim handle stored
  else pure (.requeue second)

/-- `reconcileScheduled` for a Run that has no entry. -/
def reconcileUnclaimed (controller : Controller) (run : Run) : Process Result :=
  if run.spec.hasImmediateTermination then do
    let handle ← buildActiveRun run
    applyTerminal handle run .cancelled reasonCancelled "cancelled by user"
  else do
    let healthy ← ask .health
    match (healthy : Bool) with
    | false => pure (.requeue second)
    | true => do
      let finalized ← addRegistrationFinalizer run
      match finalized with
      | .error message => pure (.failed ("add registration cleanup finalizer: " ++ message))
      | .ok run => claimRun controller run

def reconcileScheduled (controller : Controller) (run : Run) : Process Result := do
  let seen ← memory
  if seen.active.isSome then pure .empty else reconcileUnclaimed controller run

/-! ## Dispatch -/

def reconcileRunning (controller : Controller) (run : Run) : Process Result :=
  if run.spec.mode.session.isSome then reconcileRunningSession controller run
  else if run.spec.mode.function.isSome then reconcileRunningFunction controller run
  else reconcileRunningTask controller run

def reconcileReady (controller : Controller) (run : Run) : Process Result :=
  if run.spec.mode.session.isSome then reconcileReadySession controller run
  else if run.spec.mode.function.isSome then reconcileReadyFunction controller run
  else pure .empty

/-- The end of `reconcileDeletingRegistration` and of the shutdown drain: local state and the
finalizer. -/
def finishDeletion (run : Run) : Process Result := do
  releaseLocalRunState run
  match removeFinalizer run runRegistrationCleanupFinalizer with
  | none => pure .empty
  | some unmarked => do
    let written ← updateMetadata unmarked
    match written with
    | .error message => pure (.failed ("remove registration cleanup finalizer: " ++ message))
    | .ok _ => pure .empty

/-- The object that deletion works on: the entry, or a fresh one. -/
def deletionHandle (run : Run) : Process Nat := do
  let seen ← memory
  match seen.active with
  | some handle => do
    amend (.assign handle run)
    pure handle
  | none => buildActiveRun run

def reconcileDeletingRegistration (run : Run) : Process Result := do
  let handle ← deletionHandle run
  let failure ← releaseRuntimeServerState handle run
  match failure with
  | none => finishDeletion run
  | some message =>
    if runRegistrationCleanupFinalizer ∈ run.finalizers then
      pure { requeueAfter := some second, error := some message }
    else finishDeletion run

def cleanupDeletedRun : Process Result := do
  let seen ← memory
  match seen.entry with
  | none => pure .empty
  | some (handle, run) => do
    let _ ← releaseRuntimeServerState handle run
    releaseLocalRunState run
    pure .empty

def reconcile (controller : Controller) : Process Result := do
  let found ← getRun
  match found with
  | none => cleanupDeletedRun
  | some run =>
    if run.deleting then reconcileDeletingRegistration run
    else match run.status.phase with
      | .scheduled => reconcileScheduled controller run
      | .running => reconcileRunning controller run
      | .ready => reconcileReady controller run
      | .finalizing => reconcileFinalizing controller run
      | _ => pure .empty

/-- `runFilter` on the object of an event. -/
def runFilter (controller : Controller) (run : Run) : Bool :=
  (controller.runtimeNamespace == "" || run.nameSpace == controller.runtimeNamespace) &&
    run.status.assignedPod == controller.podName

/-- `recoverActiveRunsOnce`, for the Run. -/
def recoverActiveRunsOnce (controller : Controller) : Process Result := do
  let listed ← ask .listExecutions
  match (listed : Option Bool) with
  | none => pure .empty
  | some present => do
    let found ← listRuns controller.podName
    match found with
    | none => pure .empty
    | some run =>
      if run.status.assignedPod ≠ controller.podName ∨ run.status.phase ≠ .running then
        pure .empty
      else do
        let seen ← memory
        if seen.active.isSome then pure .empty
        else if present then do
          let _ ← addRecoveredRun run
          pure .empty
        else do
          let _ ← reconcileRunningRecovered controller run
          pure .empty

def isActiveRunOwnedByThisPod (controller : Controller) (run : Run) : Bool :=
  run.status.assignedPod == controller.podName &&
    (controller.runtimeName == "" || run.spec.runtime == controller.runtimeName) &&
    match run.status.phase with
    | .running | .ready | .finalizing => true
    | _ => false

/-- `activeRunsForShutdown`, for the Run: the listed copy, or else the entry with its own. -/
def activeRunsForShutdown (controller : Controller) : Process (Option (Nat × Run)) := do
  let found ← listRuns controller.podName
  match found.filter (isActiveRunOwnedByThisPod controller) with
  | some run => do
    let handle ← deletionHandle run
    pure (some (handle, run))
  | none => do
    let seen ← memory
    pure (seen.entry.filter fun entry => isActiveRunOwnedByThisPod controller entry.2)

/-- `drainActiveRunsOnShutdown`, for the Run. -/
def drainActiveRunsOnShutdown (controller : Controller) : Process Result := do
  let chosen ← activeRunsForShutdown controller
  match chosen with
  | none => pure .empty
  | some (handle, run) => do
    let failure ← releaseRuntimeServerState handle run
    match failure with
    | some _ => pure .empty
    | none => do
      releaseLocalRunState run
      match removeFinalizer run runRegistrationCleanupFinalizer with
      | none => pure .empty
      | some unmarked => do
        let _ ← updateLogged unmarked
        pure .empty

/-- The body of a goroutine. -/
def Goroutine.program (controller : Controller) (run : Run) : Goroutine → Process Result
  | .startExecution handle attempt => Runtimed.startExecution handle attempt
  | .registerSession handle => sessionRegistration handle run
  | .registerFunction handle => functionRegistration handle run
  | .drain => drainActiveRunsOnShutdown controller

/-! ## Every program keeps the contract -/

section Contract

variable {controller : Controller} {handle : Nat} {run : Run} {history : History}

theorem conforms_afterClaim (holds : held history = some run)
    (phase : run.status.phase = .running) (read : ReadScheduled history run) :
    Conforms controller (afterClaim handle run) history := by
  unfold afterClaim
  split
  · exact conforms_keepObserving handle run history
  simp only [Conforms, keeps_bind, keeps_query, Query.Permitted, true_and]
  intro prepared
  cases prepared with
  | none => exact conforms_keepObserving handle run _
  | some =>
    exact conforms_applyFailure holds (.refl run) (.inl phase)
      (.unprepared (.now holds phase) (read.later (List.suffix_cons _ _)))

theorem quiet_setClaimDeadline (startedAt : Time) (history : History) :
    Quiet controller (setClaimDeadline handle run startedAt) history := by
  unfold setClaimDeadline
  cases run.spec.timeout with
  | none => exact rfl
  | some => exact ⟨trivial, rfl⟩

theorem conforms_unclaimActiveRun (found : FoundNone history) :
    Conforms controller (unclaimActiveRun handle) history := by
  simp only [Conforms, unclaimActiveRun, keeps_bind, keeps_memory]
  intro seen
  split
  · exact ⟨.inr (.inl found.cons), trivial⟩
  · exact trivial

section Claims

variable (holds : held history = some run) (phase : run.status.phase = .scheduled)

include holds phase

theorem conforms_claimRun (found : FoundNone history) :
    Conforms controller (claimRun controller run) history := by
  apply (quiet_buildActiveRun run history).keeps_bind
  intro handle built longer same
  apply (quiet_tryClaimActiveRun handle run built).keeps_bind
  intro claimed tried longerStill kept
  split
  · simp only [keeps_bind, keeps_now]
    intro startedAt
    apply (quiet_setClaimDeadline startedAt _).weaken
    intro _ later last unchanged
    have known : held later = some run := held_of_handed (unchanged.trans (kept.trans same)) holds
    have foundLater : FoundNone later :=
      found.later (longer.trans (longerStill.trans ((List.suffix_cons _ _).trans last)))
    simp only [keeps_updateStatus]
    refine ⟨⟨run, known, .claim phase foundLater⟩, ?_⟩
    intro answer given
    cases answer with
    | error => exact (keeps_bind _ _).mpr (conforms_unclaimActiveRun foundLater.cons)
    | ok stored =>
      obtain ⟨_, _, rfl⟩ := given stored rfl
      refine conforms_afterClaim rfl ?_
        ⟨run, .tail _ (List.mem_of_head? known), phase, ?_⟩ <;>
      · simp only [storeStatus_phase, storeStatus_attempt, claimStatus]
        split <;> rfl
  · exact trivial

theorem conforms_reconcileUnclaimed (found : FoundNone history) :
    Conforms controller (reconcileUnclaimed controller run) history := by
  unfold reconcileUnclaimed
  split
  case isTrue requested =>
    apply (quiet_buildActiveRun run _).keeps_bind
    intro handle later _ same
    have active : run.status.phase.isActive = true := by rw [phase]; rfl
    exact conforms_applyTerminal (held_of_handed same holds) (.refl run) active
      (.inl ⟨rfl, requested, .inr (.inl phase)⟩) (by simp)
  case isFalse =>
    simp only [Conforms, keeps_bind, keeps_query, Query.Permitted, true_and]
    intro healthy
    cases healthy with
    | false => exact trivial
    | true =>
      simp only [addRegistrationFinalizer]
      split
      · cases added : addFinalizer run runRegistrationCleanupFinalizer with
        | none => exact conforms_claimRun holds phase found.cons
        | some marked =>
          have version : marked.resourceVersion = run.resourceVersion := by
            unfold addFinalizer at added
            split at added
            · contradiction
            · cases added
              rfl
          simp only [keeps_bind, keeps_updateMetadata]
          refine ⟨⟨run, holds, version⟩, ?_⟩
          intro answer given
          cases answer with
          | error => exact trivial
          | ok stored =>
            obtain ⟨_, known, rfl⟩ := given stored rfl
            obtain rfl := Option.some.inj (holds.symm.trans known)
            exact conforms_claimRun rfl phase found.cons.cons
      · exact conforms_claimRun holds phase found.cons

theorem conforms_reconcileScheduled (first : firstLook history = none) :
    Conforms controller (reconcileScheduled controller run) history := by
  simp only [Conforms, reconcileScheduled, keeps_bind, keeps_memory]
  intro seen
  split
  · exact trivial
  case isFalse vacant =>
    have found : FoundNone (⟨.query .memory, seen⟩ :: history) :=
      foundNone_of_firstLook first (by simpa using vacant)
    exact conforms_reconcileUnclaimed holds phase found

end Claims

theorem conforms_reconcileRunning (holds : held history = some run)
    (phase : run.status.phase = .running) (first : firstLook history = none)
    (uncleaned : Uncleaned history) (steady : Steady history run.status.attempt) :
    Conforms controller (reconcileRunning controller run) history := by
  unfold reconcileRunning
  split
  case isTrue session => exact conforms_reconcileRunningSession holds phase session first
  case isFalse =>
    split
    case isTrue function => exact conforms_reconcileRunningFunction holds phase function first
    case isFalse => exact conforms_reconcileRunningTask holds phase first uncleaned steady

theorem conforms_reconcileReady (holds : held history = some run)
    (phase : run.status.phase = .ready) :
    Conforms controller (reconcileReady controller run) history := by
  unfold reconcileReady
  split
  case isTrue session => exact conforms_reconcileReadySession holds phase session
  case isFalse =>
    split
    case isTrue function => exact conforms_reconcileReadyFunction holds phase function
    case isFalse => exact trivial

theorem quiet_deletionHandle (run : Run) (history : History) :
    Quiet controller (deletionHandle run) history := by
  simp only [Quiet, deletionHandle, keeps_bind, keeps_memory]
  intro seen
  cases seen.active with
  | some => exact ⟨trivial, rfl⟩
  | none => exact quiet_buildActiveRun run _

theorem conforms_finishDeletion (holds : held history = some run)
    (deleted : Deleted history) : Conforms controller (finishDeletion run) history := by
  apply (quiet_releaseLocalRunState controller run history (.inr (.inl deleted))).keeps_bind
  intro _ later _ same
  cases removed : removeFinalizer run runRegistrationCleanupFinalizer with
  | none => exact trivial
  | some unmarked =>
    have version : unmarked.resourceVersion = run.resourceVersion := by
      unfold removeFinalizer at removed
      split at removed
      · cases removed
        rfl
      · contradiction
    simp only [keeps_bind, keeps_updateMetadata]
    refine ⟨⟨run, held_of_handed same holds, version⟩, ?_⟩
    intro answer _
    cases answer <;> exact trivial

theorem conforms_reconcileDeletingRegistration (holds : held history = some run)
    (deleted : Deleted history) :
    Conforms controller (reconcileDeletingRegistration run) history := by
  apply (quiet_deletionHandle run history).keeps_bind
  intro handle chosen longer same
  apply (quiet_releaseRuntimeServerState controller handle run chosen).keeps_bind
  intro failure later longerStill kept
  have known : held later = some run := held_of_handed (kept.trans same) holds
  have deletedLater : Deleted later := deleted.later (longer.trans longerStill)
  cases failure with
  | none => exact conforms_finishDeletion known deletedLater
  | some =>
    simp only
    split
    · exact trivial
    · exact conforms_finishDeletion known deletedLater

theorem conforms_cleanupDeletedRun (deleted : Deleted history) :
    Conforms controller cleanupDeletedRun history := by
  simp only [Conforms, cleanupDeletedRun, keeps_bind, keeps_memory]
  intro seen
  split
  · exact trivial
  apply (quiet_releaseRuntimeServerState controller _ _ _).keeps_bind
  intro _ later longer _
  exact (quiet_releaseLocalRunState controller _ later
    (.inr (.inl (deleted.later ((List.suffix_cons _ _).trans longer))))).keeps_bind
    fun _ _ _ _ => trivial

/-- `Reconcile` keeps the contract. -/
theorem conforms_reconcile (controller : Controller) :
    Conforms controller (reconcile controller) [] := by
  simp only [Conforms, reconcile, keeps_bind, keeps_getRun]
  intro found
  cases found with
  | none => exact conforms_cleanupDeletedRun (.inl (.head _))
  | some run =>
    simp only
    split
    case isTrue deleting =>
      exact conforms_reconcileDeletingRegistration rfl (.inr ⟨run, .head _, deleting⟩)
    case isFalse =>
      cases phase : run.status.phase with
      | scheduled => exact conforms_reconcileScheduled rfl phase rfl
      | running =>
        refine conforms_reconcileRunning rfl phase rfl ?_ (List.forall_mem_singleton.mpr rfl)
        intro answer mem
        cases List.mem_singleton.mp mem
      | ready => exact conforms_reconcileReady rfl phase
      | finalizing => exact conforms_reconcileFinalizing rfl phase
      | unset | pending | succeeded | failed | timeout | cancelled => exact trivial

/-- Startup recovery keeps the contract. -/
theorem conforms_recoverActiveRunsOnce (controller : Controller) :
    Conforms controller (recoverActiveRunsOnce controller) [] := by
  simp only [Conforms, recoverActiveRunsOnce, keeps_bind, keeps_query, Query.Permitted, true_and]
  intro listed
  cases listed with
  | none => exact trivial
  | some present =>
    simp only [keeps_bind, keeps_listRuns]
    intro found
    cases found with
    | none => exact trivial
    | some run =>
      simp only
      split
      · exact trivial
      case isFalse own =>
        have assigned : run.status.assignedPod = controller.podName := not_not.mp (not_or.mp own).1
        have phase : run.status.phase = .running := not_not.mp (not_or.mp own).2
        simp only [keeps_bind, keeps_memory]
        intro seen
        split
        · exact trivial
        case isFalse vacant =>
          have missing : seen.active = none := by simpa using vacant
          have unclaimed : FoundNone (⟨.query .memory, seen⟩ ::
              ⟨.listRuns controller.podName, some run⟩ ::
              [⟨.query .listExecutions, some present⟩]) :=
            foundNone_of_firstLook rfl missing
          have taken := handed_listRuns assigned [⟨.query .listExecutions, some present⟩]
          have holds : held _ = some run := congrArg List.head? taken
          have stillHolds := held_of_handed (handed_query .memory seen _) holds
          split
          · exact (quiet_addRecoveredRun run unclaimed).keeps_bind fun _ _ _ _ => trivial
          rw [keeps_bind]
          refine (conforms_reconcileRunningRecovered stillHolds phase unclaimed
            (.now holds phase) missing ?_).weaken fun _ _ _ _ => trivial
          have empty : Steady [] run.status.attempt := fun _ none => by cases none
          exact empty.cons taken rfl

theorem quiet_activeRunsForShutdown (draining : Draining history) :
    (activeRunsForShutdown controller).Keeps (contract controller)
      (fun _ later => Draining later) history := by
  simp only [activeRunsForShutdown, keeps_bind, keeps_listRuns]
  intro found
  have listed : Draining (⟨.listRuns controller.podName, found⟩ :: history) :=
    draining.later (List.suffix_cons _ _)
  split
  · rw [keeps_bind]
    apply (quiet_deletionHandle _ _).weaken
    intro handle later longer _
    exact listed.later longer
  · simp only [keeps_bind, keeps_memory]
    exact fun _ => listed.later (List.suffix_cons _ _)

/-- The shutdown drain keeps the contract. -/
theorem conforms_drainActiveRunsOnShutdown (draining : Draining history) :
    Conforms controller (drainActiveRunsOnShutdown controller) history := by
  unfold Conforms drainActiveRunsOnShutdown
  rw [keeps_bind]
  apply (quiet_activeRunsForShutdown draining).weaken
  intro chosen later _ still
  match chosen with
  | none => exact trivial
  | some (handle, run) =>
    apply (quiet_releaseRuntimeServerState controller handle run later).keeps_bind
    intro failure cleaned longer _
    have last := still.later longer
    cases failure with
    | some => exact trivial
    | none =>
      apply (quiet_releaseLocalRunState controller run cleaned (.inr (.inr last))).keeps_bind
      intro _ released longest _
      split
      · exact trivial
      · simp only [keeps_bind, keeps_updateLogged]
        exact ⟨last.later longest, fun _ => trivial⟩

/-- The goroutines keep the contract. -/
theorem conforms_goroutine (controller : Controller) (run : Run) (goroutine : Goroutine) :
    Conforms controller (goroutine.program controller run)
      [⟨.query .arguments, goroutine⟩] := by
  cases goroutine with
  | startExecution handle attempt => exact conforms_startExecution controller handle attempt
  | registerSession handle => exact conforms_sessionRegistration handle run _
  | registerFunction handle => exact conforms_functionRegistration handle run _
  | drain => exact conforms_drainActiveRunsOnShutdown rfl

end Contract

end Kruntimes.Runtimed
