import Kruntimes.Runtimed.Session

/-!
# Function Runs

Registration of a Function with the local Runtime Server, its readiness with the
deadline and the idle timeout, and unregistration.
-/

namespace Kruntimes.Runtimed

open Api Transition
open Program (keeps_bind)

/-! ## Registration -/

/-- The goroutine of `startFunctionRegistrationAsync`. -/
def functionRegistration (handle : Nat) (run : Run) : Process Result := do
  let object ← activeRun handle run
  let prepared ← prepareFunction handle object.run
  match prepared with
  | some message => do
    amend (.finishFunctionRegistration handle none
      (some { reason := reasonPrepareSource, message := "prepare function: " ++ message }))
    pure .empty
  | none => do
    let object ← activeRun handle run
    let registered ← registerFunction object.run
    match registered with
    | .error message => do
      amend (.finishFunctionRegistration handle none
        (some { reason := reasonRuntimeExecute, message := "register function: " ++ message }))
      pure .empty
    | .ok registration => do
      amend (.finishFunctionRegistration handle (some registration) none)
      pure .empty

/-- `startFunctionRegistrationAsync` up to the start of its goroutine. -/
def startFunctionRegistrationAsync (handle : Nat) (run : Run) : Process Unit := do
  let object ← activeRun handle run
  if object.functionRegistering then pure ()
  else amend (.beginFunctionRegistration handle)

/-- The phase of the Run after `applyFailure` has stored its outcome. -/
def phaseAfterFailure (run : Run) (reason : String) : RunPhase :=
  if shouldRetry (withDefaults run.spec.retryPolicy) (currentAttempt run.status.attempt) reason then
    run.status.phase
  else terminalPhaseForFailure reason

def applyFunctionRegistrationFailure (handle : Nat) (run : Run) (reason message : String) :
    Process Result := do
  let result ← applyFailure handle run reason message
  if result.error = none ∧ phaseAfterFailure run reason = .running then do
    amend (.resetFunctionRegistration handle)
    pure result
  else pure result

/-! ## Readiness -/

def closeFunctionAndApplyTerminal (handle : Nat) (run : Run) (phase : RunPhase)
    (reason message : String) : Process Result := do
  let failure ← ensureActiveFunctionClosed handle run
  match failure with
  | some _ => pure (.requeue second)
  | none => applyTerminal handle run phase reason message

def applyFunctionReady (controller : Controller) (run : Run) (requeueAfter : Duration) :
    Process Result :=
  if (run.status.phase ≠ .running ∧ run.status.phase ≠ .ready) ∨
      run.status.assignedPod ≠ controller.podName then pure .empty
  else if run.status.phase = .ready then pure (.requeue requeueAfter)
  else do
    let time ← now
    let written ← updateStatus (functionReadyStatus run time)
    match written with
    | .error message => pure (.failed message)
    | .ok _ => pure (.requeue requeueAfter)

def reconcileFunctionReadyStatus (controller : Controller) (handle : Nat) (run : Run)
    (response : FunctionStatusResponse) : Process Result := do
  let time ← now
  let object ← activeRun handle run
  if object.isDue time then
    closeFunctionAndApplyTerminal handle run .timeout reasonTimeout (timeoutMessage controller run)
  else match run.spec.mode.function.bind RunFunctionMode.idleTimeoutSeconds with
    | none => applyFunctionReady controller run (activeRunRequeueAfter object time)
    | some seconds =>
      let idleDeadline := response.lastActivityUnixNano + seconds * second
      if response.lastActivityUnixNano ≤ 0 then
        applyFunctionRegistrationFailure handle run reasonRuntimeExecute
          "Runtime Server returned no function activity timestamp"
      else if idleDeadline ≤ time then
        closeFunctionAndApplyTerminal handle run .timeout reasonTimeout
          "function idle timeout exceeded"
      else
        applyFunctionReady controller run
          (min (activeRunRequeueAfter object time) (idleDeadline - time))

/-- The registration in a response is not the one that was asked for. -/
def isMismatched (run : Run) (registration : FunctionRegistration)
    (response : FunctionStatusResponse) : Bool :=
  match response.registration with
  | none => true
  | some found => found.runUid != run.uid || found.registrationId != registration.registrationId

/-- The branch of `reconcileFunctionRegistration` for a remembered registration. -/
def reconcileRegisteredFunction (controller : Controller) (handle : Nat) (run : Run)
    (registration : FunctionRegistration) : Process Result := do
  let polled ← ask (.functionStatus registration)
  match (polled : Polled FunctionStatusResponse) with
  | .notFound =>
    applyFunctionRegistrationFailure handle run reasonRuntimeExecute
      "function registration not found"
  | .unavailable message => pure (.failed ("get FunctionRuntime registration status: " ++ message))
  | .response response =>
    if isMismatched run registration response then
      applyFunctionRegistrationFailure handle run reasonRuntimeExecute
        "Runtime Server returned mismatched function registration"
    else match response.state with
      | .ready => reconcileFunctionReadyStatus controller handle run response
      | .registering => keepObserving handle run
      | .failed =>
        applyFunctionRegistrationFailure handle run reasonRuntimeExecute
          (boundedStatusMessage response.fatalError)
      | state =>
        applyFunctionRegistrationFailure handle run reasonRuntimeExecute
          ("Runtime Server function registration is " ++ state.name)

def reconcileFunctionRegistration (controller : Controller) (handle : Nat) (run : Run) :
    Process Result := do
  let object ← activeRun handle run
  match object.functionRegistrationRef with
  | some registration => reconcileRegisteredFunction controller handle run registration
  | none => do
    let object ← activeRun handle run
    match object.functionRegistration.bind FunctionRegistrationState.failure with
    | some failure => do
      amend (.clearFunctionRegistration handle)
      applyFunctionRegistrationFailure handle run failure.reason failure.message
    | none => do
      let object ← activeRun handle run
      if object.functionRegistering then keepObserving handle run
      else do
        startFunctionRegistrationAsync handle run
        keepObserving handle run

/-! ## The Running and the Ready phase -/

/-- A Function without a local entry: `reconcileRunningFunction` and
`reconcileReadyFunction` claim it again. -/
def claimFunction (controller : Controller) (run : Run) : Process Result := do
  let handle ← buildActiveRun run
  let claimed ← tryClaimActiveRun controller handle run
  if claimed then reconcileFunctionRegistration controller handle run
  else pure (.requeue second)

def reconcileRunningFunction (controller : Controller) (run : Run) : Process Result := do
  let seen ← memory
  match seen.active with
  | none => claimFunction controller run
  | some handle => do
    amend (.assign handle run)
    if run.spec.hasImmediateTermination then
      closeFunctionAndApplyTerminal handle run .cancelled reasonCancelled "cancelled by user"
    else do
      let time ← now
      let object ← activeRun handle run
      if object.isDue time then
        closeFunctionAndApplyTerminal handle run .timeout reasonTimeout
          (timeoutMessage controller run)
      else if inBackoff run then reconcileRetryBackoff controller handle run
      else reconcileFunctionRegistration controller handle run

def reconcileReadyFunction (controller : Controller) (run : Run) : Process Result := do
  let seen ← memory
  match seen.active with
  | none => claimFunction controller run
  | some handle => do
    amend (.assign handle run)
    if run.spec.hasImmediateTermination then
      closeFunctionAndApplyTerminal handle run .cancelled reasonCancelled "cancelled by user"
    else reconcileFunctionRegistration controller handle run

/-! ## The contract of the Function branch -/

section Contract

variable {controller : Controller} {handle : Nat} {run : Run} {history : History}

theorem conforms_functionRegistration (handle : Nat) (run : Run) (history : History) :
    Conforms controller (functionRegistration handle run) history := by
  simp only [Conforms, functionRegistration, prepareFunction, keeps_bind, keeps_activeRun]
  intro seen
  refine (quiet_prepareRegistration controller handle _ _).weaken ?_
  intro prepared later _ _
  cases prepared with
  | some => exact ⟨trivial, trivial⟩
  | none =>
    simp only [keeps_bind, keeps_activeRun]
    intro again
    refine (quiet_registerFunction controller _ _).weaken ?_
    intro registered last _ _
    cases registered <;> exact ⟨trivial, trivial⟩

section Registration

variable {phase : RunPhase} {reason message : String} {requeueAfter : Duration}
  (holds : held history = some run)

include holds

theorem conforms_applyFunctionRegistrationFailure
    (phase : run.status.phase = .running ∨ run.status.phase = .ready)
    (mode : run.spec.mode.function.isSome = true) :
    Conforms controller (applyFunctionRegistrationFailure handle run reason message)
      history := by
  unfold applyFunctionRegistrationFailure Conforms
  rw [keeps_bind]
  refine (conforms_applyFailure holds (.refl run) phase (.registration (.inr mode))).weaken ?_
  intro result later _ _
  split
  · exact ⟨trivial, trivial⟩
  · exact trivial

theorem conforms_closeFunctionAndApplyTerminal
    (active : run.status.phase.isActive = true) (cause : FinishCause history run phase)
    (unsuccessful : phase ≠ .succeeded) :
    Conforms controller (closeFunctionAndApplyTerminal handle run phase reason message)
      history := by
  apply (quiet_ensureActiveFunctionClosed controller handle run history).keeps_bind
  intro failure later longer same
  cases failure with
  | some => exact trivial
  | none =>
    exact conforms_applyTerminal (held_of_handed same holds) (.refl run) active
      (cause.later longer) fun succeeded => absurd succeeded unsuccessful

/-- A Function that is due or idle for too long ends with a timeout. -/
theorem conforms_closeExpiredFunction
    (phase : run.status.phase = .running ∨ run.status.phase = .ready)
    (mode : run.spec.mode.function.isSome = true) :
    Conforms controller (closeFunctionAndApplyTerminal handle run .timeout reason message)
      history := by
  have active : run.status.phase.isActive = true := by
    rcases phase with phase | phase <;> rw [phase] <;> rfl
  have serving : run.status.phase ≠ .finalizing := by
    rcases phase with phase | phase <;> rw [phase] <;> exact nofun
  exact conforms_closeFunctionAndApplyTerminal holds active
    (.inr (.inr ⟨.inr rfl, .registration (.inr mode), fun finalizing =>
      absurd finalizing serving⟩)) nofun

theorem conforms_applyFunctionReady
    (mode : run.spec.mode.function.isSome = true) :
    Conforms controller (applyFunctionReady controller run requeueAfter) history := by
  unfold applyFunctionReady
  split
  · exact trivial
  case isFalse fenced =>
    obtain ⟨live, own⟩ := not_or.mp fenced
    split
    · exact trivial
    case isFalse notReady =>
      have phase : run.status.phase = .running := by
        by_contra other
        exact live ⟨other, notReady⟩
      simp only [Conforms, keeps_bind, keeps_now, keeps_updateStatus]
      intro time
      refine ⟨⟨run, holds, .functionReady phase mode (not_not.mp own)⟩, ?_⟩
      intro answer _
      cases answer <;> exact trivial

end Registration

section Registered

variable {response : FunctionStatusResponse} {registration : FunctionRegistration}

variable (holds : held history = some run)
  (phase : run.status.phase = .running ∨ run.status.phase = .ready)
  (mode : run.spec.mode.function.isSome = true)

include holds phase mode

theorem conforms_reconcileFunctionReadyStatus :
    Conforms controller (reconcileFunctionReadyStatus controller handle run response)
      history := by
  simp only [Conforms, reconcileFunctionReadyStatus, keeps_bind, keeps_now, keeps_activeRun]
  intro time seen
  split
  · exact conforms_closeExpiredFunction holds phase mode
  split
  · exact conforms_applyFunctionReady holds mode
  split
  · exact conforms_applyFunctionRegistrationFailure holds phase mode
  split
  · exact conforms_closeExpiredFunction holds phase mode
  · exact conforms_applyFunctionReady holds mode

theorem conforms_reconcileRegisteredFunction :
    Conforms controller (reconcileRegisteredFunction controller handle run registration)
      history := by
  simp only [Conforms, reconcileRegisteredFunction, keeps_bind, keeps_query, Query.Permitted,
    true_and]
  intro polled
  cases polled with
  | notFound => exact conforms_applyFunctionRegistrationFailure holds phase mode
  | unavailable => exact trivial
  | response response =>
    simp only
    split
    · exact conforms_applyFunctionRegistrationFailure holds phase mode
    cases response.state with
    | ready => exact conforms_reconcileFunctionReadyStatus holds phase mode
    | registering => exact conforms_keepObserving handle run _
    | failed | unspecified
    | draining => exact conforms_applyFunctionRegistrationFailure holds phase mode

theorem conforms_reconcileFunctionRegistration :
    Conforms controller (reconcileFunctionRegistration controller handle run) history := by
  simp only [Conforms, reconcileFunctionRegistration, keeps_bind, keeps_activeRun]
  intro first
  split
  · exact conforms_reconcileRegisteredFunction holds phase mode
  simp only [keeps_bind, keeps_activeRun]
  intro second
  split
  · exact ⟨trivial, conforms_applyFunctionRegistrationFailure holds phase mode⟩
  simp only [keeps_bind, keeps_activeRun]
  intro third
  split
  · exact conforms_keepObserving handle run _
  simp only [startFunctionRegistrationAsync, keeps_bind, keeps_activeRun]
  intro fourth
  split
  · exact conforms_keepObserving handle run _
  · exact ⟨trivial, conforms_keepObserving handle run _⟩

theorem conforms_claimFunction :
    Conforms controller (claimFunction controller run) history := by
  apply (quiet_buildActiveRun run history).keeps_bind
  intro handle later _ same
  apply (quiet_tryClaimActiveRun handle run later).keeps_bind
  intro claimed last _ kept
  split
  · exact conforms_reconcileFunctionRegistration (held_of_handed (kept.trans same) holds) phase mode
  · exact trivial

end Registered

theorem conforms_reconcileRunningFunction (holds : held history = some run)
    (phase : run.status.phase = .running) (mode : run.spec.mode.function.isSome = true)
    (first : firstLook history = none) :
    Conforms controller (reconcileRunningFunction controller run) history := by
  have active : run.status.phase.isActive = true := by rw [phase]; rfl
  simp only [Conforms, reconcileRunningFunction, keeps_bind, keeps_memory]
  intro seen
  cases known : seen.active with
  | none => exact conforms_claimFunction holds (.inl phase) mode
  | some handle =>
    have found : FoundEntry (⟨.query .memory, seen⟩ :: history) handle :=
      foundEntry_of_firstLook first known
    simp only [keeps_bind, keeps_edit]
    refine ⟨trivial, ?_⟩
    split
    case isTrue requested =>
      exact conforms_closeFunctionAndApplyTerminal holds active
        (.inl ⟨rfl, requested, .inr (.inr (.inr mode))⟩) (by simp)
    case isFalse =>
      simp only [keeps_bind, keeps_now, keeps_activeRun]
      intro time again
      split
      · exact conforms_closeExpiredFunction holds (.inl phase) mode
      split
      case isTrue waiting =>
        exact conforms_reconcileRetryBackoff holds phase found.cons.cons waiting
      case isFalse =>
        exact conforms_reconcileFunctionRegistration holds (.inl phase) mode

theorem conforms_reconcileReadyFunction (holds : held history = some run)
    (phase : run.status.phase = .ready) (mode : run.spec.mode.function.isSome = true) :
    Conforms controller (reconcileReadyFunction controller run) history := by
  have active : run.status.phase.isActive = true := by rw [phase]; rfl
  simp only [Conforms, reconcileReadyFunction, keeps_bind, keeps_memory]
  intro seen
  cases seen.active with
  | none => exact conforms_claimFunction holds (.inr phase) mode
  | some =>
    simp only [keeps_bind, keeps_edit]
    refine ⟨trivial, ?_⟩
    split
    case isTrue requested =>
      exact conforms_closeFunctionAndApplyTerminal holds active
        (.inl ⟨rfl, requested, .inr (.inr (.inr mode))⟩) (by simp)
    case isFalse =>
      exact conforms_reconcileFunctionRegistration holds (.inr phase) mode

end Contract

end Kruntimes.Runtimed
