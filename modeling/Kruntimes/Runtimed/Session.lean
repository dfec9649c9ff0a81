import Kruntimes.Runtimed.Task

/-!
# Session Runs

Registration of a Session with the local Runtime Server, its Ready phase with the
timeout and the lease, recovery after a restart, and finalization.
-/

namespace Kruntimes.Runtimed

open Api Transition
open Program (keeps_bind)

/-! ## Registration -/

def prepareSession (handle : Nat) (run : Run) : Process (Option String) :=
  prepareRegistration handle run

/-- `sessionRegistrationRequest`, up to the identity. -/
def sessionRegistrationRequest (run : Run) : Except String SessionIdentity :=
  if run.uid = "" then .error "session registration requires a Run UID"
  else if run.status.assignedPodUID = "" then
    .error "session registration requires an assigned Pod UID"
  else if run.spec.mode.session.isNone then
    .error "session registration requires session mode"
  else sessionIdentityForRun run

def registerSession (run : Run) : Process (Option String) :=
  match sessionRegistrationRequest run with
  | .error message => pure (some message)
  | .ok identity => do
    let answer ← ask (.registerSession identity)
    match (answer : Except String SessionState) with
    | .error message => pure (some message)
    | .ok .ready => pure none
    | .ok state => pure (some ("Runtime Server returned session state " ++ state.name))

/-- The goroutine of `startSessionRegistrationAsync`. -/
def sessionRegistration (handle : Nat) (run : Run) : Process Result := do
  let object ← activeRun handle run
  let prepared ← prepareSession handle object.run
  match prepared with
  | some message => do
    amend (.finishSessionRegistration handle
      (some { reason := reasonPrepareSource, message := "prepare session: " ++ message }))
    pure .empty
  | none => do
    let object ← activeRun handle run
    let registered ← registerSession object.run
    match registered with
    | some message => do
      amend (.finishSessionRegistration handle
        (some { reason := reasonSessionRegister, message := "register session: " ++ message }))
      pure .empty
    | none => do
      amend (.finishSessionRegistration handle none)
      pure .empty

/-- `startSessionRegistrationAsync` up to the start of its goroutine. -/
def startSessionRegistrationAsync (handle : Nat) (run : Run) : Process Unit := do
  let object ← activeRun handle run
  if object.sessionRegistering then pure ()
  else amend (.beginSessionRegistration handle)

def applySessionReady (controller : Controller) (handle : Nat) (run : Run) :
    Process Result :=
  if run.status.phase ≠ .running ∨ run.status.assignedPod ≠ controller.podName then
    pure .empty
  else do
    let time ← now
    let written ← updateStatus (sessionReadyStatus run time)
    match written with
    | .error message => pure (.failed message)
    | .ok stored => do
      let tracked ← ask .ensureOperations
      match (tracked : Option String) with
      | some message => pure (.failed ("start Session idle tracking: " ++ message))
      | none => keepObserving handle stored

def reconcileSessionRegistration (controller : Controller) (handle : Nat) (run : Run) :
    Process Result :=
  match sessionIdentityForRun run with
  | .error message => applyFailure handle run reasonSessionRegister message
  | .ok identity => do
    let polled ← ask (.sessionStatus identity)
    match (polled : Polled SessionState) with
    | .unavailable message =>
      pure (.failed ("get SessionRuntime registration status: " ++ message))
    | .notFound => do
      let object ← activeRun handle run
      match object.sessionRegistration with
      | some failure => do
        amend (.clearSessionRegistration handle)
        applyFailure handle run failure.reason failure.message
      | none => do
        let object ← activeRun handle run
        if object.sessionRegistering then keepObserving handle run
        else do
          startSessionRegistrationAsync handle run
          keepObserving handle run
    | .response .ready => applySessionReady controller handle run
    | .response .registering => keepObserving handle run
    | .response state =>
      applyFailure handle run reasonSessionRegister ("Runtime Server session is " ++ state.name)

/-! ## Recovery -/

/-- The branch of `reconcileSessionRecovery` for a Session that is still registered. -/
def restoreSession (controller : Controller) (handle : Nat) (run : Run) :
    Process Result := do
  let claimed ← tryClaimActiveRun controller handle run
  if claimed then do
    let tracked ← ask .ensureOperations
    match (tracked : Option String) with
    | some message => pure (.failed ("restore Session idle tracking: " ++ message))
    | none =>
      if run.status.phase = .running then applySessionReady controller handle run
      else keepObserving handle run
  else pure (.requeue second)

def reconcileSessionRecovery (controller : Controller) (run : Run) : Process Result := do
  let handle ← buildActiveRun run
  match sessionIdentityForRun run with
  | .error message => applyTerminal handle run .failed reasonExecutionLost message
  | .ok identity => do
    let polled ← ask (.sessionStatus identity)
    match (polled : Polled SessionState) with
    | .unavailable message =>
      pure (.failed ("get SessionRuntime status after runtimed restart: " ++ message))
    | .notFound =>
      if run.status.phase = .running then do
        let claimed ← tryClaimActiveRun controller handle run
        if claimed then reconcileSessionRegistration controller handle run
        else pure (.requeue second)
      else
        applyTerminal handle run .failed reasonExecutionLost
          "runtime session not found after runtimed restart"
    | .response .ready => restoreSession controller handle run
    | .response state =>
      applyTerminal handle run .failed reasonExecutionLost
        ("runtime session recovered in state " ++ state.name)

/-! ## Closing and finalization -/

def closeSessionAndApplyTerminal (handle : Nat) (run : Run) (phase : RunPhase)
    (reason message : String) : Process Result := do
  let failure ← ensureActiveSessionClosed handle run
  match failure with
  | some _ => pure (.requeue second)
  | none => applyTerminal handle run phase reason message

def beginSessionFinalization (run : Run) : Process Result :=
  if run.spec.mode.session.isNone then
    pure (.failed "Session Run is required for finalization")
  else if run.status.phase ≠ .running ∧ run.status.phase ≠ .ready then pure .empty
  else do
    let time ← now
    let written ← updateStatus (finalizingStatus run time)
    match written with
    | .error message => pure (.failed message)
    | .ok _ => pure .empty

def completeFinalizingSession (controller : Controller) (handle : Nat) (run : Run) :
    Process Result := do
  let collected ← collectArtifacts controller run
  match collected with
  | (run, .error (.invalid message)) => applyTerminal handle run .failed "ArtifactInvalid" message
  | (_, .error (.transient _)) => pure (.requeue second)
  | (run, .ok artifactRefs) =>
    applyTerminal handle { run with status := { run.status with artifactRefs } } .succeeded
      "SessionCompleted" "session finalized"

def reconcileFinalizing (controller : Controller) (run : Run) : Process Result :=
  if run.spec.mode.session.isNone then do
    let handle ← buildActiveRun run
    applyTerminal handle run .failed reasonExecutionLost "non-Session Run entered Finalizing"
  else do
    let seen ← memory
    match seen.active with
    | none => reconcileSessionRecovery controller run
    | some handle => do
      amend (.assign handle run)
      if run.spec.hasImmediateTermination then
        closeSessionAndApplyTerminal handle run .cancelled reasonCancelled "cancelled by user"
      else do
        let time ← now
        let object ← activeRun handle run
        if object.isDue time then
          closeSessionAndApplyTerminal handle run .timeout reasonTimeout
            (timeoutMessage controller run)
        else do
          let drained ← ask .drainOperations
          match (drained : Bool) with
          | false => pure (.requeue (100 * millisecond))
          | true => do
            let failure ← ensureActiveSessionClosed handle run
            match failure with
            | some _ => pure (.requeue second)
            | none => completeFinalizingSession controller handle run

/-! ## The Running and the Ready phase -/

def reconcileRunningSession (controller : Controller) (run : Run) : Process Result := do
  let seen ← memory
  match seen.active with
  | none => reconcileSessionRecovery controller run
  | some handle => do
    amend (.assign handle run)
    if run.spec.hasImmediateTermination then
      closeSessionAndApplyTerminal handle run .cancelled reasonCancelled "cancelled by user"
    else if run.spec.hasDrainTermination then beginSessionFinalization run
    else if inBackoff run then reconcileRetryBackoff controller handle run
    else reconcileSessionRegistration controller handle run

/-- The lease timeout of a Session. -/
def leaseTimeout (run : Run) : Option Duration :=
  (run.spec.mode.session.bind RunSessionMode.leaseTimeoutSeconds).map fun seconds =>
    seconds * second

def sessionLeaseDeadline (run : Run) : Process (Option Time) :=
  match leaseTimeout run with
  | none => pure none
  | some timeout => ask (.leaseDeadline timeout)

def reconcileReadySession (controller : Controller) (run : Run) : Process Result := do
  let seen ← memory
  match seen.active with
  | none => reconcileSessionRecovery controller run
  | some handle => do
    amend (.assign handle run)
    if run.spec.hasImmediateTermination then
      closeSessionAndApplyTerminal handle run .cancelled reasonCancelled "cancelled by user"
    else if run.spec.hasDrainTermination then beginSessionFinalization run
    else do
      let time ← now
      let object ← activeRun handle run
      if object.isDue time then
        closeSessionAndApplyTerminal handle run .timeout reasonTimeout
          (timeoutMessage controller run)
      else do
        let untilDeadline := match object.deadline with
          | none => activeRunRequeueAfter object time
          | some deadline => min (activeRunRequeueAfter object time) (deadline - time)
        let lease ← sessionLeaseDeadline run
        match lease with
        | none => pure (.requeue untilDeadline)
        | some deadline =>
          if deadline ≤ time then
            closeSessionAndApplyTerminal handle run .timeout reasonTimeout "session lease expired"
          else pure (.requeue (min untilDeadline (deadline - time)))

/-! ## The contract of the Session branch -/

section Contract

variable {controller : Controller} {handle : Nat} {run : Run} {history : History}

theorem quiet_registerSession (run : Run) (history : History) :
    Quiet controller (registerSession run) history := by
  unfold registerSession
  cases sessionRegistrationRequest run with
  | error => exact rfl
  | ok =>
    simp only [Quiet, keeps_bind, keeps_query, Query.Permitted, true_and]
    intro answer
    cases answer with
    | error => exact rfl
    | ok state => cases state <;> exact rfl

theorem conforms_sessionRegistration (handle : Nat) (run : Run) (history : History) :
    Conforms controller (sessionRegistration handle run) history := by
  simp only [Conforms, sessionRegistration, prepareSession, keeps_bind, keeps_activeRun]
  intro seen
  refine (quiet_prepareRegistration controller handle _ _).weaken ?_
  intro prepared later _ _
  cases prepared with
  | some => exact ⟨trivial, trivial⟩
  | none =>
    simp only [keeps_bind, keeps_activeRun]
    intro again
    refine (quiet_registerSession _ _).weaken ?_
    intro registered last _ _
    cases registered <;> exact ⟨trivial, trivial⟩

theorem conforms_applySessionReady (holds : held history = some run)
    (mode : run.spec.mode.session.isSome = true) :
    Conforms controller (applySessionReady controller handle run) history := by
  unfold applySessionReady
  split
  · exact trivial
  case isFalse fenced =>
    obtain ⟨phase, own⟩ := not_or.mp fenced
    simp only [Conforms, keeps_bind, keeps_now, keeps_updateStatus]
    intro time
    refine ⟨⟨run, holds, .sessionReady (not_not.mp phase) mode (not_not.mp own)⟩, ?_⟩
    intro answer _
    cases answer with
    | error => exact trivial
    | ok stored =>
      simp only [keeps_bind, keeps_query, Query.Permitted, true_and]
      intro tracked
      cases tracked with
      | some => exact trivial
      | none => exact conforms_keepObserving handle stored _

theorem conforms_reconcileSessionRegistration (holds : held history = some run)
    (phase : run.status.phase = .running) (mode : run.spec.mode.session.isSome = true) :
    Conforms controller (reconcileSessionRegistration controller handle run) history := by
  have failing : ∀ later reason message, held later = some run →
      Conforms controller (applyFailure handle run reason message) later :=
    fun later _ _ known =>
      conforms_applyFailure known (.refl run) (.inl phase) (.registration (.inl mode))
  unfold reconcileSessionRegistration
  cases sessionIdentityForRun run with
  | error => exact failing _ _ _ holds
  | ok =>
    simp only [Conforms, keeps_bind, keeps_query, Query.Permitted, true_and]
    intro polled
    cases polled with
    | unavailable => exact trivial
    | notFound =>
      simp only [keeps_bind, keeps_activeRun]
      intro seen
      cases (seen.object handle run).sessionRegistration with
      | some => exact ⟨trivial, failing _ _ _ holds⟩
      | none =>
        simp only [keeps_bind, keeps_activeRun]
        intro again
        split
        · exact conforms_keepObserving handle run _
        simp only [startSessionRegistrationAsync, keeps_bind, keeps_activeRun]
        intro last
        split
        · exact conforms_keepObserving handle run _
        · exact ⟨trivial, conforms_keepObserving handle run _⟩
    | response state =>
      cases state with
      | ready => exact conforms_applySessionReady holds mode
      | registering => exact conforms_keepObserving handle run _
      | unspecified | closing | closed | failed => exact failing _ _ _ holds

theorem quiet_tryClaimActiveRun (handle : Nat) (run : Run) (history : History) :
    Quiet controller (tryClaimActiveRun controller handle run) history := by
  simp only [Quiet, tryClaimActiveRun, keeps_bind, keeps_memory]
  intro seen
  split
  · exact rfl
  case isFalse free =>
    have vacant : seen.active = none := by
      simpa using (not_or.mp free).2
    split
    · exact rfl
    · exact ⟨⟨seen, history, rfl, vacant⟩, rfl⟩

section Held

variable {phase : RunPhase} {reason message : String} (holds : held history = some run)

include holds

theorem conforms_restoreSession (mode : run.spec.mode.session.isSome = true) :
    Conforms controller (restoreSession controller handle run) history := by
  apply (quiet_tryClaimActiveRun handle run _).keeps_bind
  intro claimed later _ kept
  split
  · simp only [keeps_bind, keeps_query, Query.Permitted, true_and]
    intro tracked
    cases tracked with
    | some => exact trivial
    | none =>
      simp only
      split
      · exact conforms_applySessionReady (held_of_handed kept holds) mode
      · exact conforms_keepObserving handle run _
  · exact trivial

theorem conforms_reconcileSessionRecovery (active : run.status.phase.isActive = true)
    (mode : run.spec.mode.session.isSome = true) :
    Conforms controller (reconcileSessionRecovery controller run) history := by
  have ending : ∀ handle later reason message, held later = some run →
      (run.status.phase = .finalizing → FinalizationFailure later run) →
      Conforms controller (applyTerminal handle run .failed reason message) later :=
    fun _ _ _ _ known failure => conforms_applyTerminal known (.refl run) active
      (.inr (.inr ⟨.inl rfl, .registration (.inl mode), failure⟩)) (by simp)
  apply (quiet_buildActiveRun run history).keeps_bind
  intro handle later _ same
  have known : held later = some run := held_of_handed same holds
  have unhosted : ∀ identity polled, isUnhosted polled = true → run.status.phase = .finalizing →
        FinalizationFailure (⟨.query (.sessionStatus identity), polled⟩ :: later) run :=
    fun _ _ unready finalizing => .unhosted (.now known finalizing) unready
  cases identified : sessionIdentityForRun run with
  | error => exact ending _ _ _ _ known fun _ => .unidentified identified
  | ok =>
    simp only [keeps_bind, keeps_query, Query.Permitted, true_and]
    intro polled
    cases polled with
    | unavailable => exact trivial
    | notFound =>
      simp only
      split
      case isTrue phase =>
        apply (quiet_tryClaimActiveRun handle run _).keeps_bind
        intro claimed last _ kept
        split
        · exact conforms_reconcileSessionRegistration (held_of_handed kept known) phase mode
        · exact trivial
      case isFalse => exact ending _ _ _ _ known (unhosted _ _ rfl)
    | response state =>
      cases state with
      | ready => exact conforms_restoreSession known mode
      | registering | unspecified | closing
      | closed | failed => exact ending _ _ _ _ known (unhosted _ _ rfl)

theorem conforms_closeSessionAndApplyTerminal
    (active : run.status.phase.isActive = true) (cause : FinishCause history run phase)
    (unsuccessful : phase ≠ .succeeded) :
    Conforms controller (closeSessionAndApplyTerminal handle run phase reason message)
      history := by
  apply (quiet_ensureActiveSessionClosed controller handle run history).keeps_bind
  intro failure later longer same
  cases failure with
  | some => exact trivial
  | none =>
    exact conforms_applyTerminal (held_of_handed same holds) (.refl run) active
      (cause.later longer) fun succeeded => absurd succeeded unsuccessful

theorem conforms_beginSessionFinalization :
    Conforms controller (beginSessionFinalization run) history := by
  unfold beginSessionFinalization
  split
  · exact trivial
  case isFalse session =>
    split
    · exact trivial
    case isFalse live =>
      have phase : run.status.phase = .running ∨ run.status.phase = .ready := by
        by_contra neither
        exact live (not_or.mp neither)
      have mode : run.spec.mode.session.isSome = true := by
        simpa [Option.isSome_iff_ne_none] using session
      simp only [Conforms, keeps_bind, keeps_now, keeps_updateStatus]
      intro time
      refine ⟨⟨run, holds, .finalize phase mode⟩, ?_⟩
      intro answer _
      cases answer <;> exact trivial

theorem conforms_completeFinalizingSession (phase : run.status.phase = .finalizing)
    (mode : run.spec.mode.session.isSome = true) :
    Conforms controller (completeFinalizingSession controller handle run) history := by
  unfold completeFinalizingSession Conforms
  rw [keeps_bind]
  refine (keeps_collectArtifacts holds (.refl run) (.inr phase)).weaken ?_
  rintro ⟨_, result⟩ _ _ ⟨⟨⟨current, known, still, samePhase, sameSpec, _⟩, _⟩, exported, spoiled⟩
  have finalizing : current.status.phase = .finalizing := samePhase.trans phase
  have active : current.status.phase.isActive = true := by rw [finalizing]; rfl
  match result with
  | .error (.invalid message) =>
    obtain ⟨_, _, told, refused⟩ := spoiled message rfl phase
    exact conforms_applyTerminal known still active
      (.inr (.inr ⟨.inl rfl, .registration (.inl (sameSpec ▸ mode)),
        fun _ => .spoiled told refused⟩)) nofun
  | .error (.transient message) => exact trivial
  | .ok artifactRefs =>
    exact conforms_applyTerminal known
      ⟨still.resourceVersion, still.spec, still.phase, still.assignedPod,
        still.assignedPodUID, still.attempt, still.running⟩
      active (.inr (.inl ⟨rfl, finalizing, sameSpec ▸ mode⟩))
      fun _ => exported artifactRefs rfl

/-- A Session that is due or whose lease is over ends with a timeout. -/
theorem conforms_closeExpiredSession
    (active : run.status.phase.isActive = true) (mode : run.spec.mode.session.isSome = true)
    (failure : run.status.phase = .finalizing → FinalizationFailure history run) :
    Conforms controller (closeSessionAndApplyTerminal handle run .timeout reason message)
      history :=
  conforms_closeSessionAndApplyTerminal holds active
    (.inr (.inr ⟨.inr rfl, .registration (.inl mode), failure⟩)) nofun

theorem conforms_reconcileFinalizing (phase : run.status.phase = .finalizing) :
    Conforms controller (reconcileFinalizing controller run) history := by
  have active : run.status.phase.isActive = true := by rw [phase]; rfl
  unfold reconcileFinalizing
  split
  case isTrue session =>
    apply (quiet_buildActiveRun run history).keeps_bind
    intro handle later _ same
    exact conforms_applyTerminal (held_of_handed same holds) (.refl run) active
      (.inr (.inr ⟨.inl rfl, .misplaced phase, fun _ =>
        .misplaced (by simpa using session)⟩)) (by simp)
  case isFalse session =>
    have mode : run.spec.mode.session.isSome = true := by
      simpa [Option.isSome_iff_ne_none] using session
    simp only [Conforms, keeps_bind, keeps_memory]
    intro seen
    cases seen.active with
    | none => exact conforms_reconcileSessionRecovery holds active mode
    | some handle =>
      simp only [keeps_bind, keeps_edit]
      refine ⟨trivial, ?_⟩
      split
      case isTrue requested =>
        exact conforms_closeSessionAndApplyTerminal holds active
          (.inl ⟨rfl, requested, .inr (.inr (.inl mode))⟩) (by simp)
      case isFalse =>
        simp only [keeps_bind, keeps_now, keeps_activeRun]
        intro time again
        split
        case isTrue due =>
          exact conforms_closeExpiredSession holds active mode fun finalizing =>
            .expired (.now holds finalizing) holds (.head _) due
        · simp only [keeps_bind, keeps_query, Query.Permitted, true_and]
          intro drained
          cases drained with
          | false => exact trivial
          | true =>
            apply (quiet_ensureActiveSessionClosed controller handle run _).keeps_bind
            intro failure later _ same
            cases failure with
            | some => exact trivial
            | none =>
              exact conforms_completeFinalizingSession (held_of_handed same holds) phase mode

theorem conforms_reconcileRunningSession (phase : run.status.phase = .running)
    (mode : run.spec.mode.session.isSome = true) (first : firstLook history = none) :
    Conforms controller (reconcileRunningSession controller run) history := by
  have active : run.status.phase.isActive = true := by rw [phase]; rfl
  simp only [Conforms, reconcileRunningSession, keeps_bind, keeps_memory]
  intro seen
  cases known : seen.active with
  | none => exact conforms_reconcileSessionRecovery holds active mode
  | some handle =>
    have found : FoundEntry (⟨.query .memory, seen⟩ :: history) handle :=
      foundEntry_of_firstLook first known
    refine ⟨trivial, ?_⟩
    split
    case isTrue requested =>
      exact conforms_closeSessionAndApplyTerminal holds active
        (.inl ⟨rfl, requested, .inr (.inr (.inl mode))⟩) (by simp)
    case isFalse =>
      split
      · exact conforms_beginSessionFinalization holds
      split
      case isTrue waiting =>
        exact conforms_reconcileRetryBackoff holds phase found waiting
      case isFalse =>
        exact conforms_reconcileSessionRegistration holds phase mode

end Held

theorem quiet_sessionLeaseDeadline (run : Run) (history : History) :
    Quiet controller (sessionLeaseDeadline run) history := by
  unfold sessionLeaseDeadline
  cases leaseTimeout run with
  | none => exact rfl
  | some timeout => exact (keeps_query (.leaseDeadline timeout)).mpr ⟨trivial, fun _ => rfl⟩

theorem conforms_reconcileReadySession (holds : held history = some run)
    (phase : run.status.phase = .ready) (mode : run.spec.mode.session.isSome = true) :
    Conforms controller (reconcileReadySession controller run) history := by
  have active : run.status.phase.isActive = true := by rw [phase]; rfl
  have serving : ∀ {later}, run.status.phase = .finalizing →
      FinalizationFailure later run := fun finalizing => by cases phase.symm.trans finalizing
  simp only [Conforms, reconcileReadySession, keeps_bind, keeps_memory]
  intro seen
  cases seen.active with
  | none => exact conforms_reconcileSessionRecovery holds active mode
  | some =>
    simp only [keeps_bind, keeps_edit]
    refine ⟨trivial, ?_⟩
    split
    case isTrue requested =>
      exact conforms_closeSessionAndApplyTerminal holds active
        (.inl ⟨rfl, requested, .inr (.inr (.inl mode))⟩) (by simp)
    case isFalse =>
      split
      · exact conforms_beginSessionFinalization holds
      simp only [keeps_bind, keeps_now, keeps_activeRun]
      intro time again
      split
      · exact conforms_closeExpiredSession holds active mode serving
      apply (quiet_sessionLeaseDeadline run _).keeps_bind
      intro lease later _ same
      cases lease with
      | none => exact trivial
      | some =>
        simp only
        split
        · exact conforms_closeExpiredSession (held_of_handed same holds) active mode serving
        · exact trivial

end Contract

end Kruntimes.Runtimed
