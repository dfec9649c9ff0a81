import Kruntimes.Runtimed.Contract

/-!
# Applying an outcome

The writers shared by task, Session and Function Runs: release of Runtime Server and
local state, terminal transitions, success, failure with its retry, and the end of a
retry backoff.
-/

namespace Kruntimes.Runtimed

open Api Transition
open Program (keeps_bind)

/-! ## Release -/

def closeRuntimeSession (run : Run) : Process (Option String) :=
  match sessionIdentityForRun run with
  | .error message => pure (some ("build SessionRuntime close request: " ++ message))
  | .ok identity => do
    let answer ← ask (.closeSession identity)
    pure (Option.map (fun message => "close Runtime Server session: " ++ message) answer)

def ensureActiveSessionClosed (handle : Nat) (run : Run) : Process (Option String) := do
  let object ← activeRun handle run
  if object.sessionClosed then pure none
  else
    let failure ← closeRuntimeSession run
    match failure with
    | some message => pure (some message)
    | none => do
      amend (.setSessionClosed handle)
      pure none

/-- The body of `prepareSession` and `prepareFunction`. -/
def prepareRegistration (handle : Nat) (run : Run) : Process (Option String) := do
  let object ← activeRun handle run
  if object.prepared then pure none
  else
    let source ← ask .prepareSource
    match (source : Option String) with
    | some message => pure (some message)
    | none => do
      let staged ← ask .stageInputs
      match (staged : Option String) with
      | some message => pure (some message)
      | none => do
        amend (.setPrepared handle)
        pure none

def prepareFunction (handle : Nat) (run : Run) : Process (Option String) :=
  prepareRegistration handle run

def registerFunction (run : Run) : Process (Except String FunctionRegistration) := do
  let answer ← ask (.registerFunction (currentAttempt run.status.attempt))
  match (answer : Except String (Option FunctionRegistration)) with
  | .error message => pure (.error message)
  | .ok none => pure (.error "Runtime Server returned invalid function registration")
  | .ok (some registration) =>
    if registration.runUid ≠ run.uid ∨ registration.registrationId = "" then
      pure (.error "Runtime Server returned invalid function registration")
    else pure (.ok registration)

/-- The `UnregisterFunction` call of `ensureActiveFunctionClosed`. -/
def unregisterFunction (handle : Nat) (registration : FunctionRegistration) :
    Process (Option String) := do
  let answer ← ask (.unregisterFunction registration)
  match (answer : Option String) with
  | some message => pure (some ("unregister Runtime Server function: " ++ message))
  | none => do
    amend (.setFunctionClosed handle)
    pure none

/-- `ensureActiveFunctionClosed`.  Without a remembered registration it registers again
in order to unregister. -/
def ensureActiveFunctionClosed (handle : Nat) (run : Run) : Process (Option String) := do
  let object ← activeRun handle run
  if object.functionClosed then pure none
  else match object.functionRegistrationRef with
    | some registration => unregisterFunction handle registration
    | none =>
      if object.functionRegistering then
        pure (some "function registration is still in progress")
      else do
        let prepared ← prepareFunction handle run
        match prepared with
        | some message => pure (some ("prepare function for cleanup: " ++ message))
        | none => do
          let registered ← registerFunction run
          match registered with
          | .error message =>
            pure (some ("recover function registration for cleanup: " ++ message))
          | .ok registration => do
            amend (.finishFunctionRegistration handle (some registration) none)
            unregisterFunction handle registration

def forgetTaskExecution : Process (Option String) := ask .forget

def releaseRuntimeServerState (handle : Nat) (run : Run) : Process (Option String) :=
  if run.spec.mode.session.isSome then ensureActiveSessionClosed handle run
  else if run.spec.mode.function.isSome then ensureActiveFunctionClosed handle run
  else forgetTaskExecution

def releaseLocalRunState (run : Run) : Process Unit :=
  if run.uid = "" then pure ()
  else do
    amend .release
    let _ ← ask .cleanupRunFiles
    pure ()

def cleanup (handle : Nat) (run : Run) : Process Unit := do
  let _ ← releaseRuntimeServerState handle run
  releaseLocalRunState run

/-! ## Terminal transitions, retries and success -/

/-- `applyTerminalWithOutput`. -/
def applyTerminal (handle : Nat) (run : Run) (phase : RunPhase) (reason message : String) :
    Process Result := do
  let time ← now
  let written ← updateStatus (terminalStatus run phase reason message time)
  match written with
  | .error message => pure (.failed message)
  | .ok stored => do
    cleanup handle stored
    pure .empty

def scheduleRetry (run : Run) (reason message : String) : Process Result := do
  let time ← now
  let written ← updateStatus (retryStatus run reason message time)
  match written with
  | .error message => pure (.failed message)
  | .ok stored =>
    if stored.spec.mode.session.isNone then do
      let _ ← forgetTaskExecution
      pure .empty
    else pure .empty

/-- `applyFailureWithOutput`. -/
def applyFailure (handle : Nat) (run : Run) (reason message : String) : Process Result :=
  if shouldRetry (withDefaults run.spec.retryPolicy) (currentAttempt run.status.attempt) reason then
    scheduleRetry run reason (boundedStatusMessage message)
  else
    applyTerminal handle run (terminalPhaseForFailure reason) reason (boundedStatusMessage message)

/-- The status update of `ensureArtifactFinalizer`: the Run as it left it, and the
error. -/
def recordArtifactStore (controller : Controller) (run : Run) :
    Process (Run × Option String) :=
  if run.status.artifactStore then pure (run, none)
  else if controller.artifactStoreSpec = false then
    pure (run, some "artifact store cleanup configuration is not available")
  else do
    let written ← updateStatus (artifactStoreStatus run)
    match written with
    | .error message =>
      pure (artifactStoreStatus run,
        some ("record artifact store cleanup configuration: " ++ message))
    | .ok stored => pure (stored, none)

/-- `ensureArtifactFinalizer`: the Run as the updates left it, and the error. -/
def ensureArtifactFinalizer (controller : Controller) (run : Run) :
    Process (Run × Option String) := do
  let recorded ← recordArtifactStore controller run
  match recorded with
  | (run, some message) => pure (run, some message)
  | (run, none) =>
    match addFinalizer run runArtifactFinalizer with
    | none => pure (run, none)
    | some marked => do
      let written ← updateMetadata marked
      match written with
      | .error message => pure (marked, some ("add artifact cleanup finalizer: " ++ message))
      | .ok stored => pure (stored, none)

/-- `collectArtifacts`: the Run as the updates left it, and the references. -/
def collectArtifacts (controller : Controller) (run : Run) :
    Process (Run × Except ArtifactError (List ArtifactRef)) :=
  if controller.artifactStore = false then pure (run, .ok [])
  else do
    let staged ← ask .stagedArtifacts
    match (staged : Except String (List String)) with
    | .error message =>
      pure (run, .error (.transient ("read artifact staging directory: " ++ message)))
    | .ok names =>
      if maxArtifactRefs < names.length then
        pure (run, .error (.invalid ("artifact count " ++ toString names.length ++
          " exceeds limit " ++ toString maxArtifactRefs)))
      else if names.isEmpty then pure (run, .ok [])
      else do
        let ensured ← ensureArtifactFinalizer controller run
        match ensured with
        | (run, some message) => pure (run, .error (.transient message))
        | (run, none) => do
          let stored ← ask (.storeArtifacts names)
          pure (run, stored)

/-- `reasonOutputsTooLarge` or `reasonOutputsInvalid`, and the message. -/
def outputsFailure : OutputsError → Failure
  | .tooLarge message => { reason := "OutputsTooLarge", message }
  | .invalid message => { reason := "OutputsInvalid", message }

def applySuccess (controller : Controller) (handle : Nat) (run : Run) : Process Result := do
  let read ← ask .readOutputs
  match (read : Except OutputsError Labels) with
  | .error refused =>
    applyTerminal handle run .failed (outputsFailure refused).reason
      (outputsFailure refused).message
  | .ok outputs => do
    let collected ← collectArtifacts controller run
    match collected with
    | (run, .error (.invalid message)) =>
      applyTerminal handle run .failed "ArtifactInvalid" message
    | (_, .error (.transient _)) => pure (.requeue second)
    | (run, .ok artifactRefs) => do
      let time ← now
      let written ← updateStatus (successStatus run outputs artifactRefs time)
      match written with
      | .error message => pure (.failed message)
      | .ok stored => do
        cleanup handle stored
        pure .empty

def reconcileRetryBackoff (controller : Controller) (handle : Nat) (run : Run) :
    Process Result :=
  match runningCondition run with
  | none => pure .empty
  | some condition => do
    let retryAfter := condition.lastTransitionTime +
      backoff controller.platform (withDefaults run.spec.retryPolicy) run.status.attempt
    let checked ← now
    if checked < retryAfter then pure (.requeue (retryAfter - checked))
    else do
      let time ← now
      let written ← updateStatus (retryingStatus run time) [.setStarted handle false]
      match written with
      | .error message => pure (.failed message)
      | .ok stored => keepObserving handle stored

/-! ## The contract of the writers -/

/-- The program makes no update and keeps its object. -/
def Quiet {α : Type} (controller : Controller) (program : Process α) (history : History) :
    Prop :=
  program.Keeps (contract controller) (fun _ later => handed later = handed history) history

/-- The program keeps the contract. -/
def Conforms {α : Type} (controller : Controller) (program : Process α)
    (history : History) : Prop :=
  program.Keeps (contract controller) (fun _ _ => True) history

/-- A quiet program in front. -/
theorem Quiet.keeps_bind {α β : Type} {controller : Controller} {program : Process α}
    {rest : α → Process β} {post : β → History → Prop} {history : History}
    (quiet : Quiet controller program history)
    (next : ∀ value later, history <:+ later → handed later = handed history →
      (rest value).Keeps (contract controller) post later) :
    (program >>= rest).Keeps (contract controller) post history :=
  (Program.keeps_bind program rest).mpr
    (quiet.weaken fun value later longer same => next value later longer same)

/-! ## Removing the registration -/

/-- The calls that remove a registration.  Without a remembered registration a Function is
registered once more in order to be unregistered. -/
def cleansUp : Call → Bool
  | .query query =>
    match query with
    | .closeSession _ | .unregisterFunction _ | .prepareSource | .stageInputs
    | .registerFunction _ => true
    | _ => false
  | _ => false

/-- A removal was tried. -/
def Tried (history : History) : Prop :=
  ∃ exchange ∈ history, cleansUp exchange.1 = true

theorem tried_cons {query : Query} (answer : query.Answer) (history : History)
    (cleans : cleansUp (.query query) = true) : Tried (⟨.query query, answer⟩ :: history) :=
  ⟨_, .head _, cleans⟩

/-- A removal that fails was tried, unless `Excused`. -/
def FailsTrying (Excused : Prop) (failure : Option String) (history : History) : Prop :=
  failure.isSome = true → Tried history ∨ Excused

/-- The contract allows what removes a registration. -/
structure Removing (contract : Program.Contract runtimed) : Prop where
  memory : ∀ history, contract.calls history (.query .memory)
  forget : ∀ history, contract.calls history (.query .forget)
  query : ∀ history {query : Query}, cleansUp (.query query) = true →
    contract.calls history (.query query)
  edits : ∀ history handle, contract.edits history (.setSessionClosed handle) ∧
    contract.edits history (.setPrepared handle) ∧
    contract.edits history (.setFunctionClosed handle) ∧ ∀ registration,
      contract.edits history (.finishFunctionRegistration handle (some registration) none)

/-- A removal hands out no object. -/
def Removal (Excused : Prop) (history : History) (failure : Option String) (later : History) :
    Prop :=
  handed later = handed history ∧ FailsTrying Excused failure later

section Removal

variable {contract : Program.Contract runtimed} (removing : Removing contract) {handle : Nat}
  {run : Run} {history : History} {Excused : Prop}

include removing

theorem Removing.activeRun {α : Type} {rest : ActiveRun → Process α} {post : α → History → Prop}
    (next : ∀ seen : Memory, contract.answers history ⟨.query .memory, seen⟩ →
      (rest (seen.object handle run)).Keeps contract post (⟨.query .memory, seen⟩ :: history)) :
    (activeRun handle run >>= rest).Keeps contract post history := by
  rw [keeps_bind]
  exact ⟨removing.memory history, next⟩

theorem Removing.ask {α : Type} {query : Query} {rest : query.Answer → Process α}
    {post : α → History → Prop} (cleans : cleansUp (.query query) = true)
    (next : ∀ answer, (rest answer).Keeps contract post (⟨.query query, answer⟩ :: history)) :
    (ask query >>= rest).Keeps contract post history := by
  rw [keeps_bind]
  exact ⟨removing.query history cleans, fun answer _ => next answer⟩

theorem removes_closeRuntimeSession
    (excused : ∀ message, sessionIdentityForRun run = .error message → Excused) :
    (closeRuntimeSession run).Keeps contract (Removal Excused history) history := by
  unfold closeRuntimeSession
  cases identified : sessionIdentityForRun run with
  | error message => exact ⟨rfl, fun _ => .inr (excused message identified)⟩
  | ok => exact removing.ask rfl fun _ => ⟨rfl, fun _ => .inl (tried_cons _ _ rfl)⟩

theorem removes_ensureActiveSessionClosed
    (excused : ∀ message, sessionIdentityForRun run = .error message → Excused) :
    (ensureActiveSessionClosed handle run).Keeps contract (Removal Excused history) history := by
  apply removing.activeRun
  intro seen _
  split
  · exact ⟨rfl, nofun⟩
  rw [keeps_bind]
  apply (removes_closeRuntimeSession removing excused).weaken
  intro failure later _ removed
  cases failure with
  | some => exact removed
  | none => exact ⟨(removing.edits later handle).1, removed.1, nofun⟩

theorem removes_prepareRegistration :
    (prepareRegistration handle run).Keeps contract (Removal False history) history := by
  apply removing.activeRun
  intro seen _
  split
  · exact ⟨rfl, nofun⟩
  apply removing.ask rfl
  rintro (_ | _)
  · apply removing.ask rfl
    rintro (_ | _)
    · exact ⟨(removing.edits _ handle).2.1, rfl, nofun⟩
    · exact ⟨rfl, fun _ => .inl (tried_cons _ _ rfl)⟩
  · exact ⟨rfl, fun _ => .inl (tried_cons _ _ rfl)⟩

theorem removes_registerFunction :
    (registerFunction run).Keeps contract
      (fun _ later => handed later = handed history ∧ Tried later) history := by
  apply removing.ask rfl
  rintro (_ | _ | _)
  · exact ⟨rfl, tried_cons _ _ rfl⟩
  · exact ⟨rfl, tried_cons _ _ rfl⟩
  · dsimp only
    split <;> exact ⟨rfl, tried_cons _ _ rfl⟩

theorem removes_unregisterFunction (registration : FunctionRegistration) :
    (unregisterFunction handle registration).Keeps contract (Removal Excused history) history := by
  apply removing.ask rfl
  rintro (_ | _)
  · exact ⟨(removing.edits _ handle).2.2.1, rfl, nofun⟩
  · exact ⟨rfl, fun _ => .inl (tried_cons _ _ rfl)⟩

theorem removes_ensureActiveFunctionClosed
    (excused : ∀ seen : Memory, contract.answers history ⟨.query .memory, seen⟩ →
      (seen.object handle run).functionRegistering = true → Excused) :
    (ensureActiveFunctionClosed handle run).Keeps contract (Removal Excused history) history := by
  apply removing.activeRun
  intro seen answered
  split
  · exact ⟨rfl, nofun⟩
  split
  · exact removes_unregisterFunction removing _
  split
  next registering =>
    exact ⟨rfl, fun _ => .inr (excused seen answered registering)⟩
  rw [keeps_bind]
  apply (removes_prepareRegistration removing).weaken
  intro prepared later _ removed
  cases prepared with
  | some => exact ⟨removed.1, fun _ => .inl ((removed.2 rfl).resolve_right id)⟩
  | none =>
    rw [keeps_bind]
    apply (removes_registerFunction removing).weaken
    intro registered last _ tried
    cases registered with
    | error => exact ⟨tried.1.trans removed.1, fun _ => .inl tried.2⟩
    | ok registration =>
      refine ⟨(removing.edits last handle).2.2.2 registration, ?_⟩
      apply (removes_unregisterFunction removing registration).weaken
      intro _ _ _ closed
      exact ⟨closed.1.trans (tried.1.trans removed.1), closed.2⟩

theorem removes_releaseRuntimeServerState :
    (releaseRuntimeServerState handle run).Keeps contract (Removal True history) history := by
  unfold releaseRuntimeServerState
  split
  · exact removes_ensureActiveSessionClosed removing fun _ _ => trivial
  split
  · exact removes_ensureActiveFunctionClosed removing fun _ _ _ => trivial
  · exact ⟨removing.forget history, fun _ _ => ⟨rfl, fun _ => .inr trivial⟩⟩

end Removal

theorem removing_contract (controller : Controller) : Removing (contract controller) where
  memory _ := trivial
  forget _ := trivial
  query _ query _ := by cases query <;> trivial
  edits _ _ := ⟨trivial, trivial, trivial, fun _ => trivial⟩

section Release

variable (controller : Controller) (handle : Nat) (run : Run) (history : History)

theorem quiet_ensureActiveSessionClosed :
    Quiet controller (ensureActiveSessionClosed handle run) history :=
  (removes_ensureActiveSessionClosed (removing_contract controller)
    fun _ _ => trivial).weaken fun _ _ _ => And.left

theorem quiet_prepareRegistration : Quiet controller (prepareRegistration handle run) history :=
  (removes_prepareRegistration (removing_contract controller)).weaken fun _ _ _ => And.left

theorem quiet_registerFunction : Quiet controller (registerFunction run) history :=
  (removes_registerFunction (removing_contract controller)).weaken fun _ _ _ => And.left

theorem quiet_ensureActiveFunctionClosed :
    Quiet controller (ensureActiveFunctionClosed handle run) history :=
  (removes_ensureActiveFunctionClosed (removing_contract controller)
    fun _ _ _ => trivial).weaken fun _ _ _ => And.left

theorem quiet_forgetTaskExecution : Quiet controller forgetTaskExecution history :=
  (keeps_query .forget).mpr ⟨trivial, fun _ => rfl⟩

theorem quiet_releaseRuntimeServerState :
    Quiet controller (releaseRuntimeServerState handle run) history :=
  (removes_releaseRuntimeServerState (removing_contract controller)).weaken fun _ _ _ => And.left

/-- Local state may be released once the Run has ended or is deleted, or in a shutdown. -/
theorem quiet_releaseLocalRunState
    (allowed : Ended history ∨ Deleted history ∨ Draining history) :
    Quiet controller (releaseLocalRunState run) history := by
  unfold releaseLocalRunState
  split
  · exact rfl
  · simp only [Quiet, keeps_bind, keeps_edit, keeps_query, Query.Permitted]
    exact ⟨allowed.imp_right .inr, allowed, fun _ => rfl⟩

theorem conforms_cleanup (ended : Ended history) :
    Conforms controller (cleanup handle run) history := by
  apply (quiet_releaseRuntimeServerState controller handle run history).keeps_bind
  intro failure later longer _
  exact (quiet_releaseLocalRunState controller run later (.inl (ended.later longer))).weaken
    fun _ _ _ _ => trivial

end Release

section Writers

variable {controller : Controller} {handle : Nat} {base run : Run} {history : History}

theorem conforms_keepObserving (handle : Nat) (run : Run) (history : History) :
    Conforms controller (keepObserving handle run) history := by
  simp only [Conforms, keepObserving, keeps_bind, keeps_activeRun, keeps_now]
  exact fun _ _ => trivial

section Ends

variable {phase : RunPhase} {reason message : String} (holds : held history = some base)
  (same : SameCourse base run)

include holds same

theorem conforms_applyTerminal
    (active : base.status.phase.isActive = true) (cause : FinishCause history base phase)
    (exported : phase = .succeeded → Exported controller history run.status.artifactRefs) :
    Conforms controller (applyTerminal handle run phase reason message) history := by
  simp only [Conforms, applyTerminal, keeps_bind, keeps_now, keeps_updateStatus]
  intro time
  refine ⟨⟨base, holds, .finish active same (cause.later (List.suffix_cons _ _))
    fun succeeded => (exported succeeded).later (List.suffix_cons _ _)⟩, ?_⟩
  intro answer _
  cases answer with
  | error => exact trivial
  | ok stored =>
    have ended : Ended (⟨.updateStatus (terminalStatus run phase reason message time) [],
        .ok stored⟩ :: ⟨.query .clock, time⟩ :: history) :=
      ⟨_, stored, .head _, cause.isTerminal⟩
    exact (keeps_bind _ _).mpr (conforms_cleanup controller handle stored _ ended)

theorem conforms_scheduleRetry
    (phase : base.status.phase = .running ∨ base.status.phase = .ready)
    (retries : shouldRetry (withDefaults base.spec.retryPolicy)
      (currentAttempt base.status.attempt) reason = true) (cause : FailureCause history base) :
    Conforms controller (scheduleRetry run reason message) history := by
  simp only [Conforms, scheduleRetry, keeps_bind, keeps_now, keeps_updateStatus]
  intro time
  refine ⟨⟨base, holds, .retry phase same retries (cause.later (List.suffix_cons _ _)) rfl⟩, ?_⟩
  intro answer _
  cases answer with
  | error => exact trivial
  | ok =>
    simp only
    split
    · exact (quiet_forgetTaskExecution controller _).keeps_bind fun _ _ _ _ => trivial
    · exact trivial

theorem conforms_applyFailure
    (phase : base.status.phase = .running ∨ base.status.phase = .ready)
    (cause : FailureCause history base) :
    Conforms controller (applyFailure handle run reason message) history := by
  unfold applyFailure
  rw [same.spec, same.attempt]
  split
  case isTrue retries => exact conforms_scheduleRetry holds same phase retries cause
  case isFalse exhausted =>
    have active : base.status.phase.isActive = true := by
      rcases phase with _ | _ <;> simp [*, RunPhase.isActive]
    have ended : terminalPhaseForFailure reason = .failed ∨
        terminalPhaseForFailure reason = .timeout := by
      unfold terminalPhaseForFailure
      split <;> simp
    have serving : base.status.phase ≠ .finalizing := by
      rcases phase with _ | _ <;> simp [*]
    apply conforms_applyTerminal holds same active
    · exact .inr (.inr ⟨ended, cause, fun finalizing => absurd finalizing serving⟩)
    · intro succeeded
      rcases ended with failed | timeout
      · cases failed.symm.trans succeeded
      · cases timeout.symm.trans succeeded

end Ends

/-- What the updates of `collectArtifacts` leave: an object on the same course, and no other
attempt among the objects handed out. -/
structure KeptCourse {α : Type} (base : Run) (history : History) (outcome : Run × α)
    (later : History) : Prop where
  course : ∃ current, held later = some current ∧ SameCourse current outcome.1 ∧
    current.status.phase = base.status.phase ∧ current.spec = base.spec ∧
    current.status.attempt = base.status.attempt
  steady : Steady history base.status.attempt → Steady later base.status.attempt

/-- Before any update. -/
theorem KeptCourse.refl {α : Type} (holds : held history = some base)
    (same : SameCourse base run) (value : α) : KeptCourse base history (run, value) history :=
  ⟨⟨base, holds, same, rfl, rfl, rfl⟩, id⟩

/-- A query in front, or the result exchanged. -/
theorem KeptCourse.query {α β : Type} {kept : Run} {value : α} {later : History}
    {query : Query} {answer : query.Answer}
    (course : KeptCourse base (⟨.query query, answer⟩ :: history) (kept, value) later)
    (other : β) : KeptCourse base history (kept, other) later :=
  ⟨course.course, fun steady => course.steady (steady.of_handed rfl)⟩

section Finalizers

variable (holds : held history = some base) (same : SameCourse base run)
  (phase : base.status.phase = .running ∨ base.status.phase = .finalizing)

include holds same phase

theorem keeps_recordArtifactStore :
    (recordArtifactStore controller run).Keeps (contract controller) (KeptCourse base history)
      history := by
  have marked : SameCourse base (artifactStoreStatus run) :=
    ⟨same.resourceVersion, same.spec, same.phase, same.assignedPod, same.assignedPodUID,
      same.attempt, same.running⟩
  unfold recordArtifactStore
  split
  · exact .refl holds same _
  split
  · exact .refl holds same _
  simp only [keeps_bind, keeps_updateStatus]
  refine ⟨⟨base, holds, .observe phase marked⟩, ?_⟩
  intro answer given
  cases answer with
  | error =>
    exact ⟨⟨base, holds, marked, rfl, rfl, rfl⟩, fun steady => steady.of_handed rfl⟩
  | ok stored =>
    obtain ⟨_, known, rfl⟩ := given stored rfl
    obtain rfl := Option.some.inj (holds.symm.trans known)
    refine ⟨⟨_, rfl, .refl _, same.phase, rfl, same.attempt⟩, fun steady => ?_⟩
    exact steady.cons rfl same.attempt

theorem keeps_ensureArtifactFinalizer :
    (ensureArtifactFinalizer controller run).Keeps (contract controller)
      (KeptCourse base history) history := by
  unfold ensureArtifactFinalizer
  rw [keeps_bind]
  refine (keeps_recordArtifactStore holds same phase).weaken ?_
  rintro ⟨recorded, failure⟩ _ _ ⟨⟨current, known, still, kept⟩, steady⟩
  cases failure with
  | some => exact ⟨⟨current, known, still, kept⟩, steady⟩
  | none =>
    simp only
    cases added : addFinalizer recorded runArtifactFinalizer with
    | none => exact ⟨⟨current, known, still, kept⟩, steady⟩
    | some marked =>
      have metadata : SameCourse current marked := by
        unfold addFinalizer at added
        split at added
        · contradiction
        cases added
        exact ⟨still.resourceVersion, still.spec, still.phase, still.assignedPod,
          still.assignedPodUID, still.attempt, still.running⟩
      simp only [keeps_bind, keeps_updateMetadata]
      refine ⟨⟨current, known, metadata.resourceVersion⟩, ?_⟩
      intro answer given
      cases answer with
      | error =>
        exact ⟨⟨current, known, metadata, kept⟩, fun before => (steady before).of_handed rfl⟩
      | ok stored =>
        obtain ⟨_, held', rfl⟩ := given stored rfl
        obtain rfl := Option.some.inj (known.symm.trans held')
        refine ⟨⟨_, rfl, .refl _, kept⟩, fun before => ?_⟩
        exact (steady before).cons rfl kept.2.2

end Finalizers

/-- What `collectArtifacts` knows about its result. -/
structure Collected (controller : Controller) (base : Run) (history : History)
    (outcome : Run × Except ArtifactError (List ArtifactRef)) (later : History) : Prop where
  kept : KeptCourse base history outcome later
  exported : ∀ artifactRefs, outcome.2 = .ok artifactRefs → Exported controller later artifactRefs
  spoiled : ∀ message, outcome.2 = .error (.invalid message) → base.status.phase = .finalizing →
      ∃ older exchange, WhileFinalizing later older exchange ∧ isSpoiled exchange = true

theorem keeps_collectArtifacts (holds : held history = some base) (same : SameCourse base run)
    (phase : base.status.phase = .running ∨ base.status.phase = .finalizing) :
    (collectArtifacts controller run).Keeps (contract controller)
      (Collected controller base history) history := by
  unfold collectArtifacts
  split
  case isTrue unused =>
    refine ⟨.refl holds same _, fun artifactRefs exported => ?_, by simp⟩
    cases exported
    exact .disabled unused
  · simp only [keeps_bind, keeps_query, Query.Permitted, true_and]
    intro staged
    have known : held (⟨.query .stagedArtifacts, staged⟩ :: history : History) = some base := holds
    cases staged with
    | error => exact ⟨(KeptCourse.refl known same ()).query _, by simp, by simp⟩
    | ok names =>
      simp only
      split
      case isTrue many =>
        refine ⟨(KeptCourse.refl known same ()).query _, by simp, fun _ _ finalizing => ?_⟩
        exact ⟨history, _, .now holds finalizing, decide_eq_true many⟩
      · split
        case isTrue none =>
          refine ⟨(KeptCourse.refl known same ()).query _, fun artifactRefs exported => ?_, by simp⟩
          cases exported
          cases List.isEmpty_iff.mp none
          exact .empty (.head _)
        · rw [keeps_bind]
          refine (keeps_ensureArtifactFinalizer known same phase).weaken ?_
          rintro ⟨_, failure⟩ later longer kept
          cases failure with
          | some => exact ⟨kept.query _, by simp, by simp⟩
          | none =>
            simp only [keeps_bind, keeps_query, Query.Permitted, true_and]
            intro stored
            obtain ⟨_, holdsLater, _, samePhase, _⟩ := kept.course
            refine ⟨⟨kept.course, fun steady =>
              (kept.steady (steady.of_handed rfl)).of_handed rfl⟩, ?_, ?_⟩
            · intro artifactRefs exported
              cases exported
              exact .stored (List.mem_cons_of_mem _ (longer.subset List.mem_cons_self))
                List.mem_cons_self
            · intro message refused finalizing
              cases refused
              exact ⟨later, _, .now holdsLater (samePhase.trans finalizing), rfl⟩

theorem conforms_applySuccess {response : StatusResponse} {older : History}
    (holds : held history = some base) (same : SameCourse base run)
    (phase : base.status.phase = .running)
    (polled : Witnessed history older base ⟨.query .status, .response response⟩)
    (halted : Halted history) (steady : Steady history base.status.attempt) :
    Conforms controller (applySuccess controller handle run) history := by
  have active : base.status.phase.isActive = true := by rw [phase]; rfl
  simp only [Conforms, applySuccess, keeps_bind, keeps_query, Query.Permitted, true_and]
  intro read
  cases read with
  | error =>
    exact conforms_applyTerminal holds same active
      (.inr (.inr ⟨.inl rfl, .answered (polled.suffix (List.suffix_cons _ _))
        (halted.later (List.suffix_cons _ _)),
        fun finalizing => by cases phase.symm.trans finalizing⟩)) (by simp)
  | ok outputs =>
    have stillHolds : held (⟨.query .readOutputs, .ok outputs⟩ :: history : History) =
        some base := holds
    simp only
    rw [keeps_bind]
    refine (keeps_collectArtifacts stillHolds same (.inl phase)).weaken ?_
    rintro ⟨collected, result⟩ later longer
      ⟨⟨⟨current, known, still, samePhase, _, sameAttempt⟩, keptSteady⟩, _⟩
    have polledLater : Witnessed later older current ⟨.query .status, .response response⟩ :=
      ⟨(polled.later.trans (List.suffix_cons _ _)).trans longer, sameAttempt ▸ polled.copy⟩
    have haltedLater : Halted later := halted.later ((List.suffix_cons _ _).trans longer)
    cases result with
    | error failure =>
      cases failure with
      | invalid =>
        exact conforms_applyTerminal known still (samePhase ▸ active)
          (.inr (.inr ⟨.inl rfl, .answered polledLater haltedLater, fun finalizing =>
            by cases (samePhase.trans phase).symm.trans finalizing⟩)) (by simp)
      | transient => exact trivial
    | ok artifactRefs =>
      have steadyLater : Steady later current.status.attempt :=
        sameAttempt ▸ keptSteady (steady.of_handed rfl)
      simp only [keeps_bind, keeps_now, keeps_updateStatus]
      intro time
      refine ⟨⟨current, known, .succeed (samePhase.trans phase) still
        (.tail _ (polledLater.later.subset (.head _)))
        (haltedLater.later (List.suffix_cons _ _)) (steadyLater.of_handed rfl)⟩, ?_⟩
      intro answer _
      cases answer with
      | error => exact trivial
      | ok stored =>
        have ended : Ended (⟨.updateStatus
            (successStatus collected outputs artifactRefs time) [], .ok stored⟩ ::
            ⟨.query .clock, time⟩ :: later) :=
          ⟨_, stored, .head _, rfl⟩
        exact (keeps_bind _ _).mpr (conforms_cleanup controller handle stored _ ended)

theorem conforms_reconcileRetryBackoff (holds : held history = some run)
    (phase : run.status.phase = .running) (found : FoundEntry history handle)
    (waiting : inBackoff run = true) :
    Conforms controller (reconcileRetryBackoff controller handle run) history := by
  unfold reconcileRetryBackoff
  cases known : runningCondition run with
  | none => exact trivial
  | some condition =>
    have failed : condition.status = .conditionFalse := by
      simpa [inBackoff, known] using waiting
    simp only [Conforms, keeps_bind, keeps_now]
    intro checked
    split
    · exact trivial
    case isFalse elapsed =>
      simp only [keeps_bind, keeps_now, keeps_updateStatus]
      intro time
      refine ⟨⟨run, holds, .resume phase found.cons.cons known failed
        (.tail _ (.head _)) (not_lt.mp elapsed)⟩, ?_⟩
      intro answer _
      cases answer with
      | error => exact trivial
      | ok stored => exact conforms_keepObserving handle stored _

end Writers

end Kruntimes.Runtimed
