import Kruntimes.Runtimed.Apply

/-!
# Task Runs

The Running phase of a task: starting its execution, polling it, and what happens when
the Runtime Server or the local entry is not there any more.
-/

namespace Kruntimes.Runtimed

open Api Transition
open Program (keeps_bind)

/-! ## Starting the execution -/

/-- `startExecutionAsync` up to the start of its goroutine. -/
def startExecutionAsync (handle : Nat) (run : Run) : Process Unit := do
  let object ← activeRun handle run
  if object.executionStarting then pure ()
  else amend (.beginExecutionStart handle run.status.attempt)

/-- The failure that the goroutine records. -/
def executeFailure (message : String) : Failure :=
  { reason := reasonRuntimeExecute, message := "runtime Execute: " ++ message }

/-- The goroutine of `startExecutionAsync`. -/
def startExecution (handle : Nat) (attempt : Int) : Process Result := do
  let prepared ← ask .prepareExecution
  match (prepared : Option String) with
  | some message => do
    amend (.finishExecutionStart handle (some (executeFailure message)))
    pure .empty
  | none => do
    let executed ← execute attempt
    match executed with
    | some message => do
      amend (.finishExecutionStart handle (some (executeFailure message)))
      pure .empty
    | none => do
      let seen ← memory
      amend (.finishExecutionStart handle none)
      if seen.active = some handle then pure .empty
      else do
        let _ ← forgetTaskExecution
        pure .empty

/-! ## Observing the execution -/

def addRecoveredRun (run : Run) : Process Nat := do
  let seen ← memory
  match seen.active with
  | some handle => do
    amend (.assign handle run)
    amend (.setStarted handle true)
    pure handle
  | none => do
    amend (.allocate (newActiveRun run))
    amend (.setStarted seen.objects.length true)
    amend (.claim seen.objects.length)
    pure seen.objects.length

/-- The Run after `markRuntimeAccepted`. -/
def acceptedRun (run : Run) (time : Time) : Run :=
  (markRuntimeAccepted run time).getD run

/-- Store the acceptance if it is new, and continue with the Run. -/
def recordAcceptance (run : Run) (time : Time) (next : Run → Process Result) :
    Process Result :=
  match markRuntimeAccepted run time with
  | none => next run
  | some accepted => do
    let written ← updateStatus accepted
    match written with
    | .error message => pure (.failed message)
    | .ok stored => next stored

def reconcileRunningRecovered (controller : Controller) (run : Run) : Process Result := do
  let polled ← ask .status
  match (polled : Polled StatusResponse) with
  | .notFound => do
    let handle ← buildActiveRun run
    applyFailure handle run reasonExecutionLost "runtime execution not found after runtimed restart"
  | .unavailable message => do
    let _ ← addRecoveredRun run
    pure (.failed ("runtime Status after runtimed restart: " ++ message))
  | .response response => do
    let handle ← addRecoveredRun run
    let time ← now
    match response.state with
    | .succeeded => applySuccess controller handle (acceptedRun run time)
    | .failed =>
      applyFailure handle (acceptedRun run time) (classifyFailureReason response)
        (summarizeRuntimeFailure response)
    | .pending | .running => recordAcceptance run time fun _ => pure .empty
    | .unspecified => pure .empty

def cancelRuntimeExecution : Process Unit := ask .cancel

def applyCancel (handle : Nat) (run : Run) : Process Result := do
  cancelRuntimeExecution
  applyTerminal handle run .cancelled reasonCancelled "cancelled by user"

/-- The message of a timeout. -/
def timeoutMessage (controller : Controller) (run : Run) : String :=
  "timeout after " ++ controller.durationString (run.spec.timeout.getD 0)

def handleTimeout (controller : Controller) (handle : Nat) (run : Run) : Process Result := do
  cancelRuntimeExecution
  applyFailure handle run reasonTimeout (timeoutMessage controller run)

/-- The branch of `reconcileRunningActive` for an execution that the Runtime Server does
not know.  The flag, the recorded failure and the start in flight are read one after
the other. -/
def reconcileMissingExecution (handle : Nat) (run : Run) : Process Result := do
  let object ← activeRun handle run
  if object.started then
    applyFailure handle run reasonExecutionLost "runtime execution not found"
  else do
    let object ← activeRun handle run
    match object.executionStart with
    | some failure => do
      amend (.clearExecutionStart handle)
      applyFailure handle run failure.reason failure.message
    | none => do
      let object ← activeRun handle run
      if object.executionStarting then keepObserving handle run
      else do
        startExecutionAsync handle run
        keepObserving handle run

/-- The branch of `reconcileRunningActive` for a response.  The `started` flag is set
together with the observation. -/
def reconcileExecution (controller : Controller) (handle : Nat) (run : Run)
    (response : StatusResponse) : Process Result :=
  match response.state with
  | .pending | .running => do
    amend (.setStarted handle true)
    let time ← now
    recordAcceptance run time (keepObserving handle)
  | .succeeded => do
    let time ← now
    applySuccess controller handle (acceptedRun run time)
  | .failed => do
    let time ← now
    applyFailure handle (acceptedRun run time) (classifyFailureReason response)
      (summarizeRuntimeFailure response)
  | .unspecified =>
    applyFailure handle run reasonRuntimeExecute
      ("runtime Status returned unsupported execution state " ++ response.state.name)

def reconcileRunningActive (controller : Controller) (handle : Nat) (run : Run) :
    Process Result := do
  let time ← now
  let object ← activeRun handle run
  if object.deadline.any (fun deadline => decide (deadline < time)) then
    handleTimeout controller handle run
  else do
    let polled ← ask .status
    match (polled : Polled StatusResponse) with
    | .notFound => reconcileMissingExecution handle run
    | .unavailable message => pure (.failed ("runtime Status: " ++ message))
    | .response response => reconcileExecution controller handle run response

/-- The task branch of `reconcileRunning`. -/
def reconcileRunningTask (controller : Controller) (run : Run) : Process Result := do
  let seen ← memory
  match seen.active with
  | none => reconcileRunningRecovered controller run
  | some handle => do
    amend (.assign handle run)
    if run.spec.hasImmediateTermination then applyCancel handle run
    else if inBackoff run then reconcileRetryBackoff controller handle run
    else reconcileRunningActive controller handle run

/-! ## The contract of the task branch -/

section Contract

variable {controller : Controller} {handle : Nat} {run : Run} {history : History}

/-- Marking the execution as accepted does not touch the course of the Run. -/
theorem sameCourse_of_markRuntimeAccepted {accepted : Run} {time : Time}
    (marked : markRuntimeAccepted run time = some accepted) : SameCourse run accepted := by
  unfold markRuntimeAccepted at marked
  split at marked
  · contradiction
  cases marked
  exact ⟨rfl, rfl, rfl, rfl, rfl, rfl,
    find_setStatusCondition_of_ne (by decide : conditionRuntimeAccepted ≠ conditionRunning)⟩

theorem sameCourse_acceptedRun (run : Run) (time : Time) :
    SameCourse run (acceptedRun run time) := by
  unfold acceptedRun
  cases marked : markRuntimeAccepted run time with
  | none => exact .refl run
  | some => exact sameCourse_of_markRuntimeAccepted marked

theorem conforms_startExecution (controller : Controller) (handle : Nat) (attempt : Int) :
    Conforms controller (startExecution handle attempt)
      [⟨.query .arguments, .startExecution handle attempt⟩] := by
  simp only [Conforms, startExecution, keeps_bind, keeps_query, Query.Permitted, true_and]
  intro prepared
  cases prepared with
  | some => exact ⟨trivial, trivial⟩
  | none =>
    simp only [keeps_bind, keeps_execute]
    refine ⟨⟨⟨handle, .tail _ (.head _)⟩, ?_, ?_, rfl⟩, ?_⟩
    · intro answer mem
      rcases List.mem_cons.mp mem with same | old
      · cases same
      · cases List.mem_singleton.mp old
    · rintro ⟨_, mem, halting⟩
      rcases List.mem_cons.mp mem with rfl | old
      · cases halting
      · cases List.mem_singleton.mp old
        cases halting
    intro executed
    cases executed with
    | some => exact ⟨trivial, trivial⟩
    | none =>
      simp only [keeps_bind, keeps_memory, keeps_edit]
      intro seen
      refine ⟨trivial, ?_⟩
      split
      · exact trivial
      · exact (quiet_forgetTaskExecution controller _).keeps_bind fun _ _ _ _ => trivial

theorem quiet_buildActiveRun (run : Run) (history : History) :
    Quiet controller (buildActiveRun run) history := by
  simp only [Quiet, buildActiveRun, keeps_bind, keeps_memory, keeps_edit]
  exact fun _ => ⟨trivial, rfl⟩

theorem quiet_addRecoveredRun (run : Run) (found : FoundNone history) :
    Quiet controller (addRecoveredRun run) history := by
  simp only [Quiet, addRecoveredRun, keeps_bind, keeps_memory]
  intro seen
  have stillNone : FoundNone (⟨.query .memory, seen⟩ :: history) := found.cons
  cases known : seen.active with
  | some => exact ⟨trivial, ⟨rfl, .inr stillNone⟩, rfl⟩
  | none => exact ⟨trivial, ⟨rfl, .inr stillNone⟩, ⟨seen, history, rfl, known⟩, rfl⟩

theorem conforms_recordAcceptance {time : Time} {next : Run → Process Result}
    (holds : held history = some run) (phase : run.status.phase = .running)
    (continues : ∀ stored later, Conforms controller (next stored) later) :
    Conforms controller (recordAcceptance run time next) history := by
  unfold recordAcceptance
  cases marked : markRuntimeAccepted run time with
  | none => exact continues run history
  | some =>
    simp only [Conforms, keeps_bind, keeps_updateStatus]
    refine ⟨⟨run, holds, .observe (.inl phase) (sameCourse_of_markRuntimeAccepted marked)⟩, ?_⟩
    intro answer _
    cases answer with
    | error => exact trivial
    | ok stored => exact continues stored _

theorem conforms_reconcileRunningRecovered {seen : Memory} {older : History}
    (holds : held history = some run) (phase : run.status.phase = .running)
    (found : FoundNone history)
    (looked : Witnessed history older run ⟨.query .memory, seen⟩)
    (missing : seen.active = none) (steady : Steady history run.status.attempt) :
    Conforms controller (reconcileRunningRecovered controller run) history := by
  simp only [Conforms, reconcileRunningRecovered, keeps_bind, keeps_query, Query.Permitted,
    true_and]
  intro polled
  have foundLater : FoundNone (⟨.query .status, polled⟩ :: history) := found.cons
  cases polled with
  | notFound =>
    apply (quiet_buildActiveRun run _).keeps_bind
    intro handle later longer same
    exact conforms_applyFailure (held_of_handed same holds) (.refl run) (.inl phase)
      (.recovered (looked.suffix ((List.suffix_cons _ _).trans longer)) missing
        ((Halted.now rfl).later longer))
  | unavailable =>
    exact (quiet_addRecoveredRun run foundLater).keeps_bind fun _ _ _ _ => trivial
  | response response =>
    apply (quiet_addRecoveredRun run foundLater).keeps_bind
    intro handle later longer same
    simp only [keeps_bind, keeps_now]
    intro time
    have known : held (⟨.query .clock, time⟩ :: later : History) = some run :=
      held_of_handed same holds
    have polled : Witnessed (⟨.query .clock, time⟩ :: later) history run
        ⟨.query .status, .response response⟩ :=
      (Witnessed.now holds phase).suffix (longer.trans (List.suffix_cons _ _))
    have halted (ended : halts ⟨.query .status, .response response⟩ = true) :
        Halted (⟨.query .clock, time⟩ :: later) :=
      (Halted.now ended).later (longer.trans (List.suffix_cons _ _))
    cases state : response.state with
    | succeeded =>
      exact conforms_applySuccess known (sameCourse_acceptedRun run time) phase polled
        (halted (by simp [halts, state])) (steady.of_handed same)
    | failed =>
      exact conforms_applyFailure known (sameCourse_acceptedRun run time) (.inl phase)
        (.answered polled (halted (by simp [halts, state])))
    | pending | running => exact conforms_recordAcceptance known phase fun _ _ => trivial
    | unspecified => exact trivial

@[simp]
theorem keeps_cancelRuntimeExecution {post : Unit → History → Prop} :
    cancelRuntimeExecution.Keeps (contract controller) post history ↔
      ∀ answer : Unit, post answer (⟨.query .cancel, answer⟩ :: history) :=
  (keeps_query .cancel).trans (iff_of_eq (true_and _))

section Running

variable {response : StatusResponse} (holds : held history = some run)
  (phase : run.status.phase = .running)

include holds phase

theorem conforms_applyCancel (requested : run.spec.hasImmediateTermination = true) :
    Conforms controller (applyCancel handle run) history := by
  simp only [Conforms, applyCancel, keeps_bind, keeps_cancelRuntimeExecution]
  intro cancelled
  have active : run.status.phase.isActive = true := by rw [phase]; rfl
  exact conforms_applyTerminal (held_of_handed (handed_query .cancel cancelled _) holds)
    (.refl run) active (.inl ⟨rfl, requested, .inl (.now rfl)⟩) nofun

theorem conforms_reconcileMissingExecution (found : FoundEntry history handle)
    (active : inBackoff run = false) (halted : Halted history) (engaged : Engaged history run) :
    Conforms controller (reconcileMissingExecution handle run) history := by
  simp only [Conforms, reconcileMissingExecution, keeps_bind, keeps_activeRun]
  intro first
  split
  case isTrue observed =>
    exact conforms_applyFailure holds (.refl run) (.inl phase)
      (.lost ⟨run, holds, active⟩ found (.now holds phase) observed
        (halted.later (List.suffix_cons _ _)))
  case isFalse =>
    simp only [keeps_bind, keeps_activeRun]
    intro second
    cases recorded : (second.object handle run).executionStart with
    | some =>
      have known : held (⟨.query .memory, first⟩ :: history : History) = some run := holds
      refine ⟨trivial, conforms_applyFailure holds (.refl run) (.inl phase)
        (.startFailure ⟨run, known, active⟩ found.cons (.now known phase) ?_
          (halted.later ((List.suffix_cons _ _).trans (List.suffix_cons _ _))))⟩
      exact recorded ▸ rfl
    | none =>
      simp only [keeps_bind, keeps_activeRun]
      intro third
      split
      · exact conforms_keepObserving handle run _
      simp only [startExecutionAsync, keeps_bind, keeps_activeRun]
      intro fourth
      split
      · exact conforms_keepObserving handle run _
      refine ⟨⟨run, holds, phase, active, rfl, found.cons.cons.cons.cons, ?_⟩,
        conforms_keepObserving handle run _⟩
      exact (((engaged.query (by simp)).query (by simp)).query (by simp)).query (by simp)

theorem conforms_reconcileExecution
    (steady : Steady history run.status.attempt) :
    Conforms controller (reconcileExecution controller handle run response)
      (⟨.query .status, .response response⟩ :: history) := by
  have polled : Witnessed (⟨.query .status, .response response⟩ :: history) history run
      ⟨.query .status, .response response⟩ :=
    .now holds phase
  have observe : Conforms controller (do
        amend (.setStarted handle true)
        let time ← now
        recordAcceptance run time (keepObserving handle))
      (⟨.query .status, .response response⟩ :: history) := by
    simp only [Conforms, keeps_bind, keeps_edit, keeps_now]
    exact ⟨⟨rfl, .inl ⟨response, history, rfl⟩⟩, fun time =>
      conforms_recordAcceptance holds phase (conforms_keepObserving handle)⟩
  have halted (ended : halts ⟨.query .status, .response response⟩ = true) :
      Halted (⟨.query .status, .response response⟩ :: history) :=
    .now ended
  unfold reconcileExecution
  cases state : response.state with
  | pending | running => exact observe
  | succeeded =>
    simp only [Conforms, keeps_bind, keeps_now]
    exact fun time => conforms_applySuccess holds (sameCourse_acceptedRun run time) phase
      (polled.suffix (List.suffix_cons _ _))
      ((halted (by simp [halts, state])).later (List.suffix_cons _ _)) (steady.of_handed rfl)
  | failed =>
    simp only [Conforms, keeps_bind, keeps_now]
    exact fun time => conforms_applyFailure holds (sameCourse_acceptedRun run time)
      (.inl phase) (.answered (polled.suffix (List.suffix_cons _ _))
        ((halted (by simp [halts, state])).later (List.suffix_cons _ _)))
  | unspecified =>
    exact conforms_applyFailure holds (.refl run) (.inl phase)
      (.answered polled (halted (by simp [halts, state])))

theorem conforms_reconcileRunningActive (found : FoundEntry history handle)
    (active : inBackoff run = false) (steady : Steady history run.status.attempt)
    (engaged : Engaged history run) :
    Conforms controller (reconcileRunningActive controller handle run) history := by
  simp only [Conforms, reconcileRunningActive, keeps_bind, keeps_now, keeps_activeRun]
  intro time seen
  have known : held (⟨.query .clock, time⟩ :: history : History) = some run := holds
  split
  case isTrue past =>
    obtain ⟨_, due, late⟩ := (Option.any_eq_true _ _).mp past
    simp only [handleTimeout, keeps_bind, keeps_cancelRuntimeExecution]
    intro cancelled
    exact conforms_applyFailure (held_of_handed (handed_query .cancel cancelled _) holds)
      (.refl run) (.inl phase)
      (.overdue ⟨run, known, active⟩ found.cons
        ((Witnessed.now known phase).suffix (List.suffix_cons _ _))
        (.head _) due (of_decide_eq_true late) (.now rfl))
  case isFalse =>
    simp only [keeps_bind, keeps_query, Query.Permitted, true_and]
    intro polled
    cases polled with
    | notFound =>
      exact conforms_reconcileMissingExecution holds phase found.cons.cons.cons active
        (.now rfl) (((engaged.query (by simp)).query (by simp)).query (by simp))
    | unavailable => exact trivial
    | response => exact conforms_reconcileExecution holds phase (steady.of_handed rfl)

theorem conforms_reconcileRunningTask (first : firstLook history = none)
    (uncleaned : Uncleaned history) (steady : Steady history run.status.attempt) :
    Conforms controller (reconcileRunningTask controller run) history := by
  simp only [Conforms, reconcileRunningTask, keeps_bind, keeps_memory]
  intro seen
  cases known : seen.active with
  | none =>
    exact conforms_reconcileRunningRecovered holds phase (foundNone_of_firstLook first known)
      (.now holds phase) known (steady.of_handed rfl)
  | some handle =>
    have found : FoundEntry (⟨.query .memory, seen⟩ :: history) handle :=
      foundEntry_of_firstLook first known
    refine ⟨trivial, ?_⟩
    split
    case isTrue requested => exact conforms_applyCancel holds phase requested
    case isFalse =>
      split
      case isTrue waiting =>
        exact conforms_reconcileRetryBackoff holds phase found waiting
      case isFalse active =>
        exact conforms_reconcileRunningActive holds phase found (by simpa using active)
          (steady.of_handed rfl) (engaged_of_firstLook holds first uncleaned)

end Running

end Contract

end Kruntimes.Runtimed
