import Kruntimes.Runtimed.Status

/-!
# What the programs of runtimed do

One contract says which status updates the programs of runtimed make and why, and
which edits of `activeRun` they make.  Every statement about the writes of runtimed is
derived from it.  In return the programs rely on the API server: an accepted update
returns the object as it is then stored.
-/

namespace Kruntimes.Runtimed

open Api Transition

/-- The exchanges of a program, the newest first. -/
abbrev History := List (Exchange runtimed)

variable {history older : History} {run : Run} {exchange : Exchange runtimed} {handle : Nat}
  {seen : Memory}

/-! ## What a program has learnt -/

/-- The Run object that an exchange hands to the program.  Of the listed Runs the program
takes up those assigned to its Pod. -/
def heldBy : Exchange runtimed → Option Run
  | ⟨.get, found⟩ => (found : Option Run)
  | ⟨.listRuns podName, found⟩ =>
    (found : Option Run).filter fun run => run.status.assignedPod == podName
  | ⟨.updateStatus _ _, answer⟩ => (answer : Except String Run).toOption
  | ⟨.update _, answer⟩ => (answer : Except String Run).toOption
  | _ => none

/-- The Run objects that were handed to the program, the newest first. -/
def handed (history : History) : List Run :=
  history.filterMap heldBy

/-- The Run object that the program works on: the one it was handed last. -/
def held (history : History) : Option Run :=
  (handed history).head?

/-- The memory that a query shows. -/
def Query.shown : (query : Query) → query.Answer → Option Memory
  | .memory, seen => some seen
  | _, _ => none

/-- The memory that an exchange shows. -/
def shownBy : Exchange runtimed → Option Memory
  | ⟨.query query, answer⟩ => query.shown answer
  | _ => none

/-- The memory at the first look at `activeRuns`. -/
def firstLook : History → Option Memory
  | [] => none
  | exchange :: older => (firstLook older).or (shownBy exchange)

/-- The time that a query reads. -/
def Query.reading : (query : Query) → query.Answer → Option Time
  | .clock, time => some time
  | _, _ => none

/-- The last reading of the clock. -/
def lastReading (history : History) : Option Time :=
  history.findSome? fun
    | ⟨.query query, answer⟩ => query.reading answer
    | _ => none

/-- The first look found this entry. -/
def FoundEntry (history : History) (handle : Nat) : Prop :=
  (firstLook history).any (fun seen => seen.active == some handle) = true

/-- The first look found no entry. -/
def FoundNone (history : History) : Prop :=
  (firstLook history).any (fun seen => seen.active == none) = true

theorem held_of_handed (same : handed history = handed older) (holds : held older = some run) :
    held history = some run :=
  (congrArg List.head? same).trans holds

theorem handed_query (query : Query) (answer : query.Answer) (history : History) :
    handed (⟨.query query, answer⟩ :: history) = handed history :=
  rfl

/-- A listed Run that is assigned to the Pod is taken up. -/
theorem handed_listRuns {podName : String} (own : run.status.assignedPod = podName)
    (history : History) :
    handed (⟨.listRuns podName, some run⟩ :: history) = run :: handed history := by
  apply List.filterMap_cons_some
  change (some run).filter (fun run => run.status.assignedPod == podName) = some run
  simp [own]

theorem firstLook_of_suffix (later : older <:+ history) (looked : firstLook older = some seen) :
    firstLook history = some seen := by
  obtain ⟨newer, rfl⟩ := later
  induction newer with
  | nil => exact looked
  | cons exchange newer ih => simp [firstLook, ih]

theorem FoundEntry.later (found : FoundEntry older handle) (later : older <:+ history) :
    FoundEntry history handle := by
  unfold FoundEntry at found ⊢
  cases looked : firstLook older with
  | none => simp [looked] at found
  | some =>
    rw [firstLook_of_suffix later looked]
    simpa [looked] using found

theorem FoundNone.later (found : FoundNone older) (later : older <:+ history) :
    FoundNone history := by
  unfold FoundNone at found ⊢
  cases looked : firstLook older with
  | none => simp [looked] at found
  | some =>
    rw [firstLook_of_suffix later looked]
    simpa [looked] using found

theorem FoundEntry.cons (found : FoundEntry history handle) :
    FoundEntry (exchange :: history) handle :=
  found.later (List.suffix_cons _ _)

theorem FoundNone.cons (found : FoundNone history) : FoundNone (exchange :: history) :=
  found.later (List.suffix_cons _ _)

/-- The first look decides what was found. -/
theorem foundEntry_of_firstLook (first : firstLook history = none)
    (known : seen.active = some handle) :
    FoundEntry (⟨.query .memory, seen⟩ :: history) handle := by
  simp [FoundEntry, firstLook, first, shownBy, Query.shown, known]

theorem foundNone_of_firstLook (first : firstLook history = none) (known : seen.active = none) :
    FoundNone (⟨.query .memory, seen⟩ :: history) := by
  simp [FoundNone, firstLook, first, shownBy, Query.shown, known]

/-! ## Status updates -/

/-- `run` is `base` up to conditions other than `Running` and results that are about to
be published. -/
structure SameCourse (base run : Run) : Prop where
  resourceVersion : run.resourceVersion = base.resourceVersion
  spec : run.spec = base.spec
  phase : run.status.phase = base.status.phase
  assignedPod : run.status.assignedPod = base.status.assignedPod
  assignedPodUID : run.status.assignedPodUID = base.status.assignedPodUID
  attempt : run.status.attempt = base.status.attempt
  running : runningCondition run = runningCondition base

theorem SameCourse.refl (run : Run) : SameCourse run run := ⟨rfl, rfl, rfl, rfl, rfl, rfl, rfl⟩

/-- The exchange took place directly after `older`, while the program held a Running copy
at the attempt of `run`. -/
structure Witnessed (history older : History) (run : Run) (exchange : Exchange runtimed) :
    Prop where
  later : (exchange :: older) <:+ history
  copy : ∃ first, held older = some first ∧ first.status.phase = .running ∧
    first.status.attempt = run.status.attempt

theorem Witnessed.suffix {earlier : History} (witnessed : Witnessed earlier older run exchange)
    (longer : earlier <:+ history) :
    Witnessed history older run exchange :=
  ⟨witnessed.later.trans longer, witnessed.copy⟩

theorem Witnessed.now (holds : held history = some run) (phase : run.status.phase = .running) :
    Witnessed (exchange :: history) history run exchange :=
  ⟨List.suffix_refl _, run, holds, phase, rfl⟩

/-- The program has been handed a Scheduled copy at the attempt of `run`. -/
def ReadScheduled (history : History) (run : Run) : Prop :=
  ∃ first ∈ handed history,
    first.status.phase = .scheduled ∧ first.status.attempt = run.status.attempt

theorem ReadScheduled.later (read : ReadScheduled older run) (later : older <:+ history) :
    ReadScheduled history run := by
  obtain ⟨first, mem, scheduled⟩ := read
  exact ⟨first, (later.filterMap heldBy).subset mem, scheduled⟩

/-- After the exchange the Runtime Server has no execution in progress: it was asked to
cancel, or it said so. -/
def halts : Exchange runtimed → Bool
  | ⟨.query .cancel, _⟩ => true
  | ⟨.query .status, answer⟩ =>
    match (answer : Polled StatusResponse) with
    | .notFound => true
    | .unavailable _ => false
    | .response response => response.state != .pending && response.state != .running
  | _ => false

/-- The Runtime Server had no execution in progress at some time during the program. -/
def Halted (history : History) : Prop :=
  ∃ exchange ∈ history, halts exchange = true

theorem Halted.later (halted : Halted older) (later : older <:+ history) :
    Halted history := by
  obtain ⟨exchange, mem, halting⟩ := halted
  exact ⟨exchange, later.subset mem, halting⟩

theorem Halted.now (halting : halts exchange = true) : Halted (exchange :: history) :=
  ⟨exchange, .head _, halting⟩

/-- The program works on a copy whose backoff is over. -/
def Awake (history : History) : Prop :=
  ∃ run, held history = some run ∧ inBackoff run = false

/-- What a program has seen when it declares the attempt of `run` failed. -/
inductive FailureCause (history : History) (run : Run) : Prop
  /-- `prepareSource` failed after the claim. -/
  | unprepared {message : String} {older : History}
      (answered : Witnessed history older run ⟨.query .prepareSource, some message⟩)
      (read : ReadScheduled history run)
  /-- The deadline of the entry had passed. -/
  | overdue {handle : Nat} {seen : Memory} {time deadline : Time} {older : History}
      (awake : Awake older) (found : FoundEntry older handle)
      (looked : Witnessed history older run ⟨.query .memory, seen⟩)
      (read : (⟨.query .clock, time⟩ : Exchange runtimed) ∈ older)
      (due : (seen.object handle run).deadline = some deadline) (past : deadline < time)
      (halted : Halted history)
  /-- A start failure was on record. -/
  | startFailure {handle : Nat} {seen : Memory} {older : History}
      (awake : Awake older) (found : FoundEntry older handle)
      (looked : Witnessed history older run ⟨.query .memory, seen⟩)
      (recorded : (seen.object handle run).executionStart.isSome = true)
      (halted : Halted history)
  /-- The execution had been observed and the Runtime Server no longer knew it. -/
  | lost {handle : Nat} {seen : Memory} {older : History}
      (awake : Awake older) (found : FoundEntry older handle)
      (looked : Witnessed history older run ⟨.query .memory, seen⟩)
      (observed : (seen.object handle run).started = true) (halted : Halted history)
  /-- The Runtime Server reported an execution that had ended. -/
  | answered {response : StatusResponse} {older : History}
      (polled : Witnessed history older run ⟨.query .status, .response response⟩)
      (halted : Halted history)
  /-- There was no entry. -/
  | recovered {seen : Memory} {older : History}
      (looked : Witnessed history older run ⟨.query .memory, seen⟩)
      (missing : seen.active = none) (halted : Halted history)
  /-- A Session or Function registration failed, timed out or was lost. -/
  | registration (mode : run.spec.mode.session.isSome = true ∨ run.spec.mode.function.isSome = true)
  /-- Only Sessions are finalized. -/
  | misplaced (phase : run.status.phase = .finalizing)

theorem FailureCause.later (cause : FailureCause older run) (later : older <:+ history) :
    FailureCause history run := by
  cases cause with
  | unprepared answered read => exact .unprepared (answered.suffix later) (read.later later)
  | overdue awake found looked read due past halted =>
    exact .overdue awake found (looked.suffix later) read due past (halted.later later)
  | startFailure awake found looked recorded halted =>
    exact .startFailure awake found (looked.suffix later) recorded (halted.later later)
  | lost awake found looked observed halted =>
    exact .lost awake found (looked.suffix later) observed (halted.later later)
  | answered polled halted => exact .answered (polled.suffix later) (halted.later later)
  | recovered looked missing halted =>
    exact .recovered (looked.suffix later) missing (halted.later later)
  | registration mode => exact .registration mode
  | misplaced phase => exact .misplaced phase

/-- Nothing of the Run is left to be cancelled: its execution was halted, it was Scheduled, or
it has no execution. -/
def Stopped (history : History) (base : Run) : Prop :=
  Halted history ∨ base.status.phase = .scheduled ∨
    (base.spec.mode.session.isSome = true ∨ base.spec.mode.function.isSome = true)

theorem Stopped.later (stopped : Stopped older run) (later : older <:+ history) :
    Stopped history run := by
  rcases stopped with halted | rest
  · exact .inl (halted.later later)
  · exact .inr rest

/-- The exchange took place directly after `older`, while the program held a Finalizing
copy. -/
structure WhileFinalizing (history older : History) (exchange : Exchange runtimed) : Prop where
  later : (exchange :: older) <:+ history
  copy : ∃ first, held older = some first ∧ first.status.phase = .finalizing

theorem WhileFinalizing.suffix {earlier : History}
    (during : WhileFinalizing earlier older exchange) (longer : earlier <:+ history) :
    WhileFinalizing history older exchange :=
  ⟨during.later.trans longer, during.copy⟩

theorem WhileFinalizing.now (holds : held history = some run)
    (phase : run.status.phase = .finalizing) :
    WhileFinalizing (exchange :: history) history exchange :=
  ⟨List.suffix_refl _, run, holds, phase⟩

/-- The answer says that the Runtime Server does not serve the Session. -/
def isUnhosted : Polled SessionState → Bool
  | .notFound => true
  | .unavailable _ => false
  | .response state => state != .ready

/-- The answer says that the artifacts can never be stored. -/
def isSpoiled : Exchange runtimed → Bool
  | ⟨.query .stagedArtifacts, answer⟩ =>
    match (answer : Except String (List String)) with
    | .ok names => decide (maxArtifactRefs < names.length)
    | .error _ => false
  | ⟨.query (.storeArtifacts _), answer⟩ =>
    match (answer : Except ArtifactError (List ArtifactRef)) with
    | .error (.invalid _) => true
    | _ => false
  | _ => false

/-- What a program has seen when it ends a Finalizing Session without success. -/
inductive FinalizationFailure (history : History) (run : Run) : Prop
  /-- The deadline of an object had come. -/
  | expired {handle : Nat} {copy : Run} {seen : Memory} {time : Time} {older : History}
      (looked : WhileFinalizing history older ⟨.query .memory, seen⟩)
      (holds : held older = some copy)
      (read : (⟨.query .clock, time⟩ : Exchange runtimed) ∈ older)
      (due : (seen.object handle copy).isDue time = true)
  /-- The Runtime Server did not serve the Session any more. -/
  | unhosted {identity : SessionIdentity} {polled : Polled SessionState} {older : History}
      (asked : WhileFinalizing history older ⟨.query (.sessionStatus identity), polled⟩)
      (unready : isUnhosted polled = true)
  /-- The Session had no identity. -/
  | unidentified {message : String} (unknown : sessionIdentityForRun run = .error message)
  /-- An artifact was refused. -/
  | spoiled {exchange : Exchange runtimed} {older : History}
      (told : WhileFinalizing history older exchange) (refused : isSpoiled exchange = true)
  /-- The Run was no Session. -/
  | misplaced (mode : run.spec.mode.session = none)

theorem FinalizationFailure.later (failure : FinalizationFailure older run)
    (later : older <:+ history) :
    FinalizationFailure history run := by
  cases failure with
  | expired looked holds read due => exact .expired (looked.suffix later) holds read due
  | unhosted asked unready => exact .unhosted (asked.suffix later) unready
  | unidentified unknown => exact .unidentified unknown
  | spoiled told refused => exact .spoiled (told.suffix later) refused
  | misplaced mode => exact .misplaced mode

/-- The references are those of the staged artifacts. -/
inductive Exported (controller : Controller) (history : History) : List ArtifactRef → Prop
  /-- There is no artifact store. -/
  | disabled (unused : controller.artifactStore = false) : Exported controller history []
  /-- Nothing was staged. -/
  | empty (staged : (⟨.query .stagedArtifacts, .ok []⟩ : Exchange runtimed) ∈ history) :
      Exported controller history []
  /-- All that was staged is stored. -/
  | stored {names : List String} {artifactRefs : List ArtifactRef}
      (staged : (⟨.query .stagedArtifacts, .ok names⟩ : Exchange runtimed) ∈ history)
      (stored : (⟨.query (.storeArtifacts names), .ok artifactRefs⟩ : Exchange runtimed) ∈
        history) : Exported controller history artifactRefs

theorem Exported.later {controller : Controller} {artifactRefs : List ArtifactRef}
    (exported : Exported controller older artifactRefs) (later : older <:+ history) :
    Exported controller history artifactRefs := by
  cases exported with
  | disabled unused => exact .disabled unused
  | empty staged => exact .empty (later.subset staged)
  | stored staged stored => exact .stored (later.subset staged) (later.subset stored)

/-- Why a program ends the Run in `phase`. -/
def FinishCause (history : History) (base : Run) (phase : RunPhase) : Prop :=
  (phase = .cancelled ∧ base.spec.hasImmediateTermination = true ∧ Stopped history base) ∨
    (phase = .succeeded ∧ base.status.phase = .finalizing ∧ base.spec.mode.session.isSome = true) ∨
    ((phase = .failed ∨ phase = .timeout) ∧ FailureCause history base ∧
      (base.status.phase = .finalizing → FinalizationFailure history base))

theorem FinishCause.later {phase : RunPhase} (cause : FinishCause older run phase)
    (later : older <:+ history) :
    FinishCause history run phase := by
  rcases cause with ⟨cancelled, requested, stopped⟩ | finalized | ⟨ended, failure, finalizing⟩
  · exact .inl ⟨cancelled, requested, stopped.later later⟩
  · exact .inr (.inl finalized)
  · exact .inr (.inr ⟨ended, failure.later later, fun phase => (finalizing phase).later later⟩)

/-- A finish leads to a terminal phase. -/
theorem FinishCause.isTerminal {phase : RunPhase} (cause : FinishCause history run phase) :
    phase.isTerminal = true := by
  rcases cause with ⟨rfl, _⟩ | ⟨rfl, _⟩ | ⟨rfl | rfl, _⟩ <;> rfl

/-- Every Run object handed to the program is at this attempt. -/
def Steady (history : History) (attempt : Int) : Prop :=
  ∀ run ∈ handed history, run.status.attempt = attempt

theorem Steady.of_handed {attempt : Int} (steady : Steady older attempt)
    (same : handed history = handed older) :
    Steady history attempt := by
  rw [Steady, same]
  exact steady

theorem Steady.cons {attempt : Int} (steady : Steady older attempt)
    (next : handed history = run :: handed older) (kept : run.status.attempt = attempt) :
    Steady history attempt := by
  rw [Steady, next]
  exact List.forall_mem_cons.mpr ⟨kept, steady⟩

/-- The status updates of runtimed over the object `base`, with the edits that follow
them directly. -/
inductive StatusWrite (controller : Controller) (history : History) (base : Run) :
    Run → List Edit → Prop
  | claim {time : Time} (phase : base.status.phase = .scheduled) (found : FoundNone history) :
      StatusWrite controller history base (claimStatus base time) []
  | observe {run : Run} (phase : base.status.phase = .running ∨ base.status.phase = .finalizing)
      (same : SameCourse base run) :
      StatusWrite controller history base run []
  | resume {handle : Nat} {condition : Condition} {checked time : Time}
      (phase : base.status.phase = .running) (found : FoundEntry history handle)
      (waiting : runningCondition base = some condition)
      (failed : condition.status = .conditionFalse)
      (read : (⟨.query .clock, checked⟩ : Exchange runtimed) ∈ history)
      (elapsed : condition.lastTransitionTime + backoff controller.platform
        (withDefaults base.spec.retryPolicy) base.status.attempt ≤ checked) :
      StatusWrite controller history base (retryingStatus base time) [.setStarted handle false]
  | succeed {run : Run} {response : StatusResponse} {outputs : Labels}
      {artifactRefs : List ArtifactRef} {time : Time}
      (phase : base.status.phase = .running) (same : SameCourse base run)
      (polled : (⟨.query .status, .response response⟩ : Exchange runtimed) ∈ history)
      (halted : Halted history) (steady : Steady history base.status.attempt) :
      StatusWrite controller history base (successStatus run outputs artifactRefs time) []
  | retry {run : Run} {reason message : String} {time : Time}
      (phase : base.status.phase = .running ∨ base.status.phase = .ready)
      (same : SameCourse base run)
      (retries : shouldRetry (withDefaults base.spec.retryPolicy)
        (currentAttempt base.status.attempt) reason = true)
      (cause : FailureCause history base) (read : lastReading history = some time) :
      StatusWrite controller history base (retryStatus run reason message time) []
  | finish {run : Run} {phase : RunPhase} {reason message : String} {time : Time}
      (active : base.status.phase.isActive = true) (same : SameCourse base run)
      (cause : FinishCause history base phase)
      (exported : phase = .succeeded → Exported controller history run.status.artifactRefs) :
      StatusWrite controller history base (terminalStatus run phase reason message time) []
  | sessionReady {time : Time} (phase : base.status.phase = .running)
      (session : base.spec.mode.session.isSome = true)
      (own : base.status.assignedPod = controller.podName) :
      StatusWrite controller history base (sessionReadyStatus base time) []
  | functionReady {time : Time} (phase : base.status.phase = .running)
      (function : base.spec.mode.function.isSome = true)
      (own : base.status.assignedPod = controller.podName) :
      StatusWrite controller history base (functionReadyStatus base time) []
  | finalize {time : Time} (phase : base.status.phase = .running ∨ base.status.phase = .ready)
      (session : base.spec.mode.session.isSome = true) :
      StatusWrite controller history base (finalizingStatus base time) []

section Writes

variable {controller : Controller} {base : Run} {thereafter : List Edit}
  (write : StatusWrite controller history base run thereafter)

include write

/-- Every status update is made over the version that was read. -/
theorem StatusWrite.resourceVersion :
    run.resourceVersion = base.resourceVersion := by
  cases write with
  | claim =>
    unfold claimStatus
    split <;> rfl
  | observe phase same | succeed phase same polled halted steady
  | retry phase same | finish active same => exact same.resourceVersion
  | resume =>
    unfold retryingStatus
    split <;> rfl
  | sessionReady | functionReady | finalize => rfl

/-- Only a Run that is bound and not over is written. -/
theorem StatusWrite.isActive :
    base.status.phase.isActive = true := by
  cases write with
  | claim phase found | resume phase found waiting failed read elapsed
  | succeed phase | sessionReady phase | functionReady phase => rw [phase]; rfl
  | observe phase | retry phase =>
    rcases phase with phase | phase <;> rw [phase] <;> rfl
  | finish active => exact active
  | finalize phase => rcases phase with phase | phase <;> rw [phase] <;> rfl

end Writes

/-! ## The contract -/

/-- The program has stored a terminal status. -/
def Ended (history : History) : Prop :=
  ∃ run stored, (⟨.updateStatus run [], .ok stored⟩ : Exchange runtimed) ∈ history ∧
    run.status.phase.isTerminal = true

theorem Ended.later (ended : Ended older) (later : older <:+ history) :
    Ended history := by
  obtain ⟨run, stored, written, terminal⟩ := ended
  exact ⟨run, stored, later.subset written, terminal⟩

/-- The program was told that the Run is deleted or about to be. -/
def Deleted (history : History) : Prop :=
  (⟨.get, none⟩ : Exchange runtimed) ∈ history ∨
    ∃ run : Run, (⟨.get, some run⟩ : Exchange runtimed) ∈ history ∧ run.deleting = true

theorem Deleted.later (deleted : Deleted older) (later : older <:+ history) :
    Deleted history := by
  rcases deleted with gone | ⟨run, read, deleting⟩
  · exact .inl (later.subset gone)
  · exact .inr ⟨run, later.subset read, deleting⟩

/-- The arguments of the shutdown drain. -/
def isDrain : Exchange runtimed → Bool
  | ⟨.query .arguments, Goroutine.drain⟩ => true
  | _ => false

/-- The process is shut down, and the program drains its Runs. -/
def Draining (history : History) : Prop :=
  history.any isDrain = true

instance (history : History) : Decidable (Draining history) :=
  inferInstanceAs (Decidable (_ = _))

theorem Draining.later (draining : Draining older) (later : older <:+ history) :
    Draining history := by
  obtain ⟨exchange, mem, drains⟩ := List.any_eq_true.mp draining
  exact List.any_eq_true.mpr ⟨exchange, later.subset mem, drains⟩

/-- The program has not removed the files of the Run. -/
def Uncleaned (history : History) : Prop :=
  ∀ answer : Option String, (⟨.query .cleanupRunFiles, answer⟩ : Exchange runtimed) ∉ history

theorem Uncleaned.before (uncleaned : Uncleaned history) (later : older <:+ history) :
    Uncleaned older :=
  fun answer mem => uncleaned answer (later.subset mem)

/-- The program took its first look at `activeRuns` with this copy. -/
def LookedWith (history : History) (run : Run) : Prop :=
  ∃ (seen : Memory) (older : History), ⟨.query .memory, seen⟩ :: older <:+ history ∧
    firstLook older = none ∧ held older = some run

theorem LookedWith.cons (looked : LookedWith history run) :
    LookedWith (exchange :: history) run := by
  obtain ⟨seen, older, later, first⟩ := looked
  exact ⟨seen, older, later.trans (List.suffix_cons _ _), first⟩

/-- The program is at work on a copy: it looked with it, and has not removed the files. -/
structure Engaged (history : History) (run : Run) : Prop where
  looked : LookedWith history run
  uncleaned : Uncleaned history

theorem Engaged.query {query : Query} {answer : query.Answer} (engaged : Engaged history run)
    (other : query ≠ .cleanupRunFiles) :
    Engaged (⟨.query query, answer⟩ :: history) run where
  looked := engaged.looked.cons
  uncleaned reported mem := by
    rcases List.mem_cons.mp mem with same | old
    · cases same
      exact other rfl
    · exact engaged.uncleaned reported old

/-- The first look begins the work. -/
theorem engaged_of_firstLook (holds : held history = some run) (first : firstLook history = none)
    (uncleaned : Uncleaned history) :
    Engaged (⟨.query .memory, seen⟩ :: history) run where
  looked := ⟨seen, history, List.suffix_refl _, first, holds⟩
  uncleaned answer mem := by
    rcases List.mem_cons.mp mem with same | old
    · cases same
    · exact uncleaned answer old

/-- The files of a Run are removed after its end or in a shutdown, and arguments are not asked
for. -/
def Query.Permitted : Query → History → Prop
  | .cleanupRunFiles, history => Ended history ∨ Deleted history ∨ Draining history
  | .arguments, _ => False
  | _, _ => True

/-- The calls that a program may make. -/
def allowedCall (controller : Controller) (history : History) : Call → Prop
  | .updateStatus run thereafter =>
    ∃ base, held history = some base ∧ StatusWrite controller history base run thereafter
  | .update run => ∃ base, held history = some base ∧ run.resourceVersion = base.resourceVersion
  | .updateLogged _ => Draining history
  | .listRuns podName => podName = controller.podName
  | .execute attempt =>
    (∃ handle, (⟨.query .arguments, .startExecution handle attempt⟩ : Exchange runtimed) ∈
      history) ∧ Uncleaned history ∧ ¬ Halted history ∧ handed history = []
  | .query query => query.Permitted history
  | .get => True

/-- The edits that a program may make on its own. -/
def allowedEdit (history : History) : Edit → Prop
  | .claim _ => ∃ seen older, history = ⟨.query .memory, seen⟩ :: older ∧ seen.active = none
  | .release => Ended history ∨ FoundNone history ∨ Deleted history ∨ Draining history
  | .setStarted _ started =>
    started = true ∧ ((∃ response older, history = ⟨.query .status, .response response⟩ :: older) ∨
        FoundNone history)
  | .beginExecutionStart handle attempt =>
    ∃ run, held history = some run ∧ run.status.phase = .running ∧
      inBackoff run = false ∧ attempt = run.status.attempt ∧ FoundEntry history handle ∧
      Engaged history run
  | _ => True

/-- The answers that a program relies on: an accepted update is applied to the object
that the program held. -/
def allowedAnswer (history : History) : Exchange runtimed → Prop
  | ⟨.updateStatus run _, answer⟩ =>
    ∀ stored, (answer : Except String Run) = .ok stored →
      ∃ base, held history = some base ∧ stored = storeStatus base run.status
  | ⟨.update run, answer⟩ =>
    ∀ stored, (answer : Except String Run) = .ok stored →
      ∃ base, held history = some base ∧ stored = storeMetadata base run.finalizers
  | _ => True

/-- The contract of the programs of runtimed. -/
def contract (controller : Controller) : Program.Contract runtimed where
  calls := allowedCall controller
  edits := allowedEdit
  answers := allowedAnswer

/-! ## The rules for the common commands -/

section Rules

variable {controller : Controller} {history : History}

@[simp]
theorem keeps_query (query : Query) {post : query.Answer → History → Prop} :
    (ask query).Keeps (contract controller) post history ↔
      query.Permitted history ∧ ∀ answer, post answer (⟨.query query, answer⟩ :: history) :=
  ⟨fun keeps => ⟨keeps.1, fun answer => keeps.2 answer trivial⟩,
    fun later => ⟨later.1, fun answer _ => later.2 answer⟩⟩

@[simp]
theorem keeps_getRun {post : Option Run → History → Prop} :
    getRun.Keeps (contract controller) post history ↔
      ∀ found : Option Run, post found (⟨.get, found⟩ :: history) :=
  ⟨fun keeps found => keeps.2 found trivial, fun later => ⟨trivial, fun found _ => later found⟩⟩

@[simp]
theorem keeps_listRuns {post : Option Run → History → Prop} :
    (listRuns controller.podName).Keeps (contract controller) post history ↔
      ∀ found : Option Run, post found (⟨.listRuns controller.podName, found⟩ :: history) :=
  ⟨fun keeps found => keeps.2 found trivial, fun later => ⟨rfl, fun found _ => later found⟩⟩

@[simp]
theorem keeps_execute (attempt : Int) {post : Option String → History → Prop} :
    (execute attempt).Keeps (contract controller) post history ↔
      ((∃ handle, (⟨.query .arguments, .startExecution handle attempt⟩ : Exchange runtimed) ∈
        history) ∧ Uncleaned history ∧ ¬ Halted history ∧ handed history = []) ∧
      ∀ answer : Option String, post answer (⟨.execute attempt, answer⟩ :: history) :=
  ⟨fun keeps => ⟨keeps.1, fun answer => keeps.2 answer trivial⟩,
    fun ⟨started, later⟩ => ⟨started, fun answer _ => later answer⟩⟩

@[simp]
theorem keeps_now {post : Time → History → Prop} :
    now.Keeps (contract controller) post history ↔
      ∀ time, post time (⟨.query .clock, time⟩ :: history) :=
  (keeps_query .clock).trans (iff_of_eq (true_and _))

@[simp]
theorem keeps_memory {post : Memory → History → Prop} :
    memory.Keeps (contract controller) post history ↔
      ∀ seen, post seen (⟨.query .memory, seen⟩ :: history) :=
  (keeps_query .memory).trans (iff_of_eq (true_and _))

@[simp]
theorem keeps_activeRun (handle : Nat) (run : Run) {post : ActiveRun → History → Prop} :
    (activeRun handle run).Keeps (contract controller) post history ↔
      ∀ seen : Memory, post (seen.object handle run) (⟨.query .memory, seen⟩ :: history) := by
  simp [activeRun]

@[simp]
theorem keeps_edit (edit : Edit) {post : Unit → History → Prop} :
    (amend edit).Keeps (contract controller) post history ↔
      allowedEdit history edit ∧ post () history :=
  Iff.rfl

@[simp]
theorem keeps_updateStatus (run : Run) (thereafter : List Edit)
    {post : Except String Run → History → Prop} :
    (updateStatus run thereafter).Keeps (contract controller) post history ↔
      (∃ base, held history = some base ∧ StatusWrite controller history base run thereafter) ∧
      ∀ answer : Except String Run, (∀ stored, answer = .ok stored →
          ∃ base, held history = some base ∧ stored = storeStatus base run.status) →
        post answer (⟨.updateStatus run thereafter, answer⟩ :: history) :=
  Iff.rfl

@[simp]
theorem keeps_updateMetadata (run : Run) {post : Except String Run → History → Prop} :
    (updateMetadata run).Keeps (contract controller) post history ↔
      (∃ base, held history = some base ∧ run.resourceVersion = base.resourceVersion) ∧
      ∀ answer : Except String Run, (∀ stored, answer = .ok stored →
          ∃ base, held history = some base ∧ stored = storeMetadata base run.finalizers) →
        post answer (⟨.update run, answer⟩ :: history) :=
  Iff.rfl

@[simp]
theorem keeps_updateLogged (run : Run) {post : Option String → History → Prop} :
    (updateLogged run).Keeps (contract controller) post history ↔
      Draining history ∧ ∀ answer, post answer (⟨.updateLogged run, answer⟩ :: history) := by
  constructor
  · rintro ⟨draining, posts⟩
    exact ⟨draining, fun answer => posts answer trivial⟩
  · rintro ⟨draining, posts⟩
    exact ⟨draining, fun answer _ => posts answer⟩

end Rules

end Kruntimes.Runtimed
