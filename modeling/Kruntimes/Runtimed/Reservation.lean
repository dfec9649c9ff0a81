import Kruntimes.Runtimed.Controller

/-!
# How long a Session or Function may hold its Pod

What one `Reconcile` of a Session or Function does at a given time, for a given local memory
and given answers about the registration and the lease.  `TakesTimeout` says that it ends the
reservation: it closes or unregisters, and stores the outcome or tries again.
-/

namespace Kruntimes.Runtimed

open Api Transition
open Program (keeps_bind)

/-! ## The timeout path -/

/-- What a `Reconcile` finds: the copy it reads, the memory, the time, and what it is told
about the registration and the lease. -/
structure Situation where
  run : Run
  seen : Memory
  now : Time
  polled : Polled FunctionStatusResponse
  lease : Option Time

/-- What the memory may have become since it was seen: the entry and its deadline stay, and
a registration in flight may have finished. -/
structure AgreesWith (run : Run) (seen memory : Memory) : Prop where
  active : memory.active = seen.active
  deadline : ∀ handle, (memory.object handle run).deadline = (seen.object handle run).deadline
  registering : ∀ handle, (memory.object handle run).functionRegistering = true →
    (seen.object handle run).functionRegistering = true
  registration : ∀ handle registration,
    (seen.object handle run).functionRegistrationRef = some registration →
      (memory.object handle run).functionRegistrationRef = some registration

theorem AgreesWith.refl (run : Run) (seen : Memory) : AgreesWith run seen seen :=
  ⟨rfl, fun _ => rfl, fun _ same => same, fun _ _ same => same⟩

/-- The registration of a Function is still in flight, so that it cannot be removed yet. -/
def Situation.isBlocked (situation : Situation) : Bool :=
  situation.run.spec.mode.session.isNone && situation.seen.active.any fun handle =>
    (situation.seen.object handle situation.run).functionRegistering

/-- The calls on the timeout path: reads, the removal of the registration, and the outcome.
A Run that is to be terminated at once is Cancelled. -/
def Situation.permits (situation : Situation) : Call → Prop
  | .get | .listRuns _ => True
  | .updateStatus written _ =>
    written.status.phase = .timeout ∨ (situation.run.spec.hasImmediateTermination = true ∧
        written.status.phase = .cancelled)
  | .query query =>
    match query with
    | .registerSession _ | .prepareExecution => False
    | _ => True
  | _ => False

/-- The edit starts a registration. -/
def registers : Edit → Bool
  | .beginSessionRegistration _ | .beginFunctionRegistration _ => true
  | _ => false

/-- The answers in the situation. -/
def Situation.answers (situation : Situation) : Exchange runtimed → Prop
  | ⟨.get, found⟩ => (found : Option Run) = some situation.run
  | ⟨.query query, answer⟩ =>
    match query, answer with
    | .clock, time => situation.now ≤ (time : Time)
    | .memory, memory => AgreesWith situation.run situation.seen memory
    | .functionStatus _, polled => polled = situation.polled
    | .leaseDeadline _, lease => lease = situation.lease
    | _, _ => True
  | _ => True

/-- Only calls on the timeout path, and no new registration. -/
def Situation.contract (situation : Situation) : Program.Contract runtimed where
  calls _ := situation.permits
  edits _ edit := registers edit = false
  answers _ := situation.answers

/-- The call stores a status. -/
def stores : Call → Bool
  | .updateStatus _ _ => true
  | _ => false

/-- The outcome was handed to the API server, or a cleanup that did not succeed is tried
again. -/
def Situation.Ended (situation : Situation) (result : Result) (history : History) : Prop :=
  (∃ exchange ∈ history, stores exchange.1 = true) ∨ (result = .requeue second ∧
      ((∃ exchange ∈ history, cleansUp exchange.1 = true) ∨ situation.isBlocked = true))

/-- `Reconcile` takes the timeout path, whatever else it is answered. -/
def Situation.TakesTimeout (situation : Situation) (controller : Controller) : Prop :=
  (reconcile controller).Keeps situation.contract situation.Ended []

/-! ## Rules -/

section Rules

variable {situation : Situation} {history : History}

@[simp]
theorem reserves_query (query : Query) {post : query.Answer → History → Prop} :
    (ask query).Keeps situation.contract post history ↔
      situation.permits (.query query) ∧ ∀ answer : query.Answer,
        situation.answers ⟨.query query, answer⟩ →
          post answer (⟨.query query, answer⟩ :: history) :=
  Iff.rfl

@[simp]
theorem reserves_now {post : Time → History → Prop} :
    now.Keeps situation.contract post history ↔
      ∀ time : Time, situation.now ≤ time → post time (⟨.query .clock, time⟩ :: history) :=
  ⟨fun keeps => keeps.2, fun later => ⟨trivial, later⟩⟩

@[simp]
theorem reserves_memory {post : Memory → History → Prop} :
    memory.Keeps situation.contract post history ↔
      ∀ memory : Memory, AgreesWith situation.run situation.seen memory →
        post memory (⟨.query .memory, memory⟩ :: history) :=
  ⟨fun keeps => keeps.2, fun later => ⟨trivial, later⟩⟩

@[simp]
theorem reserves_activeRun (handle : Nat) (run : Run) {post : ActiveRun → History → Prop} :
    (activeRun handle run).Keeps situation.contract post history ↔
      ∀ memory : Memory, AgreesWith situation.run situation.seen memory →
        post (memory.object handle run) (⟨.query .memory, memory⟩ :: history) := by
  simp [activeRun]

@[simp]
theorem reserves_edit (edit : Edit) {post : Unit → History → Prop} :
    (amend edit).Keeps situation.contract post history ↔ registers edit = false ∧ post () history :=
  Iff.rfl

@[simp]
theorem reserves_updateStatus (run : Run) (thereafter : List Edit)
    {post : Except String Run → History → Prop} :
    (updateStatus run thereafter).Keeps situation.contract post history ↔
      (run.status.phase = .timeout ∨
        (situation.run.spec.hasImmediateTermination = true ∧ run.status.phase = .cancelled)) ∧
      ∀ answer : Except String Run,
        post answer (⟨.updateStatus run thereafter, answer⟩ :: history) :=
  ⟨fun keeps => ⟨keeps.1, fun answer => keeps.2 answer trivial⟩,
    fun later => ⟨later.1, fun answer _ => later.2 answer⟩⟩

@[simp]
theorem reserves_getRun {post : Option Run → History → Prop} :
    getRun.Keeps situation.contract post history ↔
      post (some situation.run) (⟨.get, some situation.run⟩ :: history) := by
  constructor
  · intro keeps
    exact keeps.2 _ rfl
  · intro found
    refine ⟨trivial, fun answer given => ?_⟩
    cases (given : answer = some situation.run)
    exact found

end Rules

/-! ## Removing the registration -/

theorem removing_situation (situation : Situation) : Removing situation.contract where
  memory _ := trivial
  forget _ := trivial
  query _ query _ := by cases query <;> trivial
  edits _ _ := ⟨rfl, rfl, rfl, fun _ => rfl⟩

section Removal

variable {situation : Situation} {history : History} {handle : Nat} {run : Run}

/-- Cleanup after the outcome is stored stays on the timeout path, whatever it works on. -/
theorem reserves_cleanup :
    (cleanup handle run).Keeps situation.contract (fun _ _ => True) history := by
  rw [cleanup, keeps_bind]
  apply (removes_releaseRuntimeServerState (removing_situation situation)).weaken
  intro failure later _ _
  unfold releaseLocalRunState
  split
  · exact trivial
  · exact ⟨rfl, trivial, fun _ _ => trivial⟩

end Removal

/-! ## Storing the outcome -/

section Outcome

variable {situation : Situation} {history : History} {handle : Nat} {run : Run}
  {phase : RunPhase} {reason message : String}

/-- The outcomes of the timeout path. -/
def Situation.ends (situation : Situation) (phase : RunPhase) : Prop :=
  phase = .timeout ∨ (situation.run.spec.hasImmediateTermination = true ∧ phase = .cancelled)

theorem reserves_applyTerminal (ends : situation.ends phase) :
    (applyTerminal handle run phase reason message).Keeps situation.contract situation.Ended
      history := by
  simp only [applyTerminal, keeps_bind, reserves_now, reserves_updateStatus]
  intro time _
  refine ⟨ends, fun answer => ?_⟩
  have stored : ∀ later, ⟨.updateStatus (terminalStatus run phase reason message time) [],
      answer⟩ :: ⟨.query .clock, time⟩ :: history <:+ later →
      ∃ exchange ∈ later, stores exchange.1 = true :=
    fun later longer => ⟨_, longer.subset (.head _), rfl⟩
  cases answer with
  | error => exact .inl (stored _ (List.suffix_refl _))
  | ok =>
    rw [keeps_bind]
    apply reserves_cleanup.weaken
    intro _ later longer _
    exact .inl (stored later longer)

theorem reserves_closeSessionAndApplyTerminal (ends : situation.ends phase)
    (identified : ∀ message, sessionIdentityForRun run ≠ .error message) :
    (closeSessionAndApplyTerminal handle run phase reason message).Keeps situation.contract
      situation.Ended history := by
  rw [closeSessionAndApplyTerminal, keeps_bind]
  apply (removes_ensureActiveSessionClosed (removing_situation situation) identified).weaken
  rintro failure later _ ⟨_, trying⟩
  cases failure with
  | some => exact .inr ⟨rfl, .inl ((trying rfl).resolve_right id)⟩
  | none => exact reserves_applyTerminal ends

theorem reserves_closeFunctionAndApplyTerminal (ends : situation.ends phase)
    (entry : situation.seen.active = some handle)
    (mode : situation.run.spec.mode.session = none) :
    (closeFunctionAndApplyTerminal handle situation.run phase reason message).Keeps
      situation.contract situation.Ended history := by
  rw [closeFunctionAndApplyTerminal, keeps_bind]
  have excused : ∀ memory, AgreesWith situation.run situation.seen memory →
      (memory.object handle situation.run).functionRegistering = true →
        situation.isBlocked = true := by
    intro memory agrees registering
    simp [Situation.isBlocked, mode, entry, agrees.registering handle registering]
  apply (removes_ensureActiveFunctionClosed (removing_situation situation) excused).weaken
  rintro failure later _ ⟨_, trying⟩
  cases failure with
  | some => exact .inr ⟨rfl, trying rfl⟩
  | none => exact reserves_applyTerminal ends

end Outcome

/-! ## When the timeout path is taken -/

namespace Situation

variable (situation : Situation)

/-- The entry's deadline has come. -/
def isDue (handle : Nat) : Bool :=
  (situation.seen.object handle situation.run).isDue situation.now

/-- The lease of a Session is over. -/
def leaseOver : Bool :=
  (leaseTimeout situation.run).isSome &&
    situation.lease.any fun deadline => decide (deadline ≤ situation.now)

/-- A Function was idle for too long. -/
def idleOver (response : FunctionStatusResponse) : Bool :=
  (situation.run.spec.mode.function.bind RunFunctionMode.idleTimeoutSeconds).any fun seconds =>
    decide (0 < response.lastActivityUnixNano) &&
      decide (response.lastActivityUnixNano + seconds * second ≤ situation.now)

/-- A Session looks at its deadline while it is Ready and not asked to drain, and while it is
Finalizing; never while it is Running. -/
def endsSession (handle : Nat) : Bool :=
  situation.run.spec.hasImmediateTermination || match situation.run.status.phase with
    | .ready =>
      !situation.run.spec.hasDrainTermination && (situation.isDue handle || situation.leaseOver)
    | .finalizing => situation.isDue handle
    | _ => false

/-- The remembered registration is answered to be ready, and its time is over. -/
def endsRegistered (handle : Nat) : Bool :=
  match (situation.seen.object handle situation.run).functionRegistrationRef, situation.polled with
  | some registration, .response response =>
    !isMismatched situation.run registration response && response.state == .ready &&
      (situation.isDue handle || situation.idleOver response)
  | _, _ => false

/-- A Function looks at its deadline while it is Running, and while its registration is
answered to be ready. -/
def endsFunction (handle : Nat) : Bool :=
  situation.run.status.phase != .finalizing && (situation.run.spec.hasImmediateTermination ||
      (situation.run.status.phase == .running && situation.isDue handle) ||
      (!(situation.run.status.phase == .running && inBackoff situation.run) &&
        situation.endsRegistered handle))

/-- The Run has a local entry, and its branch of `Reconcile` looks at the time. -/
def endsInTime : Bool :=
  !situation.run.deleting && situation.seen.active.any fun handle =>
    if situation.run.spec.mode.session.isSome then situation.endsSession handle
    else situation.endsFunction handle

end Situation

/-- A Session or Function that was claimed and has not ended. -/
structure Reserved (run : Run) : Prop where
  phase : run.status.phase = .running ∨ run.status.phase = .ready ∨ run.status.phase = .finalizing
  mode : run.spec.mode.session.isSome = true ∨ run.spec.mode.function.isSome = true
  uid : run.uid ≠ ""
  assignedPodUID : run.status.assignedPodUID ≠ ""

theorem Reserved.identity {run : Run} (reserved : Reserved run)
    (mode : run.spec.mode.session.isSome = true) :
    sessionIdentityForRun run =
      .ok { runUid := run.uid, assignedPodUid := run.status.assignedPodUID } := by
  have session : run.spec.mode.session.isNone = false := by simpa using mode
  simp [sessionIdentityForRun, reserved.uid, reserved.assignedPodUID, session]

theorem Reserved.identified {run : Run} (reserved : Reserved run)
    (mode : run.spec.mode.session.isSome = true) (message : String) :
    sessionIdentityForRun run ≠ .error message := by
  rw [reserved.identity mode]
  exact nofun

/-- A deadline that has come stays so. -/
theorem isDue_of_le {situation : Situation} {memory : Memory} {handle : Nat} {time : Time}
    (due : situation.isDue handle = true) (later : situation.now ≤ time)
    (agrees : AgreesWith situation.run situation.seen memory) :
    (memory.object handle situation.run).isDue time = true := by
  rw [Situation.isDue, ActiveRun.isDue, Option.any_eq_true] at due
  obtain ⟨_, set, past⟩ := due
  rw [ActiveRun.isDue, agrees.deadline, set]
  exact decide_eq_true ((of_decide_eq_true past).trans later)

/-! ## Where it is taken -/

section Taken

variable {situation : Situation} {controller : Controller} {history : History} {handle : Nat}

section Sessions

variable (reserved : Reserved situation.run)
  (mode : situation.run.spec.mode.session.isSome = true)
  (entry : situation.seen.active = some handle)

include reserved mode entry

theorem reserves_reconcileFinalizing (phase : situation.run.status.phase = .finalizing)
    (ends : situation.endsSession handle = true) :
    (reconcileFinalizing controller situation.run).Keeps situation.contract situation.Ended
      history := by
  have session : situation.run.spec.mode.session.isNone = false := by simpa using mode
  simp only [reconcileFinalizing, session, Bool.false_eq_true, if_false, keeps_bind,
    reserves_memory]
  intro memory agrees
  simp only [agrees.active, entry, keeps_bind, reserves_edit]
  refine ⟨rfl, ?_⟩
  split
  case isTrue immediate =>
    exact reserves_closeSessionAndApplyTerminal (.inr ⟨immediate, rfl⟩) (reserved.identified mode)
  case isFalse immediate =>
    have due : situation.isDue handle = true := by
      simpa [Situation.endsSession, immediate, phase] using ends
    simp only [keeps_bind, reserves_now, reserves_activeRun]
    intro time later looked same
    rw [if_pos (isDue_of_le due later same)]
    exact reserves_closeSessionAndApplyTerminal (.inl rfl) (reserved.identified mode)

theorem reserves_reconcileReadySession (phase : situation.run.status.phase = .ready)
    (ends : situation.endsSession handle = true) :
    (reconcileReadySession controller situation.run).Keeps situation.contract situation.Ended
      history := by
  simp only [reconcileReadySession, keeps_bind, reserves_memory]
  intro memory agrees
  simp only [agrees.active, entry, keeps_bind, reserves_edit]
  refine ⟨rfl, ?_⟩
  split
  case isTrue immediate =>
    exact reserves_closeSessionAndApplyTerminal (.inr ⟨immediate, rfl⟩) (reserved.identified mode)
  case isFalse immediate =>
    have expired : situation.run.spec.hasDrainTermination = false ∧
        (situation.isDue handle = true ∨ situation.leaseOver = true) := by
      simpa [Situation.endsSession, immediate, phase] using ends
    simp only [expired.1, Bool.false_eq_true, if_false, keeps_bind, reserves_now,
      reserves_activeRun]
    intro time later looked same
    split
    · exact reserves_closeSessionAndApplyTerminal (.inl rfl) (reserved.identified mode)
    case isFalse early =>
      -- not due at the time that was read, so that the lease is what is over
      have lease : situation.leaseOver = true :=
        expired.2.resolve_left fun due => early (isDue_of_le due later same)
      rw [Situation.leaseOver, Bool.and_eq_true_iff, Option.any_eq_true] at lease
      obtain ⟨limited, deadline, answered, past⟩ := lease
      obtain ⟨_, set⟩ := Option.isSome_iff_exists.mp limited
      rw [keeps_bind, sessionLeaseDeadline, set]
      refine ⟨trivial, fun answer given => ?_⟩
      rw [show answer = some deadline from (show answer = situation.lease from given).trans
        answered]
      change Program.Keeps _ _ (if deadline ≤ time then _ else _) _
      rw [if_pos ((of_decide_eq_true past).trans later)]
      exact reserves_closeSessionAndApplyTerminal (.inl rfl) (reserved.identified mode)

end Sessions

section Functions

variable (mode : situation.run.spec.mode.session = none)
  (entry : situation.seen.active = some handle)

include mode entry

theorem reserves_reconcileFunctionRegistration (ends : situation.endsRegistered handle = true) :
    (reconcileFunctionRegistration controller handle situation.run).Keeps situation.contract
      situation.Ended history := by
  unfold Situation.endsRegistered at ends
  split at ends
  case h_2 => contradiction
  case h_1 registration response remembered answered =>
    simp only [Bool.and_eq_true_iff, Bool.not_eq_true', beq_iff_eq, Bool.or_eq_true_iff] at ends
    obtain ⟨⟨matched, ready⟩, expired⟩ := ends
    simp only [reconcileFunctionRegistration, keeps_bind, reserves_activeRun]
    intro memory agrees
    rw [agrees.registration handle registration remembered]
    simp only [reconcileRegisteredFunction, keeps_bind, reserves_query]
    refine ⟨trivial, fun polled given => ?_⟩
    rw [show polled = .response response from
      (show polled = situation.polled from given).trans answered]
    simp only [matched, ready, Bool.false_eq_true, if_false, reconcileFunctionReadyStatus,
      keeps_bind, reserves_now, reserves_activeRun]
    intro time later looked same
    split
    · exact reserves_closeFunctionAndApplyTerminal (.inl rfl) entry mode
    case isFalse early =>
      have idle : situation.idleOver response = true :=
        expired.resolve_left fun due => early (isDue_of_le due later same)
      rw [Situation.idleOver, Option.any_eq_true] at idle
      obtain ⟨_, limited, past⟩ := idle
      rw [Bool.and_eq_true_iff, decide_eq_true_iff, decide_eq_true_iff] at past
      rw [limited]
      dsimp only
      rw [if_neg (not_le.mpr past.1), if_pos (past.2.trans later)]
      exact reserves_closeFunctionAndApplyTerminal (.inl rfl) entry mode

theorem reserves_reconcileReadyFunction (phase : situation.run.status.phase = .ready)
    (ends : situation.endsFunction handle = true) :
    (reconcileReadyFunction controller situation.run).Keeps situation.contract
      situation.Ended history := by
  simp only [reconcileReadyFunction, keeps_bind, reserves_memory]
  intro memory agrees
  simp only [agrees.active, entry, keeps_bind, reserves_edit]
  refine ⟨rfl, ?_⟩
  split
  case isTrue immediate =>
    exact reserves_closeFunctionAndApplyTerminal (.inr ⟨immediate, rfl⟩) entry mode
  case isFalse immediate =>
    apply reserves_reconcileFunctionRegistration mode entry
    simpa [Situation.endsFunction, immediate, phase] using ends

theorem reserves_reconcileRunningFunction (phase : situation.run.status.phase = .running)
    (ends : situation.endsFunction handle = true) :
    (reconcileRunningFunction controller situation.run).Keeps situation.contract
      situation.Ended history := by
  simp only [reconcileRunningFunction, keeps_bind, reserves_memory]
  intro memory agrees
  simp only [agrees.active, entry, keeps_bind, reserves_edit]
  refine ⟨rfl, ?_⟩
  split
  case isTrue immediate =>
    exact reserves_closeFunctionAndApplyTerminal (.inr ⟨immediate, rfl⟩) entry mode
  case isFalse immediate =>
    have expired : situation.isDue handle = true ∨
        (inBackoff situation.run = false ∧ situation.endsRegistered handle = true) := by
      simpa [Situation.endsFunction, immediate, phase] using ends
    simp only [keeps_bind, reserves_now, reserves_activeRun]
    intro time later looked same
    split
    · exact reserves_closeFunctionAndApplyTerminal (.inl rfl) entry mode
    case isFalse early =>
      obtain ⟨awake, registered⟩ :=
        expired.resolve_left fun due => early (isDue_of_le due later same)
      rw [awake, if_neg Bool.false_ne_true]
      exact reserves_reconcileFunctionRegistration mode entry registered

end Functions

end Taken

end Kruntimes.Runtimed
