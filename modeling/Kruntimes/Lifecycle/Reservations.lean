import Kruntimes.Lifecycle.System
import Kruntimes.Runtimed.Reservation

/-!
# Reservations that outlive their timeout

The branches of `Reconcile` that do not look at the time, and the exact condition under which
a Session or Function is ended.
-/

namespace Kruntimes.Runtimed

open Api Transition
open Program (keeps_bind keeps_pure)

/-! ## Where it is not taken -/

/-- Every run of the program ends the reserved Run. -/
abbrev Situation.Reserves (situation : Situation) (program : Process Result) (history : History) :=
  program.Keeps situation.contract situation.Ended history

/-- So far nothing was stored and no removal was tried. -/
def Passive (history : History) : Prop :=
  ∀ exchange ∈ history, stores exchange.1 = false ∧ cleansUp exchange.1 = false

theorem Passive.cons {history : History} (passive : Passive history)
    (exchange : Exchange runtimed) (stored : stores exchange.1 = false)
    (cleans : cleansUp exchange.1 = false) : Passive (exchange :: history) := by
  rintro other (_ | ⟨_, mem⟩)
  · exact ⟨stored, cleans⟩
  · exact passive other mem

/-- `activeRunRequeueAfter` is at most the relist interval. -/
theorem activeRunRequeueAfter_lt_second (object : ActiveRun) (time : Time) :
    activeRunRequeueAfter object time < second := by
  have relist : defaultRelistInterval < second := by decide
  unfold activeRunRequeueAfter
  split
  · exact relist
  split
  · decide
  split
  next short =>
    exact short.trans relist
  · exact relist

/-- From exchanges that stored and removed nothing the program can end without an outcome. -/
def Situation.Misses (situation : Situation) (program : Process Result) : Prop :=
  ∀ history, Passive history → ¬ situation.Reserves program history

section Missed

variable {situation : Situation} {controller : Controller} {history : History} {handle : Nat}

/-! ### Rules -/

theorem misses_pure {result : Result} (other : result = .requeue second →
    situation.isBlocked = false) : situation.Misses (pure result) := by
  rintro _ passive (⟨exchange, mem, stored⟩ | ⟨waits, ⟨exchange, mem, cleans⟩ | blocked⟩)
  · rw [(passive exchange mem).1] at stored
    contradiction
  · rw [(passive exchange mem).2] at cleans
    contradiction
  · rw [other waits] at blocked
    contradiction

/-- A requeue of less than a second is not the retry of a cleanup. -/
theorem misses_requeue {delay : Duration} (short : delay < second) :
    situation.Misses (pure (.requeue delay)) := by
  apply misses_pure
  intro waits
  have same : delay = second := by simpa [Result.requeue] using waits
  exact absurd short (same ▸ lt_irrefl second)

section Steps

variable {α β : Type} {time : Time} {memory : Memory}

/-- It is enough that one of the possible answers leads there. -/
theorem misses_query (query : Query) {rest : query.Answer → Process Result} (answer : query.Answer)
    (given : situation.answers ⟨.query query, answer⟩) (cleans : cleansUp (.query query) = false)
    (missed : situation.Misses (rest answer)) : situation.Misses (ask query >>= rest) := by
  intro history passive keeps
  rw [Situation.Reserves, keeps_bind, reserves_query] at keeps
  exact missed _ (passive.cons _ rfl cleans) (keeps.2 answer given)

theorem misses_now {rest : Time → Process Result} (later : situation.now ≤ time)
    (missed : situation.Misses (rest time)) : situation.Misses (now >>= rest) :=
  misses_query .clock time later rfl missed

theorem misses_memory {rest : Memory → Process Result}
    (agrees : AgreesWith situation.run situation.seen memory)
    (missed : situation.Misses (rest memory)) : situation.Misses (Runtimed.memory >>= rest) :=
  misses_query .memory memory agrees rfl missed

theorem misses_edit {edit : Edit} {rest : Unit → Process Result}
    (missed : situation.Misses (rest ())) : situation.Misses (amend edit >>= rest) := by
  intro history passive keeps
  rw [Situation.Reserves, keeps_bind, reserves_edit] at keeps
  exact missed _ passive keeps.2

theorem misses_updateStatus {run : Run} {thereafter : List Edit}
    {rest : Except String Run → Process Result} (other : ¬ situation.ends run.status.phase) :
    situation.Misses (updateStatus run thereafter >>= rest) := by
  intro history _ keeps
  rw [Situation.Reserves, keeps_bind, reserves_updateStatus] at keeps
  exact other keeps.1

theorem misses_assoc {program : Process α} {next : α → Process β} {rest : β → Process Result}
    (missed : situation.Misses (program >>= fun value => next value >>= rest)) :
    situation.Misses (program >>= next >>= rest) := by
  simpa only [Situation.Misses, Situation.Reserves, keeps_bind] using missed

theorem misses_activeRun {run : Run} {rest : ActiveRun → Process Result}
    (agrees : AgreesWith situation.run situation.seen memory)
    (missed : situation.Misses (rest (memory.object handle run))) :
    situation.Misses (activeRun handle run >>= rest) :=
  misses_assoc (misses_memory agrees missed)

end Steps

/-! ### Sessions -/

theorem isBlocked_of_session (mode : situation.run.spec.mode.session.isSome = true) :
    situation.isBlocked = false := by
  have session : situation.run.spec.mode.session.isNone = false := by simpa using mode
  simp [Situation.isBlocked, session]

/-- The phase of a reserved Run is not an outcome of the timeout path. -/
theorem Reserved.not_ends {run : Run} (reserved : Reserved run) (situation : Situation) :
    ¬ situation.ends run.status.phase := by
  rintro (outcome | ⟨_, outcome⟩) <;> rcases reserved.phase with phase | phase | phase <;>
    rw [phase] at outcome <;> contradiction

/-- A failure is stored as a retry or as Failed. -/
theorem misses_applyFailure {reason message : String} {rest : Result → Process Result}
    (reserved : Reserved situation.run) (other : reason ≠ reasonTimeout) :
    situation.Misses (applyFailure handle situation.run reason message >>= rest) := by
  unfold applyFailure
  split
  · refine misses_assoc (misses_now le_rfl (misses_assoc (misses_updateStatus ?_)))
    exact reserved.not_ends situation
  · refine misses_assoc (misses_now le_rfl (misses_assoc (misses_updateStatus ?_)))
    rw [terminalPhaseForFailure, if_neg other]
    rintro (outcome | ⟨_, outcome⟩) <;> cases outcome

theorem misses_applyFunctionRegistrationFailure {message : String}
    (reserved : Reserved situation.run) : situation.Misses
      (applyFunctionRegistrationFailure handle situation.run reasonRuntimeExecute message) :=
  misses_applyFailure reserved (by decide)

theorem misses_keepObserving (run : Run) : situation.Misses (keepObserving handle run) :=
  misses_activeRun (.refl _ _) (misses_now le_rfl
    (misses_requeue (activeRunRequeueAfter_lt_second _ _)))

/-- The end of a backoff is stored with the phase as it was. -/
theorem misses_reconcileRetryBackoff (reserved : Reserved situation.run) :
    situation.Misses (reconcileRetryBackoff controller handle situation.run) := by
  unfold reconcileRetryBackoff
  split
  · exact misses_pure nofun
  -- the clock may be read after the end of the backoff
  · apply misses_now (le_max_left _ _)
    rw [if_neg (not_lt.mpr (le_max_right _ _))]
    apply misses_now le_rfl
    apply misses_updateStatus
    have same : (retryingStatus situation.run situation.now).status.phase =
        situation.run.status.phase := by
      unfold retryingStatus
      dsimp only
      split <;> rfl
    rw [same]
    exact reserved.not_ends situation

/-- A Session without an entry is recovered, whatever the time. -/
theorem misses_reconcileSessionRecovery (reserved : Reserved situation.run)
    (mode : situation.run.spec.mode.session.isSome = true) :
    situation.Misses (reconcileSessionRecovery controller situation.run) := by
  rw [reconcileSessionRecovery, reserved.identity mode]
  apply misses_assoc
  apply misses_memory (.refl _ _)
  apply misses_assoc
  apply misses_edit
  apply misses_query (.sessionStatus _) (Polled.unavailable "") trivial rfl
  exact misses_pure nofun

theorem misses_beginSessionFinalization (mode : situation.run.spec.mode.session.isSome = true)
    (phase : situation.run.status.phase = .running ∨ situation.run.status.phase = .ready) :
    situation.Misses (beginSessionFinalization situation.run) := by
  have session : situation.run.spec.mode.session.isNone = false := by simpa using mode
  have known : ¬ (situation.run.status.phase ≠ .running ∧ situation.run.status.phase ≠ .ready) := by
    rintro ⟨running, ready⟩
    exact phase.elim running ready
  rw [beginSessionFinalization, session, if_neg Bool.false_ne_true, if_neg known]
  apply misses_now le_rfl
  apply misses_updateStatus
  rintro (outcome | ⟨_, outcome⟩) <;> cases outcome

section Sessions

variable (reserved : Reserved situation.run)
  (mode : situation.run.spec.mode.session.isSome = true)

include reserved mode

/-- A Running Session never looks at its deadline. -/
theorem misses_reconcileRunningSession (phase : situation.run.status.phase = .running)
    (continues : ∀ handle, situation.seen.active = some handle →
      situation.run.spec.hasImmediateTermination = false) :
    situation.Misses (reconcileRunningSession controller situation.run) := by
  apply misses_memory (.refl _ _)
  cases entry : situation.seen.active with
  | none => exact misses_reconcileSessionRecovery reserved mode
  | some handle =>
    apply misses_edit
    rw [continues handle entry, if_neg Bool.false_ne_true]
    split
    · exact misses_beginSessionFinalization mode (.inl phase)
    split
    · exact misses_reconcileRetryBackoff reserved
    rw [reconcileSessionRegistration, reserved.identity mode]
    apply misses_query (.sessionStatus _) (Polled.unavailable "") trivial rfl
    exact misses_pure nofun

/-- A Ready Session that is not over waits. -/
theorem misses_reconcileReadySession (phase : situation.run.status.phase = .ready)
    (missed : ∀ handle, situation.seen.active = some handle →
      situation.endsSession handle = false) :
    situation.Misses (reconcileReadySession controller situation.run) := by
  have unblocked : ∀ result : Result, situation.Misses (pure result) :=
    fun _ => misses_pure fun _ => isBlocked_of_session mode
  apply misses_memory (.refl _ _)
  cases entry : situation.seen.active with
  | none => exact misses_reconcileSessionRecovery reserved mode
  | some handle =>
    have missed := missed handle entry
    simp only [Situation.endsSession, phase, Bool.or_eq_false_iff] at missed
    apply misses_edit
    rw [missed.1, if_neg Bool.false_ne_true]
    split
    · exact misses_beginSessionFinalization mode (.inr phase)
    case isFalse staying =>
      have early : situation.isDue handle = false ∧ situation.leaseOver = false := by
        simpa [staying] using missed.2
      apply misses_now le_rfl
      apply misses_activeRun (.refl _ _)
      rw [show (situation.seen.object handle situation.run).isDue situation.now = false
        from early.1, if_neg Bool.false_ne_true, sessionLeaseDeadline]
      cases limited : leaseTimeout situation.run with
      | none => exact unblocked _
      | some timeout =>
        apply misses_query (.leaseDeadline _) situation.lease rfl rfl
        cases lease : situation.lease with
        | none => exact unblocked _
        | some deadline =>
          have running : ¬ deadline ≤ situation.now := by
            simpa [Situation.leaseOver, limited, lease] using early.2
          dsimp only
          rw [if_neg running]
          exact unblocked _

end Sessions

/-- A Finalizing Session that is not over waits for its operations. -/
theorem misses_reconcileFinalizing (reserved : Reserved situation.run)
    (phase : situation.run.status.phase = .finalizing)
    (missed : situation.run.spec.mode.session.isSome = true → ∀ handle,
      situation.seen.active = some handle → situation.endsSession handle = false) :
    situation.Misses (reconcileFinalizing controller situation.run) := by
  unfold reconcileFinalizing
  split
  · refine misses_assoc (misses_memory (.refl _ _) (misses_assoc (misses_edit
      (misses_now le_rfl (misses_updateStatus ?_)))))
    rintro (outcome | ⟨_, outcome⟩) <;> cases outcome
  case isFalse session =>
    have mode : situation.run.spec.mode.session.isSome = true := by
      simpa [Option.isSome_iff_ne_none] using session
    apply misses_memory (.refl _ _)
    cases entry : situation.seen.active with
    | none => exact misses_reconcileSessionRecovery reserved mode
    | some handle =>
      have missed := missed mode handle entry
      simp only [Situation.endsSession, phase, Bool.or_eq_false_iff] at missed
      apply misses_edit
      rw [missed.1, if_neg Bool.false_ne_true]
      apply misses_now le_rfl
      apply misses_activeRun (.refl _ _)
      rw [show (situation.seen.object handle situation.run).isDue situation.now = false
        from missed.2, if_neg Bool.false_ne_true]
      apply misses_query .drainOperations false trivial rfl
      exact misses_requeue (by decide)

/-! ### Functions -/

/-- The memory without a registration in one object. -/
def Memory.unregistered (memory : Memory) (handle : Nat) : Memory :=
  memory.modify handle fun object =>
    { object with functionRegistration := none, functionRegistering := false }

theorem agreesWith_unregistered {run : Run} {seen : Memory}
    (fresh : (seen.object handle run).functionRegistrationRef = none) :
    AgreesWith run seen (seen.unregistered handle) := by
  refine ⟨rfl, fun other => ?_, fun other => ?_, fun other registration remembered => ?_⟩ <;>
    rcases object_modify seen handle other run _ with same | ⟨rfl, changed⟩
  · exact congrArg ActiveRun.deadline same
  · exact (congrArg ActiveRun.deadline changed :)
  · exact fun registering => (congrArg ActiveRun.functionRegistering same) ▸ registering
  · intro registering
    cases (congrArg ActiveRun.functionRegistering changed).symm.trans registering
  · exact (congrArg ActiveRun.functionRegistrationRef same).trans remembered
  · cases fresh.symm.trans remembered

theorem object_unregistered (memory : Memory) (handle : Nat) (run : Run) :
    ((memory.unregistered handle).object handle run).functionRegistration = none ∧
      ((memory.unregistered handle).object handle run).functionRegistering = false := by
  simp only [Memory.unregistered, Memory.object, Memory.modify,
    List.getD_eq_getElem?_getD, List.getElem?_modify_eq]
  cases memory.objects[handle]? <;> exact ⟨rfl, rfl⟩

/-- Without a remembered registration the Function is registered. -/
theorem misses_unregistered
    (fresh : (situation.seen.object handle situation.run).functionRegistrationRef = none) :
    situation.Misses (reconcileFunctionRegistration controller handle situation.run) := by
  have agrees := agreesWith_unregistered fresh
  obtain ⟨none, idle⟩ := object_unregistered situation.seen handle situation.run
  apply misses_activeRun agrees
  rw [ActiveRun.functionRegistrationRef, none]
  apply misses_activeRun agrees
  rw [none]
  apply misses_activeRun agrees
  rw [idle, if_neg Bool.false_ne_true]
  apply misses_assoc
  apply misses_activeRun agrees
  rw [idle, if_neg Bool.false_ne_true]
  intro history _ keeps
  rw [Situation.Reserves, keeps_bind, reserves_edit] at keeps
  cases keeps.1

theorem misses_applyFunctionReady {delay : Duration} (short : delay < second) :
    situation.Misses (applyFunctionReady controller situation.run delay) := by
  unfold applyFunctionReady
  split
  · exact misses_pure nofun
  split
  · exact misses_requeue short
  apply misses_now le_rfl
  apply misses_updateStatus
  rintro (outcome | ⟨_, outcome⟩) <;> cases outcome

/-- A Function that is answered to be ready and is not over stays. -/
theorem misses_reconcileFunctionReadyStatus (reserved : Reserved situation.run)
    {response : FunctionStatusResponse} (early : situation.isDue handle = false)
    (busy : situation.idleOver response = false) : situation.Misses
      (reconcileFunctionReadyStatus controller handle situation.run response) := by
  have short := activeRunRequeueAfter_lt_second
    (situation.seen.object handle situation.run) situation.now
  apply misses_now le_rfl
  apply misses_activeRun (.refl _ _)
  rw [show (situation.seen.object handle situation.run).isDue situation.now = false from early,
    if_neg Bool.false_ne_true]
  split
  · exact misses_applyFunctionReady short
  case h_2 seconds limited =>
    dsimp only
    split
    · exact misses_applyFunctionRegistrationFailure reserved
    case isFalse active =>
      have used : ¬ response.lastActivityUnixNano + seconds * second ≤ situation.now := by
        simpa [Situation.idleOver, limited, not_le.mp active] using busy
      rw [if_neg used]
      exact misses_applyFunctionReady ((min_le_left _ _).trans_lt short)

theorem misses_reconcileFunctionRegistration (reserved : Reserved situation.run)
    (missed : situation.endsRegistered handle = false) :
    situation.Misses (reconcileFunctionRegistration controller handle situation.run) := by
  cases remembered : (situation.seen.object handle situation.run).functionRegistrationRef with
  | none => exact misses_unregistered remembered
  | some registration =>
    apply misses_activeRun (.refl _ _)
    rw [remembered]
    apply misses_query (.functionStatus _) situation.polled rfl rfl
    cases answered : situation.polled with
    | notFound => exact misses_applyFunctionRegistrationFailure reserved
    | unavailable => exact misses_pure nofun
    | response response =>
      dsimp only
      split
      · exact misses_applyFunctionRegistrationFailure reserved
      case isFalse matched =>
        cases state : response.state with
        | ready =>
          have early : situation.isDue handle = false ∧ situation.idleOver response = false := by
            simpa [Situation.endsRegistered, remembered, answered, matched, state] using missed
          exact misses_reconcileFunctionReadyStatus reserved early.1 early.2
        | registering => exact misses_keepObserving _
        | unspecified | draining | failed =>
          exact misses_applyFunctionRegistrationFailure reserved

/-- A Function without an entry is claimed again, whatever the time. -/
theorem misses_claimFunction (none : situation.seen.active = none) :
    situation.Misses (claimFunction controller situation.run) := by
  have unblocked : situation.isBlocked = false := by simp [Situation.isBlocked, none]
  have fresh : (situation.seen.object situation.seen.objects.length
      situation.run).functionRegistrationRef = Option.none := by
    simp [Memory.object, newActiveRun, ActiveRun.functionRegistrationRef]
  apply misses_assoc
  apply misses_memory (.refl _ _)
  apply misses_assoc
  apply misses_edit
  apply misses_assoc
  apply misses_memory (.refl _ _)
  split
  · exact misses_pure fun _ => unblocked
  dsimp only
  split
  · exact misses_pure fun _ => unblocked
  · exact misses_assoc (misses_edit (misses_unregistered fresh))

theorem misses_reconcileReadyFunction (reserved : Reserved situation.run)
    (phase : situation.run.status.phase = .ready)
    (missed : ∀ handle, situation.seen.active = some handle →
      situation.endsFunction handle = false) :
    situation.Misses (reconcileReadyFunction controller situation.run) := by
  apply misses_memory (.refl _ _)
  cases entry : situation.seen.active with
  | none => exact misses_claimFunction entry
  | some handle =>
    have misses : situation.run.spec.hasImmediateTermination = false ∧
        situation.endsRegistered handle = false := by
      simpa [Situation.endsFunction, phase] using missed handle entry
    apply misses_edit
    rw [misses.1, if_neg Bool.false_ne_true]
    exact misses_reconcileFunctionRegistration reserved misses.2

theorem misses_reconcileRunningFunction (reserved : Reserved situation.run)
    (phase : situation.run.status.phase = .running)
    (missed : ∀ handle, situation.seen.active = some handle →
      situation.endsFunction handle = false) :
    situation.Misses (reconcileRunningFunction controller situation.run) := by
  apply misses_memory (.refl _ _)
  cases entry : situation.seen.active with
  | none => exact misses_claimFunction entry
  | some handle =>
    have misses : (situation.run.spec.hasImmediateTermination = false ∧
        situation.isDue handle = false) ∧
        (inBackoff situation.run = false → situation.endsRegistered handle = false) := by
      simpa [Situation.endsFunction, phase] using missed handle entry
    obtain ⟨⟨continues, early⟩, unregistered⟩ := misses
    apply misses_edit
    rw [continues, if_neg Bool.false_ne_true]
    apply misses_now le_rfl
    apply misses_activeRun (.refl _ _)
    rw [show (situation.seen.object handle situation.run).isDue situation.now = false
      from early, if_neg Bool.false_ne_true]
    split
    · exact misses_reconcileRetryBackoff reserved
    case isFalse awake =>
      exact misses_reconcileFunctionRegistration reserved (unregistered (by simpa using awake))

/-! ### Deletion -/

/-- So far nothing was stored. -/
def Unstored (history : History) : Prop :=
  ∀ exchange ∈ history, stores exchange.1 = false

theorem Unstored.cons {history : History} (unstored : Unstored history)
    (exchange : Exchange runtimed) (stored : stores exchange.1 = false) :
    Unstored (exchange :: history) :=
  List.forall_mem_cons.mpr ⟨stored, unstored⟩

theorem not_ended_of_unstored {result : Result} (unstored : Unstored history)
    (other : result ≠ .requeue second) : ¬ situation.Ended result history := by
  rintro (⟨exchange, mem, stored⟩ | ⟨waits, _⟩)
  · rw [unstored exchange mem] at stored
    contradiction
  · exact other waits

section Unstored

variable (reserved : Reserved situation.run) (unstored : Unstored history)

include reserved unstored

theorem not_reserves_finishDeletion :
    ¬ situation.Reserves (finishDeletion situation.run) history := by
  simp only [finishDeletion, releaseLocalRunState, if_neg reserved.uid, keeps_bind,
    keeps_pure, reserves_edit, reserves_query]
  intro keeps
  have keeps := keeps.2.2 none trivial
  split at keeps
  · have other : Result.empty ≠ .requeue second := by simp [Result.empty, Result.requeue]
    exact not_ended_of_unstored (unstored.cons ⟨.query .cleanupRunFiles, none⟩ rfl) other keeps
  · exact keeps.1

/-- Removing the registration stores nothing, so that what follows it is reached. -/
theorem not_reserves_releaseRuntimeServerState {rest : Option String → Process Result}
    (stuck : ∀ failure later, Unstored later → ¬ situation.Reserves (rest failure) later) :
    ¬ situation.Reserves (releaseRuntimeServerState handle situation.run >>= rest) history := by
  have looked := unstored.cons ⟨.query .memory, situation.seen⟩ rfl
  rw [Situation.Reserves, keeps_bind, releaseRuntimeServerState]
  split
  case isTrue session =>
    simp only [ensureActiveSessionClosed, closeRuntimeSession, reserved.identity session,
      keeps_bind, reserves_activeRun]
    intro keeps
    have keeps := keeps situation.seen (.refl _ _)
    split at keeps
    · exact stuck none _ looked keeps
    · refine stuck (some _) _ ?_ (keeps.2 (some "") trivial)
      exact looked.cons _ rfl
  case isFalse session =>
    rw [if_pos (reserved.mode.resolve_left session)]
    simp only [ensureActiveFunctionClosed, prepareFunction, prepareRegistration,
      keeps_bind, reserves_activeRun]
    intro keeps
    have keeps := keeps situation.seen (.refl _ _)
    split at keeps
    · exact stuck none _ looked keeps
    split at keeps
    · refine stuck (some _) _ ?_ (keeps.2 (some "") trivial)
      exact looked.cons _ rfl
    split at keeps
    · exact stuck (some _) _ looked keeps
    simp only [keeps_bind, reserves_activeRun] at keeps
    have keeps := keeps situation.seen (.refl _ _)
    have again := looked.cons ⟨.query .memory, situation.seen⟩ rfl
    split at keeps
    · refine stuck (some _) _ ?_ (keeps.2 (.error "") trivial)
      exact again.cons _ rfl
    · refine stuck (some _) _ ?_ (keeps.2 (some "") trivial)
      exact again.cons _ rfl

theorem not_reserves_release :
    ¬ situation.Reserves (releaseRuntimeServerState handle situation.run >>= fun failure =>
      match failure with
      | none => finishDeletion situation.run
      | some message =>
        if runRegistrationCleanupFinalizer ∈ situation.run.finalizers then
          pure { requeueAfter := some second, error := some message }
        else finishDeletion situation.run) history := by
  apply not_reserves_releaseRuntimeServerState reserved unstored
  intro failure last unstored
  cases failure with
  | none => exact not_reserves_finishDeletion reserved unstored
  | some =>
    dsimp only
    split
    · exact not_ended_of_unstored unstored (by simp [Result.requeue])
    · exact not_reserves_finishDeletion reserved unstored

/-- A Run that is being deleted gets no outcome. -/
theorem not_reserves_reconcileDeletingRegistration :
    ¬ situation.Reserves (reconcileDeletingRegistration situation.run) history := by
  have looked := unstored.cons ⟨.query .memory, situation.seen⟩ rfl
  simp only [reconcileDeletingRegistration, deletionHandle, buildActiveRun, keeps_bind,
    reserves_memory]
  intro keeps
  have keeps := keeps situation.seen (.refl _ _)
  cases entry : situation.seen.active with
  | some handle =>
    rw [entry] at keeps
    exact not_reserves_release reserved looked ((keeps_bind _ _).mpr keeps.2)
  | none =>
    simp only [entry, keeps_bind, keeps_pure, reserves_memory, reserves_edit] at keeps
    refine not_reserves_release reserved ?_
      ((keeps_bind _ _).mpr (keeps situation.seen (.refl _ _)).2)
    exact looked.cons _ rfl

end Unstored

end Missed

/-! ## The exact condition -/

section Exact

variable {situation : Situation} {controller : Controller}

theorem passive_found (run : Run) : Passive [⟨.get, some run⟩] :=
  Passive.cons (fun _ mem => absurd mem List.not_mem_nil) _ rfl rfl

/-- `Reconcile` of a Run that is not being deleted dispatches on the phase. -/
theorem takesTimeout_iff_branch (present : situation.run.deleting = false) :
    situation.TakesTimeout controller ↔ Program.Keeps situation.contract situation.Ended
        (match situation.run.status.phase with
          | .scheduled => reconcileScheduled controller situation.run
          | .running => reconcileRunning controller situation.run
          | .ready => reconcileReady controller situation.run
          | .finalizing => reconcileFinalizing controller situation.run
          | _ => pure .empty)
        [⟨.get, some situation.run⟩] := by
  constructor
  · intro keeps
    simp only [Situation.TakesTimeout, reconcile, keeps_bind, reserves_getRun, present,
      Bool.false_eq_true, if_false] at keeps
    exact keeps
  · intro keeps
    simp only [Situation.TakesTimeout, reconcile, keeps_bind, reserves_getRun, present,
      Bool.false_eq_true, if_false]
    exact keeps

section Reserved

variable (reserved : Reserved situation.run)

include reserved

theorem not_takesTimeout_of_deleting (deleted : situation.run.deleting = true) :
    ¬ situation.TakesTimeout controller := by
  simp only [Situation.TakesTimeout, reconcile, keeps_bind, reserves_getRun, deleted, if_true]
  exact not_reserves_reconcileDeletingRegistration reserved
    fun exchange mem => (passive_found _ exchange mem).1

/-- A Running Session is not ended unless it is to be terminated at once, however late it
is. -/
theorem not_takesTimeout_of_runningSession (mode : situation.run.spec.mode.session.isSome = true)
    (phase : situation.run.status.phase = .running)
    (continues : situation.run.spec.hasImmediateTermination = false) :
    ¬ situation.TakesTimeout controller := by
  cases present : situation.run.deleting with
  | true => exact not_takesTimeout_of_deleting reserved present
  | false =>
    rw [takesTimeout_iff_branch present, phase]
    dsimp only
    rw [reconcileRunning, if_pos mode]
    exact misses_reconcileRunningSession reserved mode phase (fun _ _ => continues) _
      (passive_found _)

section Timeouts

variable (present : situation.run.deleting = false)

include present

theorem takesTimeout_of_endsSession {handle : Nat}
    (mode : situation.run.spec.mode.session.isSome = true)
    (entry : situation.seen.active = some handle) (ends : situation.endsSession handle = true) :
    situation.TakesTimeout controller := by
  rw [takesTimeout_iff_branch present]
  rcases reserved.phase with phase | phase | phase <;> rw [phase] <;> dsimp only
  · have immediate : situation.run.spec.hasImmediateTermination = true := by
      simpa [Situation.endsSession, phase] using ends
    simp only [reconcileRunning, mode, if_true, reconcileRunningSession, keeps_bind,
      reserves_memory]
    intro memory agrees
    simp only [agrees.active, entry, keeps_bind, reserves_edit, immediate, if_true]
    exact ⟨rfl, reserves_closeSessionAndApplyTerminal (.inr ⟨immediate, rfl⟩)
      (reserved.identified mode)⟩
  · rw [reconcileReady, if_pos mode]
    exact reserves_reconcileReadySession reserved mode entry phase ends
  · exact reserves_reconcileFinalizing reserved mode entry phase ends

theorem takesTimeout_of_endsFunction {handle : Nat}
    (mode : ¬ situation.run.spec.mode.session.isSome = true)
    (entry : situation.seen.active = some handle) (ends : situation.endsFunction handle = true) :
    situation.TakesTimeout controller := by
  have session : situation.run.spec.mode.session = none := by simpa using mode
  have function := reserved.mode.resolve_left mode
  rw [takesTimeout_iff_branch present]
  rcases reserved.phase with phase | phase | phase <;> rw [phase] <;> dsimp only
  · rw [reconcileRunning, if_neg mode, if_pos function]
    exact reserves_reconcileRunningFunction session entry phase ends
  · rw [reconcileReady, if_neg mode, if_pos function]
    exact reserves_reconcileReadyFunction session entry phase ends
  · simp [Situation.endsFunction, phase] at ends

theorem not_takesTimeout_of_session (mode : situation.run.spec.mode.session.isSome = true)
    (missed : ∀ handle, situation.seen.active = some handle →
      situation.endsSession handle = false) : ¬ situation.TakesTimeout controller := by
  rw [takesTimeout_iff_branch present]
  rcases reserved.phase with phase | phase | phase <;> rw [phase] <;> dsimp only
  · rw [reconcileRunning, if_pos mode]
    exact misses_reconcileRunningSession reserved mode phase
      (fun handle entry => (Bool.or_eq_false_iff.mp (missed handle entry)).1) _ (passive_found _)
  · rw [reconcileReady, if_pos mode]
    exact misses_reconcileReadySession reserved mode phase missed _ (passive_found _)
  · exact misses_reconcileFinalizing reserved phase (fun _ => missed) _ (passive_found _)

theorem not_takesTimeout_of_function (mode : ¬ situation.run.spec.mode.session.isSome = true)
    (missed : ∀ handle, situation.seen.active = some handle →
      situation.endsFunction handle = false) : ¬ situation.TakesTimeout controller := by
  have function := reserved.mode.resolve_left mode
  rw [takesTimeout_iff_branch present]
  rcases reserved.phase with phase | phase | phase <;> rw [phase] <;> dsimp only
  · rw [reconcileRunning, if_neg mode, if_pos function]
    exact misses_reconcileRunningFunction reserved phase missed _ (passive_found _)
  · rw [reconcileReady, if_neg mode, if_pos function]
    exact misses_reconcileReadyFunction reserved phase missed _ (passive_found _)
  · exact misses_reconcileFinalizing reserved phase (fun session => absurd session mode) _
      (passive_found _)

end Timeouts

end Reserved

/-- A claimed Session or Function is ended exactly when it has a local entry and its branch
looks at a time that is over. -/
theorem takesTimeout_iff_endsInTime (controller : Controller) (situation : Situation)
    (reserved : Reserved situation.run) :
    situation.TakesTimeout controller ↔ situation.endsInTime = true := by
  unfold Situation.endsInTime
  cases present : situation.run.deleting with
  | true => simpa using not_takesTimeout_of_deleting reserved present
  | false =>
    rw [Bool.not_false, Bool.true_and, Option.any_eq_true]
    by_cases mode : situation.run.spec.mode.session.isSome = true
    · simp only [if_pos mode]
      constructor
      · intro takes
        by_contra none
        refine not_takesTimeout_of_session reserved present mode ?_ takes
        intro handle entry
        exact Bool.eq_false_iff.mpr fun ends => none ⟨handle, entry, ends⟩
      · rintro ⟨_, entry, ends⟩
        exact takesTimeout_of_endsSession reserved present mode entry ends
    · simp only [if_neg mode]
      constructor
      · intro takes
        by_contra none
        refine not_takesTimeout_of_function reserved present mode ?_ takes
        intro handle entry
        exact Bool.eq_false_iff.mpr fun ends => none ⟨handle, entry, ends⟩
      · rintro ⟨_, entry, ends⟩
        exact takesTimeout_of_endsFunction reserved present mode entry ends

end Exact

end Kruntimes.Runtimed

namespace Kruntimes.Lifecycle

open Api Transition Runtimed

/-- What a `Reconcile` on a Pod finds when it reads the stored Run. -/
def World.situation (world : World) (pod : String) (polled : Polled FunctionStatusResponse)
    (lease : Option Time) : Situation :=
  { run := world.stored, seen := (world.nodes pod).memory, now := world.clock, polled, lease }

/-- A Session with a timeout of ten seconds. -/
def timedSession : Run :=
  let run := smallSession none
  { run with spec := { run.spec with timeout := some (10 * second) } }

/-- A Session that was claimed at the start, is Ready, and is found after a hundred seconds
with its entry. -/
def lateSession : Situation :=
  let run := timedSession
  { run :=
      { run with
        status :=
          { run.status with
            phase := .ready, assignedPod := "runtime-0", assignedPodUID := "pod-uid"
            startTime := some 0 } }
    seen := { objects := [{ run, deadline := some (10 * second) }], active := some 0 }
    now := 100 * second
    polled := .notFound
    lease := none }

theorem reserved_lateSession : Reserved lateSession.run :=
  ⟨.inr (.inl rfl), .inl rfl, by decide, by decide⟩

/-- The late Ready Session is ended. -/
theorem takesTimeout_lateSession :
    Reserved lateSession.run ∧ lateSession.TakesTimeout (smallDeployment.controllers "runtime-0") :=
  ⟨reserved_lateSession,
    (takesTimeout_iff_endsInTime _ lateSession reserved_lateSession).mpr (by decide)⟩

/-- A Session is claimed, and a hundred seconds pass. -/
def overstayActions : List Action :=
  [.schedule 0 .backfill] ++ bindTo Scheduler.smallPod 0 ++
    .trigger "runtime-0" :: advances "runtime-0" (sessionClaimReplies false) ++
    [.tick (100 * second)]

/-- A claimed Session that is still Running ninety seconds after the end of its timeout is
not ended by a `Reconcile` of its Pod, whatever the Runtime Server holds. -/
theorem exists_not_takesTimeout :
    ∃ actions world, run (step smallDeployment) actions (World.initial timedSession 0) =
        some world ∧
      world.stored.spec.timeout = some (10 * second) ∧
      world.stored.status.startTime = some 0 ∧ 0 + 10 * second ≤ world.clock ∧
      Reserved world.stored ∧ (world.nodes "runtime-0").memory.active.isSome = true ∧
      ∀ polled lease, ¬ (world.situation "runtime-0" polled lease).TakesTimeout
        (smallDeployment.controllers "runtime-0") := by
  refine ⟨overstayActions, exists_reached (fun world =>
    world.stored.spec.timeout = some (10 * second) ∧ world.stored.status.startTime = some 0 ∧
    0 + 10 * second ≤ world.clock ∧ (world.stored.status.phase = .running ∧
      world.stored.spec.mode.session.isSome = true ∧
      world.stored.spec.hasImmediateTermination = false ∧ world.stored.uid ≠ "" ∧
      world.stored.status.assignedPodUID ≠ "") ∧
    (world.nodes "runtime-0").memory.active.isSome = true) (by decide +kernel) ?_⟩
  rintro world _ ⟨timeout, start, late, ⟨phase, mode, continues, uid, podUID⟩, entry⟩
  have reserved : Reserved world.stored := ⟨.inl phase, .inl mode, uid, podUID⟩
  refine ⟨timeout, start, late, reserved, entry, ?_⟩
  intro polled lease
  exact not_takesTimeout_of_runningSession reserved mode phase continues

end Kruntimes.Lifecycle
