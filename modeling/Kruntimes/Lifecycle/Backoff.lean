import Kruntimes.Lifecycle.Course
import Mathlib.Tactic.Linarith

/-!
# Retry backoff

Every component measures the backoff of an attempt from the transition time of the
`Running` condition.  That time moves only when the condition changes its status, so it is
the time of the failure only if the condition was not False before.  If every write that
raises the attempt finds a Run that does not wait, and is stored within `slack` of the time
it records, no attempt is claimed or executed more than `slack` before the end of its backoff.
-/

namespace Kruntimes.Lifecycle

open Api Transition Runtimed

variable {event : Event} {attempt : Int} {since : Time}

/-! ## Since when a Run waits -/

/-- The transition time of a `Running` condition that is False. -/
def waitingSince (conditions : List Condition) : Option Time :=
  match findStatusCondition conditions conditionRunning with
  | none => none
  | some condition =>
    if condition.status = .conditionFalse then some condition.lastTransitionTime else none

theorem waitingSince_of_find {conditions others : List Condition}
    (same : findStatusCondition conditions conditionRunning =
      findStatusCondition others conditionRunning) :
    waitingSince conditions = waitingSince others := by
  rw [waitingSince, same, waitingSince]

/-- The API server stores whole seconds. -/
theorem waitingSince_storedStatus (status : RunStatus) :
    waitingSince (storedStatus status).conditions =
      (waitingSince status.conditions).map storedTime := by
  unfold waitingSince
  rw [find_conditions_storedStatus]
  cases findStatusCondition status.conditions conditionRunning with
  | none => rfl
  | some =>
    simp only [Option.map_some]
    split <;> rfl

/-- Another condition does not matter. -/
theorem waitingSince_setStatusCondition_of_ne (conditions : List Condition)
    {condition : Condition} (different : condition.type ≠ conditionRunning) :
    waitingSince (setStatusCondition conditions condition) = waitingSince conditions :=
  waitingSince_of_find (find_setStatusCondition_of_ne different)

/-- A condition that is already False keeps its time. -/
theorem waitingSince_setRunning (conditions : List Condition) (reason message : String)
    (time : Time) :
    waitingSince (setStatusCondition conditions
        { type := conditionRunning, status := .conditionFalse, reason, message
          lastTransitionTime := time }) =
      some ((waitingSince conditions).getD time) := by
  have found := find_setStatusCondition_self conditions
    { type := conditionRunning, status := .conditionFalse, reason, message
      lastTransitionTime := time }
  unfold waitingSince
  rw [found]
  cases findStatusCondition conditions conditionRunning with
  | none => rfl
  | some condition =>
    by_cases already : condition.status = .conditionFalse <;>
      simp [updateCondition, already]

theorem waitingSince_setTerminal (run : Run) (phase : RunPhase) (reason message : String)
    (now : Time) :
    waitingSince (setTerminal run phase reason message now).status.conditions =
      some ((waitingSince run.status.conditions).getD now) := by
  have completed : conditionCompleted ≠ conditionRunning := by decide
  have ready : conditionReady ≠ conditionRunning := by decide
  unfold setTerminal
  rw [waitingSince_setStatusCondition_of_ne _ completed, waitingSince_setRunning]
  split
  · rw [waitingSince_setStatusCondition_of_ne _ ready]
  · rfl

section StatusChanges

variable (run : Run) (reason message : String) (time : Time)

theorem waitingSince_successStatus (outputs : Labels) (artifactRefs : List ArtifactRef) :
    waitingSince (successStatus run outputs artifactRefs time).status.conditions =
      some ((waitingSince run.status.conditions).getD time) := by
  have completed : conditionCompleted ≠ conditionRunning := by decide
  exact (waitingSince_setStatusCondition_of_ne _ completed).trans (waitingSince_setRunning _ _ _ _)

theorem waitingSince_retryStatus :
    waitingSince (retryStatus run reason message time).status.conditions =
      some ((waitingSince run.status.conditions).getD time) :=
  waitingSince_setRunning _ _ _ _

theorem waitingSince_terminalStatus (phase : RunPhase) :
    waitingSince (terminalStatus run phase reason message time).status.conditions =
      some ((waitingSince run.status.conditions).getD time) :=
  waitingSince_setTerminal _ _ _ _ _

theorem waitingSince_handleStaleRun (verdict : Reaper.Verdict) :
    waitingSince (Reaper.handleStaleRun run verdict time).status.conditions =
      some ((waitingSince run.status.conditions).getD time) := by
  unfold Reaper.handleStaleRun
  split
  · exact waitingSince_setRunning _ _ _ _
  · exact waitingSince_setTerminal _ _ _ _ _

end StatusChanges

theorem waitingSince_of_runningCondition {run : Run} {condition : Condition}
    (known : runningCondition run = some condition)
    (failed : condition.status = .conditionFalse) :
    waitingSince run.status.conditions = some condition.lastTransitionTime := by
  unfold runningCondition at known
  simp [waitingSince, known, failed]

/-- `inBackoff` looks at the same condition. -/
theorem inBackoff_eq_isSome (run : Run) :
    inBackoff run = (waitingSince run.status.conditions).isSome := by
  unfold inBackoff runningCondition waitingSince
  cases findStatusCondition run.status.conditions conditionRunning with
  | none => rfl
  | some condition => by_cases failed : condition.status = .conditionFalse <;> simp [failed]

theorem waitingSince_of_sameCourse {base run : Run} (same : SameCourse base run) :
    waitingSince run.status.conditions = waitingSince base.status.conditions :=
  waitingSince_of_find same.running

/-! ## The backoff of the components -/

/-- The scheduler admits a Run again after its backoff. -/
theorem delay_of_isAdmitted {platform : Platform} {run : Run} {now : Time}
    (admitted : isAdmitted platform run now = true) (started : run.status.phase ≠ .unset)
    (later : 2 ≤ run.status.attempt) (waiting : waitingSince run.status.conditions = some since) :
    since + backoff platform (withDefaults run.spec.retryPolicy) run.status.attempt ≤
      now := by
  have pending := isPending_of_isAdmitted admitted
  have phase : run.status.phase = .pending := by
    cases known : run.status.phase <;> simp_all [RunPhase.isPending]
  have short : Scheduler.pendingRetryDelay platform run now ≤ 0 := by
    by_contra long
    unfold isAdmitted Scheduler.admission at admitted
    simp only [pending, Bool.true_eq_false, if_false, not_le.mp long, if_true] at admitted
    split at admitted
    next scheduled =>
      split at scheduled
      · cases scheduled
      split at scheduled
      · cases scheduled
      · split at scheduled <;> cases scheduled
    · cases admitted
  unfold Scheduler.pendingRetryDelay at short
  have retried : ¬ (run.status.phase ≠ .pending ∨ run.status.attempt ≤ 1) := by
    rintro (other | _)
    · exact other phase
    · omega
  rw [if_neg retried] at short
  unfold waitingSince at waiting
  cases found : findStatusCondition run.status.conditions conditionRunning with
  | none => simp [found] at waiting
  | some =>
    simp only [found] at waiting short
    obtain ⟨failed, same⟩ := Option.ite_none_right_eq_some.mp waiting
    cases same
    rw [if_neg (not_not.mpr failed)] at short
    exact sub_nonpos.mp short

theorem attempt_of_decided {platform : Platform} {run chosen : Run} {decision : Decision}
    (made : decided platform run decision = some chosen) :
    chosen.status.attempt = run.status.attempt := by
  cases decided_cases made <;> rfl

/-- A Run waits and is not bound. -/
def Waits (since : Time) (status : RunStatus) : Prop :=
  waitingSince status.conditions = some since ∧ status.phase ≠ .scheduled

/-- It keeps waiting since the same time, or its backoff has elapsed. -/
def WaitsOut (platform : Platform) (clock since : Time) (run : Run) (status : RunStatus) : Prop :=
  Waits since status ∨
    since + backoff platform (withDefaults run.spec.retryPolicy) run.status.attempt ≤ clock

theorem waits_of_decided {platform : Platform} {run chosen : Run} {decision : Decision}
    {clock : Time} (made : decided platform run decision = some chosen)
    (timely : decision.now.all (· ≤ clock) = true) (started : run.status.phase ≠ .unset)
    (later : 2 ≤ run.status.attempt) (waits : Waits since run.status) :
    WaitsOut platform clock since run chosen.status := by
  obtain ⟨waiting, unbound⟩ := waits
  cases decided_cases made with
  | backfill => exact .inl ⟨waiting, by simpa [started] using unbound⟩
  | terminate _ terminal =>
    refine .inl ⟨?_, ?_⟩
    · rw [waitingSince_setTerminal, waiting]
      rfl
    · rintro rfl
      cases terminal
  | wait => exact .inl ⟨waiting, by simp⟩
  | fail => exact .inl ⟨waiting, by rintro ⟨⟩⟩
  | @bind now _ _ admitted =>
    have elapsed := delay_of_isAdmitted admitted started later waiting
    have checked : now ≤ clock := by simpa [Decision.now] using timely
    exact .inr (elapsed.trans checked)

theorem phase_handleStaleRun_ne_scheduled (run : Run) (verdict : Reaper.Verdict)
    (now : Time) : (Reaper.handleStaleRun run verdict now).status.phase ≠ .scheduled := by
  unfold Reaper.handleStaleRun
  split <;> exact nofun

theorem waits_of_statusWrite {controller : Controller} {history : History} {base run : Run}
    {thereafter : List Edit} {clock : Time}
    (write : StatusWrite controller history base run thereafter)
    (past : ∀ time : Time, (⟨.query .clock, time⟩ : Exchange runtimed) ∈ history → time ≤ clock)
    (waits : Waits since base.status) :
    WaitsOut controller.platform clock since base run.status := by
  obtain ⟨waiting, unbound⟩ := waits
  have ready : conditionReady ≠ conditionRunning := by decide
  cases write with
  | claim phase => exact absurd phase unbound
  | observe phase same =>
    rw [WaitsOut, Waits, waitingSince_of_sameCourse same, same.phase]
    exact .inl ⟨waiting, unbound⟩
  | resume phase found known failed read elapsed =>
    rw [waitingSince_of_runningCondition known failed] at waiting
    obtain rfl := Option.some.inj waiting
    exact .inr (elapsed.trans (past _ read))
  | succeed phase same =>
    refine .inl ⟨?_, nofun⟩
    rw [waitingSince_successStatus, waitingSince_of_sameCourse same, waiting]
    rfl
  | retry phase same =>
    refine .inl ⟨?_, ?_⟩
    · rw [waitingSince_retryStatus, waitingSince_of_sameCourse same, waiting]
      rfl
    · exact fun bound => unbound (same.phase.symm.trans bound)
  | finish active same cause =>
    refine .inl ⟨?_, ?_⟩
    · rw [waitingSince_terminalStatus, waitingSince_of_sameCourse same, waiting]
      rfl
    · rintro rfl
      cases cause.isTerminal
  | sessionReady | functionReady | finalize =>
    exact .inl ⟨(waitingSince_setStatusCondition_of_ne _ ready).trans waiting, nofun⟩

/-- Whoever writes, a Run that waits out the backoff of a retry keeps waiting since the
same time, unless the backoff has elapsed. -/
theorem waits_of_write {deployment : Deployment} {world : World} {writer : Writer}
    {status : RunStatus} {polled : Option Int} (sound : Sound deployment world)
    (write : Write deployment world writer status polled)
    (started : world.stored.status.phase ≠ .unset) (later : 2 ≤ world.stored.status.attempt)
    (waits : Waits since world.stored.status) :
    WaitsOut deployment.platform world.clock since world.stored status := by
  cases write with
  | scheduler made timely => exact waits_of_decided made timely started later waits
  | reaper =>
    refine .inl ⟨?_, phase_handleStaleRun_ne_scheduled _ _ _⟩
    rw [waitingSince_handleStaleRun, waits.1]
    rfl
  | @runtimed pod thread run thereafter mem holds write =>
    rw [← deployment.samePlatform pod]
    exact waits_of_statusWrite write (sound.threads pod thread mem).read waits

/-! ## Raised and started attempts -/

/-- The attempt to which an event raises a Run, and when.  Retries begin with the second
attempt. -/
def Event.raised : Event → Option (Int × Time)
  | .wrote _ time old new _ =>
    if old.status.attempt < new.status.attempt ∧ 2 ≤ new.status.attempt then
      some (new.status.attempt, time)
    else none
  | _ => none

/-- The attempt that an event claims or executes, and when. -/
def Event.started : Event → Option (Int × Time)
  | .wrote _ time old new _ =>
    if old.status.phase = .scheduled ∧ new.status.phase = .running then
      some (new.status.attempt, time)
    else none
  | .executed _ time _ attempt _ => some (attempt, time)
  | .queried _ _ _ _ _ => none

/-- No attempt is started more than `slack` before the end of its backoff. -/
def HonoursBackoff (wait : Int → Duration) (slack : Duration) (log : List Event) : Prop :=
  ∀ raise ∈ log, ∀ start ∈ log, ∀ attempt raisedAt startedAt,
    raise.raised = some (attempt, raisedAt) → start.started = some (attempt, startedAt) →
      raisedAt + wait attempt ≤ startedAt + slack

/-- The backoff of the attempt is over. -/
def Elapsed (wait : Int → Duration) (slack : Duration) (ledger : Ledger) (attempt : Int) :
    Prop :=
  ∀ event ∈ ledger.log, ∀ raisedAt, event.raised = some (attempt, raisedAt) →
    raisedAt + wait attempt ≤ ledger.clock + slack

/-- The version shows that the backoff of its attempt has begun, or the backoff is over. -/
def Patient (wait : Int → Duration) (slack : Duration) (ledger : Ledger) (version : Run) :
    Prop :=
  (∃ since, waitingSince version.status.conditions = some since ∧
    version.status.phase ≠ .scheduled ∧
    ∀ event ∈ ledger.log, ∀ raisedAt, event.raised = some (version.status.attempt, raisedAt) →
      raisedAt ≤ since + slack) ∨
  Elapsed wait slack ledger version.status.attempt

/-- An execution of the attempt may be started. -/
def Launchable (wait : Int → Duration) (slack : Duration) (ledger : Ledger) (attempt : Int) :
    Prop :=
  attempt ≤ ledger.stored.status.attempt ∧ Elapsed wait slack ledger attempt

/-- The events of the ledger keep the backoff, and its versions show it. -/
structure Timed (wait : Int → Duration) (slack : Duration) (ledger : Ledger) : Prop where
  raised : ∀ event ∈ ledger.log, ∀ attempt raisedAt, event.raised = some (attempt, raisedAt) →
    attempt ≤ ledger.stored.status.attempt
  started : ∀ event ∈ ledger.log, ∀ attempt startedAt,
    event.started = some (attempt, startedAt) → attempt ≤ ledger.stored.status.attempt
  newest : ∀ version ∈ ledger.versions, version.status.attempt ≤ ledger.stored.status.attempt
  whole : ∀ version ∈ ledger.versions, ∀ since,
    waitingSince version.status.conditions = some since → storedTime since = since
  patient : ∀ version ∈ ledger.versions, Patient wait slack ledger version
  honours : HonoursBackoff wait slack ledger.log

/-- The backoff of an attempt that is raised now begins with the time that was read: the Run
does not wait yet, and the reading is at most `slack` old. -/
def beginsBackoff (slack : Duration) (world : World) (reading : Option Time) : Bool :=
  (waitingSince world.stored.status.conditions).isNone &&
    reading.any fun time => decide (world.clock ≤ storedTime time + slack)

/-- The writes that raise the attempt begin its backoff: those of the reaper while an attempt is
left, and those of runtimed for a retry. -/
def refreshesBackoff (slack : Duration) (action : Action) (world : World) : Bool :=
  match action with
  | .reap _ _ _ recorded =>
    decide ((withDefaults world.stored.spec.retryPolicy).maxAttempts ≤ number world.stored) ||
      beginsBackoff slack world (some recorded)
  | .advance pod i reply =>
    match (world.nodes pod).threads[i]? with
    | some thread =>
      match thread.program with
      | .call (.updateStatus run _) _ =>
        !reply.stores || decide (run.status.attempt ≤ number world.stored) ||
          beginsBackoff slack world (lastReading thread.exchanges)
      | _ => true
    | none => true
  | _ => true

section Preservation

variable {wait : Int → Duration} {slack : Duration} {deployment : Deployment} {world : World}
  {ledger : Ledger} {created : Run}

theorem two_le_of_raised {raisedAt : Time} (raised : event.raised = some (attempt, raisedAt)) :
    2 ≤ attempt := by
  cases event with
  | wrote =>
    obtain ⟨rise, same⟩ := Option.ite_none_right_eq_some.mp raised
    cases same
    exact rise.2
  | executed | queried => cases raised

theorem elapsed_of_lt (first : attempt < 2) :
    Elapsed wait slack ledger attempt := by
  intro event mem raisedAt raised
  have := two_le_of_raised raised
  omega

/-- A change of the ledger raises to new attempts only, and at the time of the change. -/
theorem raised_of_storeChange (change : StoreChange deployment world ledger)
    (mem : event ∈ ledger.log) {raisedAt : Time}
    (raised : event.raised = some (attempt, raisedAt)) :
    event ∈ world.log ∨
      (world.stored.status.attempt < attempt ∧ attempt = ledger.stored.status.attempt ∧
        raisedAt = world.clock) := by
  cases change with
  | idle | amended => exact .inl mem
  | wrote =>
    rcases List.mem_cons.mp mem with rfl | old
    · obtain ⟨rise, same⟩ := Option.ite_none_right_eq_some.mp raised
      cases same
      exact .inr ⟨rise.1, rfl, rfl⟩
    · exact .inl old
  | executed | queried =>
    rcases List.mem_cons.mp mem with rfl | old
    · cases raised
    · exact .inl old

theorem clock_le_of_storeChange (change : StoreChange deployment world ledger) :
    world.clock ≤ ledger.clock := by
  cases change with
  | idle later => exact later
  | _ => exact le_rfl

/-- A backoff that is over stays over. -/
theorem Elapsed.of_storeChange (elapsed : Elapsed wait slack world.toLedger attempt)
    (known : attempt ≤ world.stored.status.attempt) (change : StoreChange deployment world ledger) :
    Elapsed wait slack ledger attempt := by
  intro event mem raisedAt raised
  have later := clock_le_of_storeChange change
  rcases raised_of_storeChange change mem raised with old | ⟨_, _⟩
  · exact (elapsed event old raisedAt raised).trans (Int.add_le_add_right later slack)
  · omega

theorem attempt_le_of_storeChange (change : StoreChange deployment world ledger) :
    world.stored.status.attempt ≤ ledger.stored.status.attempt :=
  (progress_of_storeChange change).attempt_le

theorem Launchable.of_storeChange (launchable : Launchable wait slack world.toLedger attempt)
    (change : StoreChange deployment world ledger) : Launchable wait slack ledger attempt :=
  ⟨launchable.1.trans (attempt_le_of_storeChange change),
    launchable.2.of_storeChange launchable.1 change⟩

/-- An old version stays patient. -/
theorem Patient.of_storeChange {version : Run} (patient : Patient wait slack world.toLedger version)
    (known : version.status.attempt ≤ world.stored.status.attempt)
    (change : StoreChange deployment world ledger) : Patient wait slack ledger version := by
  rcases patient with ⟨since, waiting, unbound, covered⟩ | elapsed
  · refine .inl ⟨since, waiting, unbound, ?_⟩
    intro event mem raisedAt raised
    rcases raised_of_storeChange change mem raised with old | ⟨_, _⟩
    · exact covered event old raisedAt raised
    · omega
  · exact .inr (elapsed.of_storeChange known change)

/-- What the writers keep is kept by what is stored. -/
theorem waits_of_storeChange (sound : Sound deployment world) (whole : storedTime since = since)
    (started : world.stored.status.phase ≠ .unset) (later : 2 ≤ world.stored.status.attempt)
    (waits : Waits since world.stored.status) (change : StoreChange deployment world ledger) :
    WaitsOut deployment.platform world.clock since world.stored ledger.stored.status := by
  cases change with
  | idle | executed | queried => exact .inl waits
  | amended present key name status => exact .inl (status ▸ waits)
  | @wrote _ status _ present write =>
    rcases waits_of_write sound write started later waits with ⟨kept, phase⟩ | passed
    · refine .inl ⟨?_, phase⟩
      change waitingSince (storedStatus status).conditions = some since
      rw [waitingSince_storedStatus, kept, Option.map_some, whole]
    · exact .inr passed

/-- The first version of an attempt: its backoff has just begun. -/
theorem patient_of_raised (timed : Timed wait slack world.toLedger)
    (raised : world.stored.status.attempt < ledger.stored.status.attempt)
    (waiting : waitingSince ledger.stored.status.conditions = some since)
    (recent : world.clock ≤ since + slack) (change : StoreChange deployment world ledger) :
    Patient wait slack ledger ledger.stored := by
  refine .inl ⟨since, waiting, (progress_of_storeChange change).phase_of_attempt_lt raised, ?_⟩
  intro event mem raisedAt rise
  rcases raised_of_storeChange change mem rise with old | ⟨_, _, rfl⟩
  · have := timed.raised event old _ _ rise
    omega
  · exact recent

/-- The backoff of the Run that was created. -/
abbrev waitOf (deployment : Deployment) (created : Run) : Int → Duration :=
  backoff deployment.platform (withDefaults created.spec.retryPolicy)

/-- A further version of an attempt. -/
theorem patient_of_same (sound : Sound deployment world) (lawful : LawfulRun created world.stored)
    (timed : Timed (waitOf deployment created) slack world.toLedger)
    (same : ledger.stored.status.attempt = world.stored.status.attempt)
    (later : 2 ≤ world.stored.status.attempt) (change : StoreChange deployment world ledger) :
    Patient (waitOf deployment created) slack ledger ledger.stored := by
  have started : world.stored.status.phase ≠ .unset := by
    intro unset
    have first : world.stored.status.attempt = 0 := lawful.lawful.fresh unset
    omega
  have policy := retryPolicy_of_fixedSpec lawful.fixedSpec
  have kept := (timed.patient _ (.head _)).of_storeChange le_rfl change
  rcases kept with ⟨since, waiting, unbound, covered⟩ | elapsed
  · have whole := timed.whole _ (.head _) since waiting
    rcases waits_of_storeChange sound whole started later ⟨waiting, unbound⟩ change with
      ⟨still, phase⟩ | passed
    · exact .inl ⟨since, still, phase, same ▸ covered⟩
    rw [policy] at passed
    refine .inr ?_
    rw [same]
    intro event mem raisedAt raised
    have := covered event mem raisedAt raised
    have := clock_le_of_storeChange change
    linarith
  · exact .inr (same ▸ elapsed)

/-- The attempts that a change starts have waited. -/
theorem launchable_of_started (timed : Timed wait slack world.toLedger)
    (launches : ∀ pod, ∀ thread ∈ (world.nodes pod).threads, ∀ attempt,
      (∃ rest, thread.program = .call (.execute attempt) rest) →
        Launchable wait slack world.toLedger attempt)
    (change : StoreChange deployment world ledger) (mem : event ∈ ledger.log)
    {startedAt : Time} (started : event.started = some (attempt, startedAt)) :
    event ∈ world.log ∨
      (startedAt = world.clock ∧ Launchable wait slack world.toLedger attempt) := by
  have progress := progress_of_storeChange change
  cases change with
  | idle | amended => exact .inl mem
  | @wrote _ status _ present write =>
    rcases List.mem_cons.mp mem with rfl | old
    · obtain ⟨⟨scheduled, running⟩, same⟩ := Option.ite_none_right_eq_some.mp started
      cases same
      have kept : status.attempt = world.stored.status.attempt :=
        progress.attempt_of_claim scheduled running
      refine .inr ⟨rfl, ?_⟩
      change Launchable wait slack world.toLedger status.attempt
      rw [kept]
      rcases timed.patient _ (.head _) with ⟨_, _, unbound, _⟩ | elapsed
      · exact absurd scheduled unbound
      · exact ⟨le_rfl, elapsed⟩
    · exact .inl old
  | executed owner program =>
    rcases List.mem_cons.mp mem with rfl | old
    · cases started
      exact .inr ⟨rfl, launches _ _ owner _ ⟨_, program⟩⟩
    · exact .inl old
  | queried =>
    rcases List.mem_cons.mp mem with rfl | old
    · cases started
    · exact .inl old

theorem whole_stored (timed : Timed wait slack world.toLedger)
    (change : StoreChange deployment world ledger)
    (waiting : waitingSince ledger.stored.status.conditions = some since) :
    storedTime since = since := by
  have old := timed.whole _ (.head _)
  cases change with
  | @amended run _ present key name status spec version =>
    change waitingSince run.status.conditions = some since at waiting
    rw [status] at waiting
    exact old since waiting
  | @wrote _ status _ present write =>
    change waitingSince (storedStatus status).conditions = some since at waiting
    rw [waitingSince_storedStatus] at waiting
    obtain ⟨read, _, rfl⟩ := Option.map_eq_some_iff.mp waiting
    exact storedTime_storedTime read
  | _ => exact old since waiting

/-- A change keeps the backoff. -/
theorem timed_of_storeChange (sound : Sound deployment world)
    (lawful : LawfulRun created world.stored)
    (timed : Timed (waitOf deployment created) slack world.toLedger)
    (launches : ∀ pod, ∀ thread ∈ (world.nodes pod).threads, ∀ attempt,
      (∃ rest, thread.program = .call (.execute attempt) rest) →
        Launchable (waitOf deployment created) slack world.toLedger attempt)
    (fresh : number world.stored < ledger.stored.status.attempt →
      ∃ since, waitingSince ledger.stored.status.conditions = some since ∧
        world.clock ≤ since + slack)
    (change : StoreChange deployment world ledger) :
    Timed (waitOf deployment created) slack ledger := by
  have rises := attempt_le_of_storeChange change
  have starts := fun event (mem : event ∈ ledger.log) attempt startedAt
    (started : event.started = some (attempt, startedAt)) =>
      launchable_of_started timed launches change mem started
  refine ⟨?_, ?_, ?_, ?_, ?_, ?_⟩
  · intro event mem attempt raisedAt raised
    rcases raised_of_storeChange change mem raised with old | ⟨_, same, _⟩
    · exact (timed.raised event old _ _ raised).trans rises
    · exact same.le
  · intro event mem attempt startedAt started
    rcases starts event mem attempt startedAt started with old | ⟨_, launchable⟩
    · exact (timed.started event old _ _ started).trans rises
    · exact launchable.1.trans rises
  · intro version mem
    rcases mem_versions_of_storeChange change mem with rfl | old
    · exact le_rfl
    · exact (timed.newest version old).trans rises
  · intro version mem since waiting
    rcases mem_versions_of_storeChange change mem with rfl | old
    · exact whole_stored timed change waiting
    · exact timed.whole version old since waiting
  · intro version mem
    rcases mem_versions_of_storeChange change mem with rfl | old
    · by_cases raised : world.stored.status.attempt < ledger.stored.status.attempt
      · by_cases retried : 2 ≤ ledger.stored.status.attempt
        · obtain ⟨_, waiting, recent⟩ := fresh (by unfold number currentAttempt; grind)
          exact patient_of_raised timed raised waiting recent change
        · exact .inr (elapsed_of_lt (not_le.mp retried))
      · have same : ledger.stored.status.attempt = world.stored.status.attempt := by omega
        by_cases later : 2 ≤ world.stored.status.attempt
        · exact patient_of_same sound lawful timed same later change
        · exact .inr (elapsed_of_lt (by omega))
    · exact (timed.patient version old).of_storeChange (timed.newest version old) change
  · intro raise raiseMember start startMember attempt raisedAt startedAt raised started
    rcases raised_of_storeChange change raiseMember raised with oldRaise | ⟨_, _⟩
    · rcases starts start startMember attempt startedAt started with oldStart | ⟨rfl, launchable⟩
      · exact timed.honours raise oldRaise start oldStart _ _ _ raised started
      · exact launchable.2 raise oldRaise raisedAt raised
    · -- What has just been raised was not started before.
      rcases starts start startMember attempt startedAt started with oldStart | ⟨_, launchable⟩
      · have := timed.started start oldStart _ _ started
        omega
      · have := launchable.1
        omega

end Preservation

/-! ## Whole runs -/

/-- A program was started with an attempt that has waited. -/
def WaitedThread (wait : Int → Duration) (slack : Duration) (ledger : Ledger) (_ : String)
    (thread : Thread) : Prop :=
  ∀ handle attempt, (⟨.query .arguments, .startExecution handle attempt⟩ : Exchange runtimed) ∈
      thread.exchanges → Launchable wait slack ledger attempt

/-- The executions that are about to be started have waited. -/
def WaitedMemory (wait : Int → Duration) (slack : Duration) (ledger : Ledger)
    (memory : Memory) : Prop :=
  ∀ handle attempt, .startExecution handle attempt ∈ memory.spawned →
    Launchable wait slack ledger attempt

/-- The backoff is kept everywhere. -/
structure Waited (deployment : Deployment) (created : Run) (slack : Duration)
    (world : World) : Prop where
  lived : Lived deployment created world
  timed : Timed (backoff deployment.platform (withDefaults created.spec.retryPolicy)) slack
    world.toLedger
  spawned : ∀ pod,
    WaitedMemory (backoff deployment.platform (withDefaults created.spec.retryPolicy)) slack
      world.toLedger (world.nodes pod).memory
  threads : AllThreads
    (WaitedThread (backoff deployment.platform (withDefaults created.spec.retryPolicy)) slack)
    world

section Waited

variable {deployment : Deployment} {created : Run} {slack : Duration} {world next : World}
  {action : Action}

/-- `Execute` is requested for attempts that have waited. -/
theorem Waited.launches (waited : Waited deployment created slack world) (pod : String) :
    ∀ thread ∈ (world.nodes pod).threads, ∀ attempt,
      (∃ rest, thread.program = .call (.execute attempt) rest) →
        Launchable (waitOf deployment created) slack world.toLedger attempt := by
  rintro thread mem attempt ⟨_, program⟩
  have conforms := (waited.lived.sound.threads pod thread mem).conforms
  rw [program] at conforms
  obtain ⟨⟨handle, started⟩, _⟩ := conforms.1
  exact waited.threads pod thread mem handle attempt started

theorem since_of_beginsBackoff {reading : Option Time} {status : RunStatus}
    (begins : beginsBackoff slack world reading = true)
    (waiting : ∃ time, reading = some time ∧ waitingSince status.conditions =
      some ((waitingSince world.stored.status.conditions).getD time)) :
    ∃ since, waitingSince (storedStatus status).conditions = some since ∧
      world.clock ≤ since + slack := by
  obtain ⟨time, rfl, waiting⟩ := waiting
  obtain ⟨idle, recent⟩ := Bool.and_eq_true_iff.mp begins
  rw [Option.isNone_iff_eq_none.mp idle, Option.getD_none] at waiting
  exact ⟨storedTime time, by rw [waitingSince_storedStatus, waiting, Option.map_some],
    of_decide_eq_true recent⟩

/-- A retry waits since the last reading of the clock, unless the Run waited before. -/
theorem waitingSince_of_retry {controller : Controller} {history : History} {base run : Run}
    {thereafter : List Edit} (write : StatusWrite controller history base run thereafter)
    (raised : number base < run.status.attempt) :
    ∃ time, lastReading history = some time ∧ waitingSince run.status.conditions =
      some ((waitingSince base.status.conditions).getD time) := by
  have kept : ∀ {attempt : Int}, attempt = base.status.attempt → ¬ number base < attempt :=
    fun same => not_lt.mpr (same.trans_le (le_currentAttempt _))
  cases write with
  | claim => exact absurd raised (kept (congrArg Course.attempt (course_claimStatus base _)))
  | resume => exact absurd raised (kept (congrArg Course.attempt (course_retryingStatus base _)))
  | observe _ same => exact absurd raised (kept same.attempt)
  | succeed _ same =>
    refine absurd raised (not_lt.mpr (le_of_eq ?_))
    exact congrArg currentAttempt same.attempt
  | finish _ same =>
    refine absurd raised (not_lt.mpr (le_of_eq ?_))
    exact congrArg currentAttempt same.attempt
  | sessionReady | functionReady | finalize => exact absurd raised (kept rfl)
  | retry _ same _ _ read =>
    exact ⟨_, read, by rw [waitingSince_retryStatus, waitingSince_of_sameCourse same]⟩

/-- What a guarded step raises waits since about now. -/
theorem fresh_of_guarded (sound : Sound deployment world)
    (guarded : refreshesBackoff slack action world = true)
    (stepped : step deployment action world = some next)
    (raised : number world.stored < next.stored.status.attempt) :
    ∃ since, waitingSince next.stored.status.conditions = some since ∧
      world.clock ≤ since + slack := by
  have kept : ∀ {attempt : Int}, attempt = world.stored.status.attempt →
      ¬ number world.stored < attempt := fun same =>
    not_lt.mpr (same.trans_le (le_currentAttempt _))
  cases change_of_step stepped with
  | schedule read made accepted =>
    have same := attempt_of_decided (decided_stored sound read made accepted)
    exact absurd raised (kept same)
  | @reap copy pod now recorded run verdict read found accepted timely named unmarked =>
    obtain ⟨_, version⟩ := (Ledger.accepts_iff _).mp accepted
    obtain rfl := sound.ordered.eq_stored (List.mem_of_getElem? read) version
    rcases Bool.or_eq_true_iff.mp guarded with exhausted | begins
    · have spent : shouldRetry (withDefaults world.stored.spec.retryPolicy)
          (currentAttempt world.stored.status.attempt) verdict.reason = false :=
        if_pos (of_decide_eq_true exhausted)
      change number world.stored <
        (Reaper.handleStaleRun world.stored verdict recorded).status.attempt at raised
      rw [Reaper.handleStaleRun, spent, if_neg Bool.false_ne_true] at raised
      exact absurd raised (lt_irrefl _)
    · exact since_of_beginsBackoff begins ⟨recorded, rfl, waitingSince_handleStaleRun _ _ _⟩
  | @advance pod i reply thread request rest answer answers =>
    cases request with
    | updateStatus run thereafter =>
      have conforms := (sound.threads pod thread answers.member).conforms
      rw [answers.program] at conforms
      obtain ⟨base, holds, write⟩ := conforms.1
      cases reply with
      | accepted | lost =>
        obtain ⟨accepted, _⟩ := Option.ite_none_right_eq_some.mp answers.answered
        obtain rfl := held_eq_stored sound.ordered (sound.threads pod thread answers.member) holds
          write.resourceVersion accepted
        change number world.stored < run.status.attempt at raised
        simp only [refreshesBackoff, answers.found, answers.program, Reply.stores, Bool.not_true,
          Bool.false_or, Bool.or_eq_true, decide_eq_true_eq, not_le.mpr raised, false_or] at guarded
        exact since_of_beginsBackoff guarded (waitingSince_of_retry write raised)
      | _ => exact absurd raised (kept rfl)
    | update | updateLogged | query => cases reply <;> exact absurd raised (kept rfl)
    | _ => exact absurd raised (kept rfl)
  | _ => exact absurd raised (kept rfl)

theorem Waited.timed_of_step (waited : Waited deployment created slack world)
    (guarded : refreshesBackoff slack action world = true)
    (stepped : step deployment action world = some next) :
    Timed (waitOf deployment created) slack next.toLedger :=
  timed_of_storeChange waited.lived.sound (waited.lived.lawful _ (.head _))
    waited.timed waited.launches (fresh_of_guarded waited.lived.sound guarded stepped)
    (storeChange_of_step waited.lived.sound stepped)

/-- An execution starts from a copy that is not in backoff. -/
theorem launchable_of_beginExecutionStart {wait : Int → Duration} {ledger : Ledger} {pod : String}
    {thread : Thread} {handle : Nat} (timed : Timed wait slack ledger)
    (sound : SoundThread deployment ledger pod thread)
    (allowed : allowedEdit thread.exchanges (.beginExecutionStart handle attempt)) :
    Launchable wait slack ledger attempt := by
  obtain ⟨run, holds, _, notWaiting, rfl, _⟩ := allowed
  have version := sound.versions run (List.mem_of_head? holds)
  refine ⟨timed.newest run version, ?_⟩
  rcases timed.patient run version with ⟨_, waiting, _⟩ | elapsed
  · rw [inBackoff_eq_isSome, waiting] at notWaiting
    cases notWaiting
  · exact elapsed

theorem Waited.spawned_of_step (waited : Waited deployment created slack world)
    (timed : Timed (waitOf deployment created) slack next.toLedger)
    (stepped : step deployment action world = some next) (pod : String) :
    WaitedMemory (waitOf deployment created) slack next.toLedger (next.nodes pod).memory := by
  have sound := waited.lived.sound
  have old : WaitedMemory (waitOf deployment created) slack next.toLedger
      (world.nodes pod).memory := by
    intro handle attempt mem
    exact (waited.spawned pod handle attempt mem).of_storeChange
      (storeChange_of_step sound stepped)
  have changed := memoryChange_of_step stepped pod
  generalize (next.nodes pod).memory = memory at changed
  cases changed with
  | kept | neighbours => exact old
  | cleared =>
    intro handle attempt mem
    cases mem
  | launched =>
    intro handle attempt mem
    exact old handle attempt (List.mem_of_mem_eraseIdx mem)
  | settled answers _ after =>
    have resumed := (sound.threads pod _ answers.member).resumed sound.ordered answers
    rw [← after] at resumed
    refine memory_settled (WaitedMemory _ slack next.toLedger) sound answers ?_ ?_ old
    · intro edit memory allowed known handle attempt mem
      rcases mem_spawned_edit mem with before | rfl
      · exact known handle attempt before
      · exact launchable_of_beginExecutionStart timed resumed allowed
    · intro handle memory known
      exact known

theorem Waited.threads_of_step (waited : Waited deployment created slack world)
    (stepped : step deployment action world = some next) :
    AllThreads (WaitedThread (waitOf deployment created) slack) next := by
  have change := storeChange_of_step waited.lived.sound stepped
  refine allThreads_of_step ?_ ?_ ?_ ?_ waited.threads stepped
  · intro pod thread known handle attempt mem
    exact (known handle attempt mem).of_storeChange change
  · intro pod controller _
    constructor
    · intro handle attempt mem
      cases mem
    · intro handle attempt mem
      cases mem
  · intro pod goroutine spawned handle attempt mem
    cases List.mem_singleton.mp mem
    rcases spawned with spawned | ⟨other, _⟩
    · exact waited.spawned pod handle attempt spawned
    · cases other
  · intro pod i reply thread request rest answer answers _ after known handle attempt mem
    rcases List.mem_cons.mp mem with same | old
    · cases same
      cases (answerCall_arguments _ _ _).symm.trans answers.answered
    · exact (known handle attempt old).of_storeChange change

/-- A guarded step keeps the backoff. -/
theorem waited_of_step (guarded : refreshesBackoff slack action world = true)
    (waited : Waited deployment created slack world)
    (stepped : step deployment action world = some next) :
    Waited deployment created slack next where
  lived := lived_of_step waited.lived stepped
  timed := waited.timed_of_step guarded stepped
  spawned := waited.spawned_of_step (waited.timed_of_step guarded stepped) stepped
  threads := waited.threads_of_step stepped

theorem waited_initial (deployment : Deployment) {created : Run} (new : IsNew created)
    (slack : Duration) (clock : Time) :
    Waited deployment created slack (World.initial created clock) where
  lived := lived_initial deployment new clock
  timed := by
    have blank : created.status.conditions = [] := by
      rcases new with status | status <;> simp [status]
    refine ⟨?_, ?_, ?_, ?_, ?_, ?_⟩
    · intro event mem
      cases mem
    · intro event mem
      cases mem
    · intro version mem
      rcases List.mem_singleton.mp mem with rfl
      exact le_rfl
    · intro version mem since waiting
      have same : version = created := List.mem_singleton.mp mem
      rw [same, blank] at waiting
      cases waiting
    · intro version mem
      refine .inr ?_
      intro event none
      cases none
    · intro event mem
      cases mem
  spawned pod handle attempt mem := by cases mem
  threads pod thread mem := by cases mem

/-- If every write that raises the attempt begins its backoff, up to `slack`, no attempt is
claimed or executed more than `slack` before the end of its backoff. -/
theorem honoursBackoff_of_guarded_run (deployment : Deployment) {created : Run}
    (new : IsNew created) (slack : Duration) {clock : Time} {actions : List Action}
    {world : World}
    (ran : run (restrict (fun action world => refreshesBackoff slack action world = true)
      (step deployment)) actions (World.initial created clock) = some world) :
    HonoursBackoff (backoff deployment.platform (withDefaults created.spec.retryPolicy)) slack
      world.log :=
  (invariant_of_guarded_run _ _ (Waited deployment created slack) waited_of_step
    (waited_initial deployment new slack clock) ran).timed.honours

end Waited

/-! ## A second failure during the backoff -/

/-- A task with three attempts and a backoff of ten seconds. -/
def patientRun : Run :=
  smallRunWith ⟨true, none, none⟩ (some ⟨3, 10 * second, []⟩)

/-- A claimed task loses its Pod, and another Pod claims it after the backoff. -/
def movedActions : List Action :=
  [.schedule 0 .backfill] ++ bindTo Scheduler.smallPod 0 ++ claimOn "runtime-0" ++
    [.tick (10 * second), .reap 0 none (10 * second) (10 * second), .tick (20 * second)] ++
    bindTo Scheduler.sparePod (20 * second) ++ claimOn "runtime-1"

theorem honoursBackoff_movedActions :
    ∃ world, run (restrict
        (fun action world => refreshesBackoff 0 action world = true)
        (step smallDeployment)) movedActions
        (World.initial patientRun 0) = some world ∧
      HonoursBackoff (backoff smallDeployment.platform (withDefaults patientRun.spec.retryPolicy)) 0
        world.log := by
  refine exists_reached (fun _ => True) (by decide +kernel) fun world ran _ => ?_
  exact honoursBackoff_of_guarded_run smallDeployment (by decide) 0 ran

/-- The source cannot be prepared at ten seconds, and nine seconds later the Pod is gone. -/
def failedTwiceActions : List Action :=
  [.schedule 0 .backfill] ++ bindTo Scheduler.smallPod 0 ++ [.tick (10 * second)] ++
    .trigger "runtime-0" :: advances "runtime-0" unpreparedReplies ++
    [.tick (19 * second), .reap 0 none (19 * second) (19 * second), .tick (30 * second)] ++
    bindTo Scheduler.sparePod (30 * second) ++ claimOn "runtime-1"

/-- The event starts the attempt before the backoff that `raise` began. -/
def rushes (wait : Int → Duration) (raise start : Event) : Bool :=
  match raise.raised, start.started with
  | some (attempt, raisedAt), some (number, startedAt) =>
    attempt == number && decide (startedAt < raisedAt + wait attempt)
  | _, _ => false

theorem not_honoursBackoff_of_rushes {wait : Int → Duration} {log : List Event}
    (rushed : (log.any fun raise => log.any (rushes wait raise)) = true) :
    ¬ HonoursBackoff wait 0 log := by
  intro honours
  obtain ⟨raise, raiseMember, rest⟩ := List.any_eq_true.mp rushed
  obtain ⟨start, startMember, rush⟩ := List.any_eq_true.mp rest
  unfold rushes at rush
  split at rush
  next raised started =>
    obtain ⟨same, early⟩ := Bool.and_eq_true_iff.mp rush
    obtain rfl := beq_iff_eq.mp same
    have late := honours raise raiseMember start startMember _ _ _ raised started
    have before := of_decide_eq_true early
    linarith
  · cases rush

/-- The reset at nineteen seconds raises the attempt to 3, whose backoff is twenty seconds,
but leaves the transition time of ten seconds: the attempt is claimed at thirty. -/
theorem exists_not_honoursBackoff :
    ∃ actions world, run (step smallDeployment) actions (World.initial patientRun 0) = some world ∧
      ¬ HonoursBackoff
        (backoff smallDeployment.platform (withDefaults patientRun.spec.retryPolicy)) 0
        world.log := by
  refine ⟨failedTwiceActions, exists_reached (fun world => (world.log.any fun raise =>
    world.log.any (rushes (waitOf smallDeployment patientRun) raise)) = true)
    (by decide +kernel) ?_⟩
  exact fun _ _ rushed => not_honoursBackoff_of_rushes rushed

end Kruntimes.Lifecycle
