import Kruntimes.Lifecycle.Writes

/-!
# The course of a Run

What all components together are meant to do with a Run, as transitions of its phase, its
attempt and its assignment.  Every stored status continues the course of the one before:
the writes of the scheduler, of the reaper and of every runtimed refine `Progress`.
-/

namespace Kruntimes.Lifecycle

open Api Transition Runtimed

variable {action : Action} {deployment : Deployment} {attempt : Int} {ledger : Ledger}
  {platform : Platform} {base created other : Run} {now : Time} {world next : World}

/-! ## The abstract machine -/

/-- How far a Run has come. -/
structure Course where
  phase : RunPhase
  attempt : Int
  assignedPod : String
  assignedPodUID : String
  deriving DecidableEq

/-- The transitions, for a number of attempts.  Only a long-lived Run, a Session or a
Function, becomes ready and is finalized. -/
inductive Progress (limit : Int) (longLived : Bool) (course : Course) : Course → Prop
  | keep : Progress limit longLived course course
  | enqueue (pending : course.phase.isPending = true) :
      Progress limit longLived course { course with phase := .pending }
  | abort {phase : RunPhase} (pending : course.phase.isPending = true)
      (terminal : phase.isTerminal = true) : Progress limit longLived course { course with phase }
  | bind {pod uid : String} (pending : course.phase.isPending = true) (named : pod ≠ "")
      (identified : uid ≠ "") :
      Progress limit longLived course
        { course with phase := .scheduled, assignedPod := pod, assignedPodUID := uid }
  | claim (scheduled : course.phase = .scheduled) :
      Progress limit longLived course { course with phase := .running }
  | ready (serves : longLived = true) (running : course.phase = .running) :
      Progress limit longLived course { course with phase := .ready }
  | finalize (serves : longLived = true)
      (serving : course.phase = .running ∨ course.phase = .ready) :
      Progress limit longLived course { course with phase := .finalizing }
  | retry (serving : course.phase = .running ∨ course.phase = .ready)
      (left : currentAttempt course.attempt < limit) :
      Progress limit longLived course { course with attempt := currentAttempt course.attempt + 1 }
  | reset (claimed : Reaper.isStaleMonitoredRunPhase course.phase = true)
      (left : currentAttempt course.attempt < limit) :
      Progress limit longLived course ⟨.pending, currentAttempt course.attempt + 1, "", ""⟩
  | finish {phase : RunPhase} (active : course.phase.isActive = true)
      (terminal : phase.isTerminal = true) :
      Progress limit longLived course
        { course with phase, attempt := currentAttempt course.attempt }

/-- What holds in every course that began with a new Run. -/
structure Lawful (limit : Int) (longLived : Bool) (course : Course) : Prop where
  nonneg : 0 ≤ course.attempt
  bounded : course.attempt ≤ limit
  unassigned : course.phase.isPending = true → course.assignedPod = "" ∧ course.assignedPodUID = ""
  assigned : course.phase.isActive = true → course.assignedPod ≠ "" ∧ course.assignedPodUID ≠ ""
  fresh : course.phase = .unset → course.attempt = 0
  serves : course.phase = .ready ∨ course.phase = .finalizing → longLived = true

section Progress

variable {limit : Int} {longLived : Bool} {course next : Course}

theorem le_currentAttempt (attempt : Int) : attempt ≤ currentAttempt attempt := by
  unfold currentAttempt
  split <;> omega

theorem currentAttempt_le (nonneg : 0 ≤ attempt) :
    currentAttempt attempt ≤ max attempt 1 := by
  unfold currentAttempt
  split <;> omega

theorem one_le_currentAttempt (nonneg : 0 ≤ attempt) :
    1 ≤ currentAttempt attempt := by
  unfold currentAttempt
  split <;> omega

theorem currentAttempt_of_one_le (positive : 1 ≤ attempt) :
    currentAttempt attempt = attempt := by
  unfold currentAttempt
  split <;> omega

theorem currentAttempt_succ (nonneg : 0 ≤ attempt) :
    currentAttempt (currentAttempt attempt + 1) = currentAttempt attempt + 1 := by
  have positive := one_le_currentAttempt nonneg
  exact currentAttempt_of_one_le (by omega)

theorem currentAttempt_currentAttempt (nonneg : 0 ≤ attempt) :
    currentAttempt (currentAttempt attempt) = currentAttempt attempt :=
  currentAttempt_of_one_le (one_le_currentAttempt nonneg)

/-- The number of the attempt stays or advances by one. -/
theorem Progress.number_eq (progress : Progress limit longLived course next)
    (nonneg : 0 ≤ course.attempt) :
    currentAttempt next.attempt = currentAttempt course.attempt ∨
      currentAttempt next.attempt = currentAttempt course.attempt + 1 := by
  cases progress with
  | retry | reset => exact .inr (currentAttempt_succ nonneg)
  | finish => exact .inl (currentAttempt_currentAttempt nonneg)
  | _ => exact .inl rfl

/-- Without an attempt left the number stays. -/
theorem Progress.number_of_limit (progress : Progress limit longLived course next)
    (nonneg : 0 ≤ course.attempt) (spent : limit ≤ currentAttempt course.attempt) :
    currentAttempt next.attempt = currentAttempt course.attempt := by
  cases progress with
  | retry | reset => omega
  | finish => exact currentAttempt_currentAttempt nonneg
  | _ => rfl

/-- A task that runs or has ended does so until its next attempt. -/
theorem Progress.of_claimed (progress : Progress limit false course next)
    (nonneg : 0 ≤ course.attempt)
    (claimed : course.phase = .running ∨ course.phase.isTerminal = true)
    (same : currentAttempt next.attempt = currentAttempt course.attempt) :
    next.phase = .running ∨ next.phase.isTerminal = true := by
  cases progress with
  | keep | retry => exact claimed
  | enqueue pending | bind pending =>
    rcases claimed with running | terminal
    · rw [running] at pending
      cases pending
    · cases (RunPhase.isPending_of_isTerminal terminal).symm.trans pending
  | abort _ terminal | finish _ terminal => exact .inr terminal
  | claim => exact .inl rfl
  | ready serves | finalize serves => cases serves
  | reset =>
    have raised := (currentAttempt_succ nonneg).symm.trans same
    omega

section Progress

variable (progress : Progress limit longLived course next)

include progress

/-- Transitions keep the laws. -/
theorem Progress.lawful (positive : 1 ≤ limit) (lawful : Lawful limit longLived course) :
    Lawful limit longLived next := by
  obtain ⟨nonneg, bounded, unassigned, assigned, fresh, served⟩ := lawful
  have known := one_le_currentAttempt nonneg
  have low := currentAttempt_le nonneg
  cases progress with
  | keep => exact ⟨nonneg, bounded, unassigned, assigned, fresh, served⟩
  | enqueue pending => exact ⟨nonneg, bounded, fun _ => unassigned pending, nofun, nofun, nofun⟩
  | abort pending terminal =>
    refine ⟨nonneg, bounded, fun _ => unassigned pending, ?_, ?_, ?_⟩
    · intro active
      cases (RunPhase.isActive_of_isTerminal terminal).symm.trans active
    · rintro rfl
      cases terminal
    · rintro (rfl | rfl) <;> cases terminal
  | bind pending named identified =>
    exact ⟨nonneg, bounded, nofun, fun _ => ⟨named, identified⟩, nofun, nofun⟩
  | claim scheduled =>
    exact ⟨nonneg, bounded, nofun, fun _ => assigned (by rw [scheduled]; rfl), nofun, nofun⟩
  | ready serves running =>
    exact ⟨nonneg, bounded, nofun, fun _ => assigned (by rw [running]; rfl), nofun, fun _ => serves⟩
  | finalize serves serving =>
    have active : course.phase.isActive = true := by
      rcases serving with running | ready
      · rw [running]; rfl
      · rw [ready]; rfl
    exact ⟨nonneg, bounded, nofun, fun _ => assigned active, nofun, fun _ => serves⟩
  | retry serving =>
    refine ⟨?_, ?_, unassigned, assigned, ?_, served⟩
    · change 0 ≤ currentAttempt course.attempt + 1
      omega
    · change currentAttempt course.attempt + 1 ≤ limit
      omega
    · intro unset
      rcases serving with running | ready
      · cases running.symm.trans unset
      · cases ready.symm.trans unset
  | reset =>
    refine ⟨?_, ?_, fun _ => ⟨rfl, rfl⟩, nofun, nofun, nofun⟩
    · change 0 ≤ currentAttempt course.attempt + 1
      omega
    · change currentAttempt course.attempt + 1 ≤ limit
      omega
  | finish active terminal =>
    refine ⟨?_, ?_, ?_, ?_, ?_, ?_⟩
    · change 0 ≤ currentAttempt course.attempt
      omega
    · change currentAttempt course.attempt ≤ limit
      omega
    · intro pending
      cases (RunPhase.isPending_of_isTerminal terminal).symm.trans pending
    · intro ongoing
      cases (RunPhase.isActive_of_isTerminal terminal).symm.trans ongoing
    · rintro rfl
      cases terminal
    · rintro (rfl | rfl) <;> cases terminal

/-- The attempt is never taken back. -/
theorem Progress.attempt_le : course.attempt ≤ next.attempt := by
  have known := le_currentAttempt course.attempt
  cases progress with
  | retry | reset => exact known.trans (Int.le_add_one le_rfl)
  | finish => exact known
  | _ => exact le_rfl

/-- The attempt advances one by one. -/
theorem Progress.attempt_le_succ (nonneg : 0 ≤ course.attempt) :
    next.attempt ≤ max course.attempt 1 + 1 := by
  have known := currentAttempt_le nonneg
  have low : course.attempt ≤ max course.attempt 1 := le_max_left _ _
  cases progress with
  | retry | reset => exact Int.add_le_add_right known 1
  | finish => exact known.trans (Int.le_add_one le_rfl)
  | _ => exact low.trans (Int.le_add_one le_rfl)

/-- A terminal phase is never left. -/
theorem Progress.phase_of_isTerminal (terminal : course.phase.isTerminal = true) :
    next.phase = course.phase := by
  have notPending := RunPhase.isPending_of_isTerminal terminal
  have notActive := RunPhase.isActive_of_isTerminal terminal
  cases progress with
  | keep | retry => rfl
  | enqueue pending | abort pending | bind pending => cases notPending.symm.trans pending
  | claim scheduled | ready _ scheduled => simp [scheduled, RunPhase.isActive] at notActive
  | finalize _ serving =>
    rcases serving with phase | phase <;> simp [phase, RunPhase.isActive] at notActive
  | reset claimed =>
    cases notActive.symm.trans (Reaper.isActive_of_isStaleMonitoredRunPhase claimed)
  | finish active => cases notActive.symm.trans active

/-- A raised attempt is not bound. -/
theorem Progress.phase_of_attempt_lt (raised : course.attempt < next.attempt) :
    next.phase ≠ .scheduled := by
  cases progress with
  | retry serving =>
    intro bound
    rcases serving with phase | phase
    · cases phase.symm.trans bound
    · cases phase.symm.trans bound
  | reset => exact nofun
  | finish _ terminal =>
    rintro rfl
    cases terminal
  | _ => exact absurd raised (lt_irrefl _)

/-- A claim keeps the attempt. -/
theorem Progress.attempt_of_claim (scheduled : course.phase = .scheduled)
    (running : next.phase = .running) : next.attempt = course.attempt := by
  cases progress with
  | retry serving =>
    rcases serving with phase | phase
    · cases phase.symm.trans scheduled
    · cases phase.symm.trans scheduled
  | reset => cases running
  | finish _ terminal =>
    subst running
    cases terminal
  | _ => rfl

/-- A pending Run waits on, ends, or is bound. -/
theorem Progress.of_isPending (pending : course.phase.isPending = true) :
    (next.phase.isPending = true ∧ next.assignedPod = course.assignedPod) ∨
      next.phase.isTerminal = true ∨ next.phase = .scheduled := by
  cases progress with
  | keep | retry => exact .inl ⟨pending, rfl⟩
  | enqueue => exact .inl ⟨rfl, rfl⟩
  | abort _ terminal | finish _ terminal => exact .inr (.inl terminal)
  | bind => exact .inr (.inr rfl)
  | claim scheduled | ready _ scheduled => simp [scheduled, RunPhase.isPending] at pending
  | finalize _ serving =>
    rcases serving with phase | phase <;> simp [phase, RunPhase.isPending] at pending
  | reset claimed =>
    have active := Reaper.isActive_of_isStaleMonitoredRunPhase claimed
    cases (RunPhase.isPending_of_isActive active).symm.trans pending

/-- An active Run advances on its Pod, ends, or returns to Pending without an
assignment. -/
theorem Progress.of_isActive (active : course.phase.isActive = true) :
    (next.phase.isActive = true ∧ next.assignedPod = course.assignedPod) ∨
      next.phase.isTerminal = true ∨ (next.phase = .pending ∧ next.assignedPod = "") := by
  have notPending := RunPhase.isPending_of_isActive active
  cases progress with
  | keep | retry => exact .inl ⟨active, rfl⟩
  | enqueue pending | bind pending => cases notPending.symm.trans pending
  | abort _ terminal | finish _ terminal => exact .inr (.inl terminal)
  | claim | ready | finalize => exact .inl ⟨rfl, rfl⟩
  | reset => exact .inr (.inr ⟨rfl, rfl⟩)

end Progress

end Progress

/-! ## Refinement -/

/-- The course of a stored status. -/
def course (status : RunStatus) : Course :=
  ⟨status.phase, status.attempt, status.assignedPod, status.assignedPodUID⟩

/-- The number of attempts that a Run is allowed. -/
def attemptLimit (run : Run) : Int :=
  (withDefaults run.spec.retryPolicy).maxAttempts

/-- The Run is a Session or a Function. -/
def isLongLived (run : Run) : Bool :=
  run.spec.mode.session.isSome || run.spec.mode.function.isSome

section FixedSpec

variable {run : Run} (same : run.fixedSpec = other.fixedSpec)

include same

theorem isLongLived_of_fixedSpec :
    isLongLived run = isLongLived other := by
  have mode : run.spec.mode = other.spec.mode := by
    have mode := congrArg RunSpec.mode same
    exact mode
  rw [isLongLived, mode, isLongLived]

theorem retryPolicy_of_fixedSpec :
    run.spec.retryPolicy = other.spec.retryPolicy := by
  have policy := congrArg RunSpec.retryPolicy same
  exact policy

theorem attemptLimit_of_fixedSpec :
    attemptLimit run = attemptLimit other := by
  rw [attemptLimit, retryPolicy_of_fixedSpec same, attemptLimit]

end FixedSpec

theorem course_of_sameCourse {run : Run} (same : SameCourse base run) :
    course run.status = course base.status := by
  unfold course
  rw [same.phase, same.attempt, same.assignedPod, same.assignedPodUID]

/-- The decisions of the scheduler continue the course. -/
theorem progress_of_decided {run chosen : Run} {decision : Decision} {limit : Int}
    {longLived : Bool} (made : decided platform run decision = some chosen) :
    Progress limit longLived (course run.status) (course chosen.status) := by
  cases decided_cases made with
  | backfill =>
    by_cases unset : run.status.phase = .unset
    · have pending : (course run.status).phase.isPending = true := by
        change run.status.phase.isPending = true
        rw [unset]
        rfl
      simpa [course, unset] using Progress.enqueue pending
    · simpa [course, unset] using Progress.keep
  | terminate pending terminal => exact .abort pending terminal
  | wait admitted => exact .enqueue (isPending_of_isAdmitted admitted)
  | fail admitted => exact .abort (isPending_of_isAdmitted admitted) rfl
  | @bind _ _ pod admitted =>
    exact .bind (isPending_of_isAdmitted admitted) pod.name_ne_empty pod.uid_ne_empty

/-- The scheduler leaves the course of a Run that does not wait for it. -/
theorem course_of_decided {run chosen : Run} {decision : Decision}
    (started : run.status.phase.isPending = false)
    (made : decided platform run decision = some chosen) :
    course chosen.status = course run.status := by
  cases decided_cases made with
  | backfill =>
    have set : run.status.phase ≠ .unset := by
      intro unset
      rw [unset] at started
      cases started
    simp [course, set]
  | terminate pending => cases started.symm.trans pending
  | wait admitted | fail admitted | bind admitted =>
    cases started.symm.trans (isPending_of_isAdmitted admitted)

/-- The verdicts of the reaper continue the course. -/
theorem progress_of_handleStaleRun {reaper : Reaper.StaleRunReaper} {run : Run} {pod : Option Pod}
    {recorded : Time} {verdict : Reaper.Verdict}
    (found : Reaper.reconcile reaper run pod now = some verdict) :
    Progress (attemptLimit run) (isLongLived run) (course run.status)
      (course (Reaper.handleStaleRun run verdict recorded).status) := by
  have monitored : Reaper.isStaleMonitoredRunPhase run.status.phase = true :=
    (Bool.and_eq_true_iff.mp (Reaper.runningRunPredicate_of_reconcile found)).1
  unfold Reaper.handleStaleRun
  split
  next retries =>
    exact .reset monitored (attempt_lt_of_shouldRetry retries)
  · exact .finish (Reaper.isActive_of_isStaleMonitoredRunPhase monitored) rfl

section StatusChanges

variable (run : Run) (time : Time)

theorem course_claimStatus :
    course (claimStatus run time).status = { course run.status with phase := .running } := by
  unfold claimStatus
  split <;> rfl

theorem course_retryingStatus :
    course (retryingStatus run time).status = course run.status := by
  unfold retryingStatus
  split <;> rfl

theorem course_successStatus (outputs : Labels) (artifactRefs : List ArtifactRef) :
    course (successStatus run outputs artifactRefs time).status = { course run.status with
        phase := .succeeded, attempt := currentAttempt (course run.status).attempt } :=
  rfl

theorem course_retryStatus (reason message : String) :
    course (retryStatus run reason message time).status = { course run.status with
        attempt := currentAttempt (course run.status).attempt + 1 } :=
  rfl

theorem course_terminalStatus (phase : RunPhase) (reason message : String) :
    course (terminalStatus run phase reason message time).status = { course run.status with
        phase, attempt := currentAttempt (course run.status).attempt } :=
  rfl

end StatusChanges

section StatusWrites

variable {history : History} {controller : Controller} {run : Run} {thereafter : List Edit}
  (write : StatusWrite controller history base run thereafter)

include write

/-- The updates of runtimed continue the course. -/
theorem progress_of_statusWrite :
    Progress (attemptLimit base) (isLongLived base) (course base.status) (course run.status) := by
  cases write with
  | claim phase =>
    rw [course_claimStatus]
    exact .claim phase
  | observe phase same =>
    rw [course_of_sameCourse same]
    exact .keep
  | resume =>
    rw [course_retryingStatus]
    exact .keep
  | succeed phase same =>
    rw [course_successStatus, course_of_sameCourse same]
    exact .finish (by rw [course, phase]; rfl) rfl
  | retry phase same retries =>
    rw [course_retryStatus, course_of_sameCourse same]
    exact .retry phase (attempt_lt_of_shouldRetry retries)
  | finish active same cause =>
    rw [course_terminalStatus, course_of_sameCourse same]
    exact .finish active cause.isTerminal
  | sessionReady phase session | functionReady phase session =>
    exact .ready (by simp [isLongLived, session]) phase
  | finalize phase session => exact .finalize (by simp [isLongLived, session]) phase

/-- Runtimed stores the phases of a claimed Run, and terminal ones. -/
theorem claimed_or_terminal_of_statusWrite :
    Reaper.isStaleMonitoredRunPhase run.status.phase = true ∨
      run.status.phase.isTerminal = true := by
  cases write with
  | @claim time phase found =>
    left
    rw [show (claimStatus base time).status.phase = .running from
      congrArg Course.phase (course_claimStatus base time)]
    rfl
  | observe phase same =>
    left
    rcases phase with phase | phase <;> rw [same.phase, phase] <;> rfl
  | @resume _ _ _ time phase found waiting failed read elapsed =>
    left
    rw [show (retryingStatus base time).status.phase = .running from
      (congrArg Course.phase (course_retryingStatus base time)).trans phase]
    rfl
  | succeed => exact .inr rfl
  | @retry kept reason message time phase same retries cause =>
    left
    change Reaper.isStaleMonitoredRunPhase kept.status.phase = true
    rcases phase with phase | phase <;> rw [same.phase, phase] <;> rfl
  | finish active same cause => exact .inr cause.isTerminal
  | sessionReady | functionReady | finalize => exact .inl rfl

end StatusWrites

theorem progress_of_write {writer : Writer} {status : RunStatus} {polled : Option Int}
    (write : Write deployment world writer status polled) :
    Progress (attemptLimit world.stored) (isLongLived world.stored)
      (course world.stored.status) (course status) := by
  cases write with
  | scheduler made => exact progress_of_decided made
  | reaper found => exact progress_of_handleStaleRun found
  | runtimed mem holds write => exact progress_of_statusWrite write

/-- Every change of the ledger continues the course of the stored Run. -/
theorem progress_of_storeChange (change : StoreChange deployment world ledger) :
    Progress (attemptLimit world.stored) (isLongLived world.stored)
      (course world.stored.status) (course ledger.stored.status) := by
  cases change with
  | idle | executed | queried => exact .keep
  | @amended run _ present key name status spec version =>
    change Progress _ _ _ (course run.status)
    rw [status]
    exact .keep
  | wrote present write =>
    have progress := progress_of_write write
    exact progress

theorem fixedSpec_of_storeChange (change : StoreChange deployment world ledger) :
    ledger.stored.fixedSpec = world.stored.fixedSpec := by
  cases change with
  | amended present key name status spec => exact spec
  | _ => rfl

/-- The stored Run keeps its specification and the laws of its course. -/
structure LawfulRun (created run : Run) : Prop where
  fixedSpec : run.fixedSpec = created.fixedSpec
  lawful : Lawful (attemptLimit created) (isLongLived created) (course run.status)

theorem lawfulRun_of_isNew (new : IsNew created) :
    LawfulRun created created where
  fixedSpec := rfl
  lawful := by
    have positive := one_le_maxAttempts_withDefaults created.spec.retryPolicy
    have bounded : 0 ≤ attemptLimit created := by
      unfold attemptLimit
      omega
    rcases new with status | status
    · rw [status]
      exact ⟨le_rfl, bounded, fun _ => ⟨rfl, rfl⟩, nofun, nofun, nofun⟩
    · rw [status]
      exact ⟨le_rfl, bounded, fun _ => ⟨rfl, rfl⟩, nofun, fun _ => rfl, nofun⟩

/-- Every version keeps the laws. -/
def LawfulVersions (created : Run) (ledger : Ledger) : Prop :=
  ∀ version ∈ ledger.versions, LawfulRun created version

theorem StoreChange.lawfulRun (change : StoreChange deployment world ledger)
    (lawful : LawfulRun created world.stored) : LawfulRun created ledger.stored where
  fixedSpec := (fixedSpec_of_storeChange change).trans lawful.fixedSpec
  lawful := by
    have progress := progress_of_storeChange change
    rw [attemptLimit_of_fixedSpec lawful.fixedSpec,
      isLongLived_of_fixedSpec lawful.fixedSpec] at progress
    exact progress.lawful (one_le_maxAttempts_withDefaults _) lawful.lawful

/-- Steps keep the laws of every version. -/
theorem lawfulVersions_of_step (sound : Sound deployment world)
    (lawful : LawfulVersions created world.toLedger)
    (stepped : step deployment action world = some next) :
    LawfulVersions created next.toLedger := by
  have change := storeChange_of_step sound stepped
  have newest := change.lawfulRun (lawful _ (.head _))
  intro version mem
  rcases mem_versions_of_storeChange change mem with rfl | old
  · exact newest
  · exact lawful version old

/-! ## Reachable worlds -/

/-- What is known about every reachable world. -/
structure Lived (deployment : Deployment) (created : Run) (world : World) : Prop where
  sound : Sound deployment world
  lawful : LawfulVersions created world.toLedger

theorem lived_of_step (lived : Lived deployment created world)
    (stepped : step deployment action world = some next) : Lived deployment created next where
  sound := sound_of_step lived.sound stepped
  lawful := lawfulVersions_of_step lived.sound lived.lawful stepped

theorem lived_initial (deployment : Deployment) (new : IsNew created) (clock : Time) :
    Lived deployment created (World.initial created clock) where
  sound := sound_initial deployment created clock
  lawful version mem := by
    rcases List.mem_singleton.mp mem with rfl
    exact lawfulRun_of_isNew new

/-- Every reachable world is sound and lawful. -/
theorem lived_of_run {actions : List Action} {clock : Time} (new : IsNew created)
    (ran : run (step deployment) actions (World.initial created clock) = some world) :
    Lived deployment created world :=
  invariant_of_run lived_of_step (lived_initial deployment new clock) ran

/-! ## What the scheduler assumes of the others -/

/-- Outside of a binding, the course of a lawful Run is one that the scheduler's model
admits from the other controllers. -/
theorem statusStep_of_progress {limit bound : Int} {longLived serves : Bool} {old new : Run}
    (lawful : Lawful bound serves (course old.status))
    (progress : Progress limit longLived (course old.status) (course new.status))
    (unbound : new.status.phase = .scheduled → old.status.phase.isPending = false) :
    Scheduler.StatusStep old new := by
  cases pending : old.status.phase.isPending with
  | true =>
    have unassigned := (lawful.unassigned pending).1
    refine .inl ⟨(Run.isUnassignedPending_iff old).mpr ⟨pending, unassigned⟩, ?_⟩
    rcases progress.of_isPending pending with ⟨waits, same⟩ | terminal | scheduled
    · exact .inl ((Run.isUnassignedPending_iff new).mpr ⟨waits, same.trans unassigned⟩)
    · exact .inr terminal
    · cases (unbound scheduled).symm.trans pending
  | false =>
    cases terminal : old.status.phase.isTerminal with
    | true => exact .inr (.inr ⟨terminal, progress.phase_of_isTerminal terminal⟩)
    | false =>
      have active := (RunPhase.isActive_iff _).mpr ⟨pending, terminal⟩
      refine .inr (.inl ⟨active, ?_⟩)
      rcases progress.of_isActive active with advanced | ended | ⟨waits, unassigned⟩
      · exact .inl advanced
      · exact .inr (.inl ended)
      have isPending : new.status.phase.isPending = true := by
        change (course new.status).phase.isPending = true
        rw [waits]
        rfl
      exact .inr (.inr ((Run.isUnassignedPending_iff new).mpr ⟨isPending, unassigned⟩))

/-- Whatever happens to a Run besides its bindings is a life-cycle step of the scheduler's
model. -/
theorem lifecycleStep_of_step (lived : Lived deployment created world)
    (stepped : step deployment action world = some next) (changed : next.stored ≠ world.stored)
    (unbound : next.stored.status.phase = .scheduled →
      world.stored.status.phase.isPending = false) :
    Scheduler.LifecycleStep world.stored next.stored := by
  have change := storeChange_of_step lived.sound stepped
  have status := statusStep_of_progress (lived.lawful _ (.head _)).lawful
    (progress_of_storeChange change) unbound
  generalize next.toLedger = ledger at change status changed
  cases change with
  | idle | executed | queried => exact absurd rfl changed
  | amended present key name _ spec version => exact ⟨key, name, spec, version, status⟩
  | wrote => exact ⟨rfl, rfl, rfl, rfl, status⟩

/-! ## Attempts -/

/-- In every step of every interleaving the recorded attempt does not fall, advances by at
most one, stays within the policy, and a terminal phase stays. -/
theorem attempt_bounds_of_step (deployment : Deployment) {created : Run} (new : IsNew created)
    {clock : Time} {actions : List Action} {world next : World} {action : Action}
    (ran : run (step deployment) actions (World.initial created clock) = some world)
    (stepped : step deployment action world = some next) :
    world.stored.status.attempt ≤ next.stored.status.attempt ∧
      next.stored.status.attempt ≤ max world.stored.status.attempt 1 + 1 ∧
      next.stored.status.attempt ≤
        created.spec.retryPolicy.elim 1 (fun policy => max policy.maxAttempts 1) ∧
      (world.stored.status.phase.isTerminal = true →
        next.stored.status.phase = world.stored.status.phase) := by
  have lived := lived_of_run new ran
  have before := (lived.lawful _ (.head _)).lawful
  have after := ((lived_of_step lived stepped).lawful _ (.head _)).lawful
  have progress := progress_of_storeChange (storeChange_of_step lived.sound stepped)
  refine ⟨progress.attempt_le, progress.attempt_le_succ before.nonneg, ?_,
    progress.phase_of_isTerminal⟩
  have bounded : next.stored.status.attempt ≤ attemptLimit created := after.bounded
  cases policy : created.spec.retryPolicy with
  | none => simpa [attemptLimit, policy, withDefaults] using bounded
  | some policy => simpa [attemptLimit, policy, maxAttempts_withDefaults] using bounded

/-- A task is claimed. -/
def claimedActions : List Action :=
  [.schedule 0 .backfill] ++ bindTo Scheduler.smallPod 0 ++ claimOn "runtime-0"

/-- Its Pod disappears, and the reaper resets it. -/
theorem exists_reset :
    ∃ world next, run (step smallDeployment) claimedActions
        (World.initial (smallRunWith ⟨true, none, none⟩ (some ⟨2, second, []⟩)) 0) = some world ∧
      step smallDeployment (.reap 0 none 0 0) world = some next ∧
      world.stored.status.phase = .running ∧ next.stored.status.phase = .pending := by
  have performed : (run (step smallDeployment) claimedActions
      (World.initial (smallRunWith ⟨true, none, none⟩ (some ⟨2, second, []⟩)) 0)).any
        (fun world => decide (world.stored.status.phase = .running) &&
          (step smallDeployment (.reap 0 none 0 0) world).any fun next =>
            decide (next.stored.status.phase = .pending)) = true := by
    decide +kernel
  obtain ⟨world, ran, found⟩ := (Option.any_eq_true _ _).mp performed
  obtain ⟨running, found⟩ := Bool.and_eq_true_iff.mp found
  obtain ⟨next, stepped, pending⟩ := (Option.any_eq_true _ _).mp found
  exact ⟨world, next, ran, stepped, of_decide_eq_true running, of_decide_eq_true pending⟩

theorem attempt_bounds_lostPod :
    ∃ world next, run (step smallDeployment) claimedActions
        (World.initial (smallRunWith ⟨true, none, none⟩ (some ⟨2, second, []⟩)) 0) = some world ∧
      step smallDeployment (.reap 0 none 0 0) world = some next ∧
      world.stored.status.attempt ≤ next.stored.status.attempt ∧
      next.stored.status.attempt ≤ max world.stored.status.attempt 1 + 1 ∧
      next.stored.status.attempt ≤ max 2 1 ∧
      (world.stored.status.phase.isTerminal = true →
        next.stored.status.phase = world.stored.status.phase) := by
  obtain ⟨world, next, ran, stepped, _⟩ := exists_reset
  exact ⟨world, next, ran, stepped, attempt_bounds_of_step smallDeployment (by decide) ran stepped⟩

section

variable {actions : List Action} (new : IsNew created)
  (ran : run (step deployment) actions (World.initial created now) = some world)

include new ran

/-- Phase, attempt and assignment agree in every version that is ever stored. -/
theorem lawfulVersions_of_run : LawfulVersions created world.toLedger :=
  (lived_of_run new ran).lawful

/-- The components together keep to what the scheduler's model assumes of them. -/
theorem lifecycleStep_of_run (stepped : step deployment action world = some next)
    (changed : next.stored ≠ world.stored)
    (unbound : next.stored.status.phase = .scheduled →
      world.stored.status.phase.isPending = false) :
    Scheduler.LifecycleStep world.stored next.stored :=
  lifecycleStep_of_step (lived_of_run new ran) stepped changed unbound

end

theorem lawfulVersions_bound :
    ∃ world, run (step smallDeployment) ([.schedule 0 .backfill] ++ bindTo Scheduler.smallPod 0)
        (World.initial (smallRunWith ⟨true, none, none⟩ none) 0) = some world ∧
      LawfulVersions (smallRunWith ⟨true, none, none⟩ none) world.toLedger := by
  refine exists_reached (·.stored.status.phase = .scheduled) (by decide +kernel) ?_
  exact fun _ ran _ => lawfulVersions_of_run (by decide) ran

theorem lifecycleStep_reset :
    ∃ world next, run (step smallDeployment) claimedActions
        (World.initial (smallRunWith ⟨true, none, none⟩ (some ⟨2, second, []⟩)) 0) = some world ∧
      step smallDeployment (.reap 0 none 0 0) world = some next ∧
      world.stored.status.phase = .running ∧ next.stored.status.phase = .pending ∧
      Scheduler.LifecycleStep world.stored next.stored := by
  obtain ⟨world, next, ran, stepped, running, pending⟩ := exists_reset
  refine ⟨world, next, ran, stepped, running, pending,
    lifecycleStep_of_run (by decide) ran stepped ?_ (by simp [pending])⟩
  intro same
  cases pending.symm.trans ((congrArg (·.status.phase) same).trans running)

end Kruntimes.Lifecycle
