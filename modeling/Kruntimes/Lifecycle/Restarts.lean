import Kruntimes.Lifecycle.Fencing

/-!
# Sessions are not restarted

A Session that was Ready has state in its Pod that no other Pod can restore.  The reaper
applies one retry rule to all phases, so that a Ready or Finalizing Session with attempts left
goes back to the scheduler.  Where the policy leaves it no attempt, and every runtimed is
answered about its own Runs, such a Session stays on its Pod until it ends.
-/

namespace Kruntimes.Lifecycle

open Api Transition Runtimed

/-! ## The property -/

/-- The Run is Ready or Finalizing. -/
def isServing : RunPhase → Bool
  | .ready | .finalizing => true
  | _ => false

/-- `RegisterSession` was requested by another Pod. -/
def Event.registersOutside (pod : String) : Event → Bool
  | .queried other _ _ _ (.registerSession _) => other != pod
  | _ => false

/-- After a Run was stored as Ready or Finalizing, no other Pod registers it. -/
def Event.Follows (later earlier : Event) : Prop :=
  match earlier with
  | .wrote _ _ _ new _ =>
    isServing new.status.phase = true → later.registersOutside new.status.assignedPod = false
  | _ => True

/-- Whoever changes the phase of a Ready or Finalizing Run in place of its Pod ends it
without success. -/
def Event.EndsLost : Event → Prop
  | .wrote writer _ old new _ =>
    isServing old.status.phase = true → writer ≠ .runtimed old.status.assignedPod →
      new.status.phase = old.status.phase ∨
        (new.status.phase.isTerminal = true ∧ new.status.phase ≠ .succeeded)
  | _ => True

/-- A Run that was Ready or Finalizing is never again Pending or Scheduled, is registered by
no other Pod, and ends when its Pod is lost. -/
structure NeverRestarted (ledger : Ledger) : Prop where
  versions : ledger.versions.Pairwise fun later earlier =>
    isServing earlier.status.phase = true →
      later.status.phase ≠ .pending ∧ later.status.phase ≠ .scheduled
  registrations : ledger.log.Pairwise Event.Follows
  lost : ∀ event ∈ ledger.log, event.EndsLost

/-! ## The condition -/

/-- The reaper has no attempt left for the Run that it finds stale, if that is Ready or
Finalizing. -/
def endsStale (deployment : Deployment) (ledger : Ledger) (copy : Nat) (pod : Option Pod)
    (now : Time) : Bool :=
  (ledger.versions[copy]?).all fun run =>
    !isServing run.status.phase ||
      (Reaper.reconcile deployment.reaper run pod now).all fun verdict =>
        !shouldRetry (withDefaults run.spec.retryPolicy) (currentAttempt run.status.attempt)
          verdict.reason

/-- The reaper ends what served, `Get` returns Runs of the Pod, and a Session is registered
by the Pod to which it is assigned. -/
def keepsServing (deployment : Deployment) (action : Action) (world : World) : Bool :=
  match action with
  | .reap copy pod now _ => endsStale deployment world.toLedger copy pod now
  | .advance pod index reply =>
    match (world.nodes pod).threads[index]? with
    | none => true
    | some thread =>
      match thread.program with
      | .call .get _ => readsOwn world.toLedger pod reply
      | .call (.query (.registerSession _)) _ => world.stored.status.assignedPod == pod
      | _ => true
  | _ => true

/-! ## The course of a Run that served -/

/-- The Run serves or has ended. -/
def isEstablished (phase : RunPhase) : Bool :=
  isServing phase || phase.isTerminal

theorem isEstablished_iff (phase : RunPhase) :
    isEstablished phase = true ↔ phase ≠ .unset ∧ phase ≠ .pending ∧ phase ≠ .scheduled ∧
      phase ≠ .running := by
  cases phase <;> simp [isEstablished, isServing, RunPhase.isTerminal]

theorem isPending_of_isEstablished {phase : RunPhase} (established : isEstablished phase = true) :
    phase.isPending = false := by
  cases phase <;> first | rfl | cases established

/-- An established Run stays so on its Pod, unless the reaper resets it. -/
theorem Progress.of_isEstablished {limit : Int} {longLived : Bool} {course next : Course}
    (progress : Progress limit longLived course next)
    (established : isEstablished course.phase = true) (unreset : next.phase ≠ .pending) :
    isEstablished next.phase = true ∧ next.assignedPod = course.assignedPod := by
  have waits := isPending_of_isEstablished established
  cases progress with
  | keep | retry => exact ⟨established, rfl⟩
  | enqueue pending | abort pending | bind pending => cases waits.symm.trans pending
  | claim scheduled | ready _ scheduled =>
    rw [scheduled] at established
    cases established
  | finalize => exact ⟨rfl, rfl⟩
  | reset => exact absurd rfl unreset
  | finish _ terminal => exact ⟨by simp [isEstablished, terminal], rfl⟩

/-- The scheduler does not touch the phase of an established Run. -/
theorem phase_of_decided {platform : Platform} {run chosen : Run} {decision : Decision}
    (made : decided platform run decision = some chosen)
    (established : isEstablished run.status.phase = true) :
    chosen.status.phase = run.status.phase :=
  congrArg Course.phase (course_of_decided (isPending_of_isEstablished established) made)

/-! ## Steps -/

section Steps

variable {deployment : Deployment} {action : Action} {world next : World}

/-- A guarded step does not reset an established Run. -/
theorem unreset_of_step (guarded : keepsServing deployment action world = true)
    (sound : Sound deployment world) (stepped : step deployment action world = some next)
    (established : isEstablished world.stored.status.phase = true) :
    next.stored.status.phase ≠ .pending := by
  have kept : world.stored.status.phase ≠ .pending := ((isEstablished_iff _).mp established).2.1
  cases change_of_step stepped with
  | schedule read made accepted =>
    have stored := decided_stored sound read made accepted
    exact (phase_of_decided stored established).trans_ne kept
  | @reap copy pod now recorded run verdict read found accepted timely named unmarked =>
    obtain ⟨_, version⟩ := (Ledger.accepts_iff _).mp accepted
    obtain rfl := sound.ordered.eq_stored (List.mem_of_getElem? read) version
    -- A monitored Run that is established serves, so that the guard speaks about it.
    have serving : isServing world.stored.status.phase = true := by
      have monitored := (Bool.and_eq_true_iff.mp (Reaper.runningRunPredicate_of_reconcile found)).1
      cases known : world.stored.status.phase <;> rw [known] at monitored established <;>
        first | rfl | exact absurd monitored (by decide) | exact absurd established (by decide)
    have spent : shouldRetry (withDefaults world.stored.spec.retryPolicy)
        (currentAttempt world.stored.status.attempt) verdict.reason = false := by
      simpa [keepsServing, endsStale, read, serving, found] using guarded
    change (Reaper.handleStaleRun world.stored verdict recorded).status.phase ≠ .pending
    rw [Reaper.handleStaleRun, spent, if_neg Bool.false_ne_true]
    exact nofun
  | @advance pod i reply thread request rest answer answers =>
    change (afterCall world pod thread request reply).stored.status.phase ≠ .pending
    have conforms := (sound.threads pod thread answers.member).conforms
    rw [answers.program] at conforms
    cases request with
    | updateStatus run =>
      obtain ⟨_, _, write⟩ := conforms.1
      cases reply with
      | accepted | lost =>
        change run.status.phase ≠ .pending
        intro pending
        rcases claimed_or_terminal_of_statusWrite write with claimed | terminal
        · rw [pending] at claimed
          cases claimed
        · rw [pending] at terminal
          cases terminal
      | _ => exact kept
    | update | updateLogged | query => cases reply <;> exact kept
    | _ => exact kept
  | _ => exact kept

/-- A guarded `RegisterSession` comes from the Pod to which the Run is assigned. -/
theorem registered_of_step {pod : String} {time : Time} {attempt : Int} {copy : Option Run}
    {identity : SessionIdentity} (guarded : keepsServing deployment action world = true)
    (stepped : step deployment action world = some next)
    (registered : next.log =
      .queried pod time attempt copy (.registerSession identity) :: world.log) :
    world.stored.status.assignedPod = pod := by
  obtain ⟨_, _, _, _, _, rfl, answers⟩ := adds_of_step stepped registered
  simp only [keepsServing, answers.found, answers.program] at guarded
  exact beq_iff_eq.mp guarded

end Steps

/-! ## Whole runs -/

/-- The Run is where it was when it served. -/
def StaysWith (version stored : Run) : Prop :=
  isServing version.status.phase = true → isEstablished stored.status.phase = true ∧
      stored.status.assignedPod = version.status.assignedPod

/-- The invariant of guarded runs. -/
structure Steadfast (deployment : Deployment) (world : World) : Prop where
  sound : Sound deployment world
  own : AllThreads (fun _ pod thread =>
    ∀ run ∈ handed thread.exchanges, run.status.assignedPod = pod) world
  logged : ∀ {writer time old new polled},
    Event.wrote writer time old new polled ∈ world.log → new ∈ world.versions
  stays : ∀ version ∈ world.versions, StaysWith version world.stored
  never : NeverRestarted world.toLedger

section Invariant

variable {deployment : Deployment} {action : Action} {world next : World}

theorem StaysWith.of_step {version : Run} (stays : StaysWith version world.stored)
    (guarded : keepsServing deployment action world = true) (sound : Sound deployment world)
    (stepped : step deployment action world = some next) : StaysWith version next.stored := by
  intro serving
  obtain ⟨established, same⟩ := stays serving
  have progress := progress_of_storeChange (storeChange_of_step sound stepped)
  have unreset := unreset_of_step guarded sound stepped established
  obtain ⟨established, kept⟩ := progress.of_isEstablished established unreset
  exact ⟨established, kept.trans same⟩

theorem staysWith_self (run : Run) : StaysWith run run :=
  fun serving => ⟨by simp [isEstablished, serving], rfl⟩

/-- A guarded step keeps every version where it was. -/
theorem Steadfast.stays_of_step (steadfast : Steadfast deployment world)
    (guarded : keepsServing deployment action world = true)
    (stepped : step deployment action world = some next) :
    ∀ version ∈ next.versions, StaysWith version next.stored := by
  intro version mem
  have change := storeChange_of_step steadfast.sound stepped
  rcases mem_versions_of_storeChange change mem with rfl | old
  · exact staysWith_self _
  · exact (steadfast.stays version old).of_step guarded steadfast.sound stepped

/-- A Run that stays is neither Pending nor Scheduled. -/
theorem StaysWith.phases {version stored : Run} (stays : StaysWith version stored)
    (serving : isServing version.status.phase = true) :
    stored.status.phase ≠ .pending ∧ stored.status.phase ≠ .scheduled := by
  obtain ⟨_, pending, scheduled, _⟩ := (isEstablished_iff _).mp (stays serving).1
  exact ⟨pending, scheduled⟩

section Serving

variable (steadfast : Steadfast deployment world)

include steadfast

theorem Steadfast.versions_of_step (guarded : keepsServing deployment action world = true)
    (stepped : step deployment action world = some next) :
    next.versions.Pairwise fun later earlier =>
      isServing earlier.status.phase = true →
        later.status.phase ≠ .pending ∧ later.status.phase ≠ .scheduled := by
  have change := storeChange_of_step steadfast.sound stepped
  have stays := steadfast.stays_of_step guarded stepped
  change next.toLedger.versions.Pairwise _
  change ∀ version ∈ next.toLedger.versions, StaysWith version next.toLedger.stored at stays
  generalize next.toLedger = ledger at change stays
  have older : ∀ version ∈ world.versions, version ∈ ledger.versions →
      isServing version.status.phase = true →
        ledger.stored.status.phase ≠ .pending ∧ ledger.stored.status.phase ≠ .scheduled :=
    fun version _ mem serving => (stays version mem).phases serving
  cases change with
  | amended present key name status spec version | wrote =>
    refine List.pairwise_cons.mpr ⟨fun version mem => ?_, steadfast.never.versions⟩
    exact older version mem (.tail _ mem)
  | _ => exact steadfast.never.versions

/-- What is stored over a serving Run by anybody but its Pod. -/
theorem Steadfast.endsLost_of_write {writer : Writer} {status : RunStatus} {polled : Option Int}
    (write : Write deployment world writer status polled) (unreset : isEstablished
      world.stored.status.phase = true → status.phase ≠ .pending) (time : Time) :
    Event.EndsLost (.wrote writer time world.stored (storeStatus world.stored status) polled) := by
  intro serving foreign
  have established : isEstablished world.stored.status.phase = true := by
    simp [isEstablished, serving]
  cases write with
  | scheduler made =>
    rw [storeStatus_phase]
    exact .inl (phase_of_decided made established)
  | @reaper pod now recorded verdict found timely named =>
    right
    have kept := unreset established
    rw [storeStatus_phase]
    unfold Reaper.handleStaleRun at kept ⊢
    split at kept
    · exact absurd rfl kept
    rename_i spent
    rw [if_neg spent]
    exact ⟨rfl, nofun⟩
  | @runtimed pod thread run thereafter mem holds write =>
    have own := steadfast.own pod thread mem world.stored (List.mem_of_head? holds)
    exact absurd (congrArg Writer.runtimed own.symm) foreign

/-- The events of a guarded step continue the history. -/
theorem Steadfast.log_of_step (guarded : keepsServing deployment action world = true)
    (stepped : step deployment action world = some next) :
    next.log.Pairwise Event.Follows ∧ ∀ event ∈ next.log, event.EndsLost := by
  have change := storeChange_of_step steadfast.sound stepped
  have unreset := unreset_of_step guarded steadfast.sound stepped
  have registered := @registered_of_step deployment action world next
  change next.toLedger.log.Pairwise _ ∧ ∀ event ∈ next.toLedger.log, _
  generalize next.toLedger = ledger at change unreset registered
  have never := steadfast.never
  have quiet : ∀ event : Event, (∀ pod, event.registersOutside pod = false) →
      (event :: world.log).Pairwise Event.Follows := by
    intro event inside
    refine List.pairwise_cons.mpr ⟨fun earlier _ => ?_, never.registrations⟩
    cases earlier with
    | wrote => exact fun _ => inside _
    | _ => trivial
  cases change with
  | idle | amended => exact ⟨never.registrations, never.lost⟩
  | wrote present write =>
    refine ⟨quiet _ fun _ => rfl, List.forall_mem_cons.mpr ⟨?_, never.lost⟩⟩
    exact steadfast.endsLost_of_write write unreset _
  | executed =>
    exact ⟨quiet _ fun _ => rfl, List.forall_mem_cons.mpr ⟨trivial, never.lost⟩⟩
  | @queried pod thread query rest mem program =>
    refine ⟨?_, List.forall_mem_cons.mpr ⟨trivial, never.lost⟩⟩
    cases query with
    | registerSession =>
      have assigned := registered guarded stepped rfl
      refine List.pairwise_cons.mpr ⟨fun earlier known => ?_, never.registrations⟩
      cases earlier with
      | wrote writer time old new =>
        intro serving
        have kept := (steadfast.stays new (steadfast.logged known) serving).2
        simp [Event.registersOutside, ← assigned, kept]
      | _ => trivial
    | _ => exact quiet _ fun _ => rfl

theorem Steadfast.logged_of_step (stepped : step deployment action world = some next)
    {writer : Writer} {time : Time} {old new : Run} {polled : Option Int}
    (mem : Event.wrote writer time old new polled ∈ next.log) : new ∈ next.versions := by
  have change := storeChange_of_step steadfast.sound stepped
  have later := extends_of_step stepped
  change _ ∈ next.toLedger.log at mem
  change new ∈ next.toLedger.versions
  generalize next.toLedger = ledger at change later mem
  have older : Event.wrote writer time old new polled ∈ world.log → new ∈ ledger.versions :=
    fun known => later.versions.subset (steadfast.logged known)
  cases change with
  | wrote =>
    rcases List.mem_cons.mp mem with same | known
    · cases same
      exact .head _
    · exact older known
  | executed | queried =>
    rcases List.mem_cons.mp mem with same | known
    · cases same
    · exact older known
  | _ => exact older mem

end Serving

theorem readsOwn_of_keepsServing {pod : String} {i : Nat} {reply : Reply}
    {thread : Thread} {request : Call} {rest : Answer request → Process Result}
    {answer : Answer request}
    (guarded : keepsServing deployment (.advance pod i reply) world = true)
    (answers : Answers world pod i reply thread request rest answer)
    (get : request = .get) : readsOwn world.toLedger pod reply = true := by
  subst get
  simpa only [keepsServing, answers.found, answers.program] using guarded

/-- A guarded step keeps the invariant. -/
theorem steadfast_of_step (guarded : keepsServing deployment action world = true)
    (steadfast : Steadfast deployment world)
    (stepped : step deployment action world = some next) : Steadfast deployment next where
  sound := sound_of_step steadfast.sound stepped
  own := by
    refine allThreads_of_step ?_ ?_ ?_ ?_ steadfast.own stepped
    · intro pod thread known
      exact known
    · intro pod controller _
      exact ⟨fun _ mem => absurd mem List.not_mem_nil, fun _ mem => absurd mem List.not_mem_nil⟩
    · intro pod goroutine _ _ mem
      exact absurd mem List.not_mem_nil
    · intro pod i reply thread request rest answer answers performed _ known
      subst performed
      exact assignedPod_of_resumed steadfast.sound (readsOwn_of_keepsServing guarded answers)
        answers known
  logged := steadfast.logged_of_step stepped
  stays := steadfast.stays_of_step guarded stepped
  never :=
    have log := steadfast.log_of_step guarded stepped
    ⟨steadfast.versions_of_step guarded stepped, log.1, log.2⟩

theorem steadfast_initial (deployment : Deployment) (created : Run) (clock : Time) :
    Steadfast deployment (World.initial created clock) where
  sound := sound_initial deployment created clock
  own pod thread mem := by cases mem
  logged mem := by cases mem
  stays version mem := by
    rcases List.mem_singleton.mp mem with rfl
    exact staysWith_self _
  never := ⟨List.pairwise_singleton _ _, .nil, fun _ mem => absurd mem List.not_mem_nil⟩

end Invariant

/-- As long as the reaper has no attempt left for what served and every runtimed is answered
about its own Runs, a Session that served is not restarted. -/
theorem neverRestarted_of_guarded_run (deployment : Deployment) (created : Run)
    {clock : Time} {actions : List Action} {world : World}
    (ran : run (restrict (fun action world => keepsServing deployment action world = true)
      (step deployment)) actions (World.initial created clock) = some world) :
    NeverRestarted world.toLedger :=
  (invariant_of_guarded_run _ _ (Steadfast deployment) steadfast_of_step
    (steadfast_initial deployment created clock) ran).never

/-- A Session without another attempt becomes Ready, and the heartbeat of its Pod stops. -/
def endedSessionActions : List Action :=
  readyActions ++
    [.tick (40 * second), .reap 0 (some Scheduler.smallPod) (40 * second) (40 * second)]

theorem neverRestarted_endedSessionActions :
    ∃ world, run (restrict (fun action world =>
        keepsServing smallDeployment action world = true) (step smallDeployment))
        endedSessionActions (World.initial (smallSession none) 0) = some world ∧
      (∃ version ∈ world.versions, version.status.phase = .ready) ∧
      world.stored.status.phase = .failed ∧ NeverRestarted world.toLedger := by
  refine exists_reached (fun world => (∃ version ∈ world.versions, version.status.phase = .ready) ∧
    world.stored.status.phase = .failed) (by decide +kernel) ?_
  rintro world ran ⟨served, failed⟩
  exact ⟨served, failed, neverRestarted_of_guarded_run smallDeployment (smallSession none) ran⟩

/-- A Ready Session with attempts left loses its Pod, and a second Pod registers it. -/
def movedSessionActions : List Action :=
  readyActions ++
    [.tick (40 * second), .reap 0 (some Scheduler.smallPod) (40 * second) (40 * second),
      .tick (42 * second)] ++
    bindTo Scheduler.sparePod (42 * second) ++ serveOn Scheduler.sparePod true

/-- The reaper returns a Ready Session to the scheduler, and it starts again from nothing. -/
theorem exists_not_neverRestarted :
    ∃ actions world, run (step smallDeployment) actions
        (World.initial (smallSession (some ⟨3, second, []⟩)) 0) = some world ∧
      (world.versions.map fun version => (version.status.phase, version.status.assignedPod)) =
        [(.ready, "runtime-1"), (.running, "runtime-1"), (.scheduled, "runtime-1"),
          (.pending, ""), (.ready, "runtime-0"), (.running, "runtime-0"),
          (.scheduled, "runtime-0"), (.scheduled, "runtime-0"), (.pending, ""),
          (.pending, "")] ∧
      ¬ NeverRestarted world.toLedger := by
  refine ⟨movedSessionActions, exists_reached_and (by decide +kernel) ?_⟩
  intro world _ phases never
  -- the same fact about the list of phases
  have kept : (world.versions.map fun version =>
      (version.status.phase, version.status.assignedPod)).Pairwise fun later earlier =>
        isServing earlier.1 = true → later.1 ≠ .pending ∧ later.1 ≠ .scheduled :=
    List.pairwise_map.mpr never.versions
  rw [phases] at kept
  revert kept
  decide

end Kruntimes.Lifecycle
