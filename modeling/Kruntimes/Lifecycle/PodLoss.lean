import Kruntimes.Lifecycle.Course

/-!
# Pod loss

When the Pod of a Run is gone, replaced or terminating, its runtimed no longer works for
the Run.  The scheduler looks at pending Runs only and the reaper at claimed ones only, so
a Run that was bound and not claimed is left to nobody.
-/

namespace Kruntimes.Lifecycle

open Api Transition Runtimed

/-- The Pod found under the assigned name is not the assigned one, or terminates. -/
def IsLost (run : Run) : Option Pod → Bool
  | none => true
  | some pod =>
    pod.name == run.status.assignedPod && (pod.uid != run.status.assignedPodUID || pod.deleting)

/-- The steps of the scheduler, of the reaper, which finds `pod`, and of the WorkflowRun
controller, which asks child Runs to terminate. -/
def isControllerAction (pod : Option Pod) : Action → Bool
  | .schedule _ _ => true
  | .reap _ found _ _ => found == pod
  | .terminate mode => mode == some .immediate
  | _ => false

/-- The controllers can move the Run: to another phase, off its Pod, or out of the
store. -/
def Rescuable (deployment : Deployment) (pod : Option Pod) (world : World) : Prop :=
  ∃ actions next, (∀ action ∈ actions, isControllerAction pod action = true) ∧
    run (step deployment) actions world = some next ∧
    (next.stored.status.phase ≠ world.stored.status.phase ∨
      next.stored.status.assignedPod ≠ world.stored.status.assignedPod ∨ next.gone = true)

section Rescuable

variable {deployment : Deployment} {pod : Option Pod} {world next : World} {action : Action}

section Rescue

variable (own : isControllerAction pod action = true)
  (stepped : step deployment action world = some next)

include own stepped

/-- One step is enough. -/
theorem Rescuable.of_step (moved : next.stored.status.phase ≠ world.stored.status.phase ∨
      next.stored.status.assignedPod ≠ world.stored.status.assignedPod ∨ next.gone = true) :
    Rescuable deployment pod world :=
  ⟨[action], next, by simpa using own, by simp [run, stepped], moved⟩

/-- A step that leaves the status may come first. -/
theorem Rescuable.cons (same : next.stored.status = world.stored.status)
    (later : Rescuable deployment pod next) : Rescuable deployment pod world := by
  obtain ⟨actions, last, others, ran, moved⟩ := later
  rw [same] at moved
  refine ⟨action :: actions, last, List.forall_mem_cons.mpr ⟨own, others⟩, ?_, moved⟩
  simpa [run, stepped] using ran

end Rescue

end Rescuable

/-! ## Claimed Runs -/

theorem named_of_isLost {run : Run} {pod : Option Pod} (lost : IsLost run pod = true) :
    pod.all (fun pod => pod.name == run.status.assignedPod) = true := by
  cases pod with
  | none => rfl
  | some => exact (Bool.and_eq_true_iff.mp lost).1

/-- The reaper finds a claimed Run on a lost Pod stale. -/
theorem exists_verdict_of_isLost (reaper : Reaper.StaleRunReaper) {run : Run}
    {pod : Option Pod} (monitored : Reaper.runningRunPredicate run = true)
    (identified : run.status.assignedPodUID ≠ "") (lost : IsLost run pod = true)
    (now : Time) : ∃ verdict, Reaper.reconcile reaper run pod now = some verdict := by
  unfold Reaper.reconcile
  rw [if_neg (by simp [monitored])]
  cases pod with
  | none => exact ⟨_, rfl⟩
  | some pod =>
    by_cases replaced : pod.uid = run.status.assignedPodUID
    · have deleting : pod.deleting = true := by
        simp only [IsLost, replaced, bne_self_eq_false, Bool.false_or, Bool.and_eq_true] at lost
        exact lost.2
      simp [replaced, Reaper.stalePodState, deleting]
    · simp [replaced, identified]

/-- The phase that the reaper stores is not the one it found. -/
theorem phase_handleStaleRun {run : Run} (active : run.status.phase.isActive = true)
    (verdict : Reaper.Verdict) (now : Time) :
    (Reaper.handleStaleRun run verdict now).status.phase ≠ run.status.phase := by
  intro same
  rw [← same] at active
  unfold Reaper.handleStaleRun at active
  split at active <;> cases active

theorem finalizers_handleStaleRun (run : Run) (verdict : Reaper.Verdict) (now : Time) :
    (Reaper.handleStaleRun run verdict now).finalizers = run.finalizers := by
  unfold Reaper.handleStaleRun
  split <;> rfl

/-- The finalizer is removed once. -/
theorem notMem_of_abandonedRegistration {stale unmarked : Run} {verdict : Reaper.Verdict}
    (marked : Reaper.abandonedRegistration stale verdict = some unmarked) :
    runRegistrationCleanupFinalizer ∉ unmarked.finalizers := by
  obtain ⟨_, removed⟩ := Option.ite_none_right_eq_some.mp marked
  obtain ⟨_, same⟩ := Option.ite_none_right_eq_some.mp removed
  cases same
  simp

theorem abandonedRegistration_eq_none {stale : Run}
    (unmarked : runRegistrationCleanupFinalizer ∉ stale.finalizers)
    (verdict : Reaper.Verdict) : Reaper.abandonedRegistration stale verdict = none := by
  simp [Reaper.abandonedRegistration, removeFinalizer, unmarked]

section Reap

variable {deployment : Deployment} {world : World} {pod : Option Pod}
  {verdict : Reaper.Verdict}

section Reaping

variable (present : world.gone = false)
  (found : Reaper.reconcile deployment.reaper world.stored pod world.clock = some verdict)
  (named : pod.all (fun pod => pod.name == world.stored.status.assignedPod) = true)

include present found named

/-- The reaper's `Reconcile` over the stored version. -/
theorem step_reap :
    step deployment (.reap 0 pod world.clock world.clock) world = some (world.setLedger
        (match Reaper.abandonedRegistration
            (Reaper.handleStaleRun world.stored verdict world.clock) verdict with
        | none =>
          world.storeStatus .reaper
            (Reaper.handleStaleRun world.stored verdict world.clock).status none
        | some unmarked => world.storeMetadata unmarked.finalizers)) := by
  have read : world.versions[0]? = some world.stored := rfl
  have accepted : world.accepts world.stored = true := (Ledger.accepts_iff _).mpr ⟨present, rfl⟩
  simp only [step, performReap, read, found, accepted, named, le_refl, and_self, if_true]
  cases Reaper.abandonedRegistration
    (Reaper.handleStaleRun world.stored verdict world.clock) verdict <;> rfl

/-- Without the finalizer one round of the reaper moves a claimed Run. -/
theorem rescuable_of_notMem (active : world.stored.status.phase.isActive = true)
    (unmarked : runRegistrationCleanupFinalizer ∉ world.stored.finalizers) :
    Rescuable deployment pod world := by
  have stepped := step_reap present found named
  rw [abandonedRegistration_eq_none
    (by rwa [finalizers_handleStaleRun] : runRegistrationCleanupFinalizer ∉
      (Reaper.handleStaleRun world.stored verdict world.clock).finalizers)] at stepped
  exact .of_step (by simp [isControllerAction]) stepped
    (.inl (phase_handleStaleRun active verdict world.clock))

end Reaping

/-- The reaper moves every claimed Run off a lost Pod. -/
theorem rescuable_of_runningRunPredicate (present : world.gone = false)
    (monitored : Reaper.runningRunPredicate world.stored = true)
    (identified : world.stored.status.assignedPodUID ≠ "")
    (lost : IsLost world.stored pod = true) : Rescuable deployment pod world := by
  obtain ⟨verdict, found⟩ :=
    exists_verdict_of_isLost deployment.reaper monitored identified lost world.clock
  have active := Reaper.isActive_of_isStaleMonitoredRunPhase (Bool.and_eq_true_iff.mp monitored).1
  have named := named_of_isLost lost
  have stepped := step_reap present found named
  split at stepped
  · exact .of_step (by simp [isControllerAction]) stepped
      (.inl (phase_handleStaleRun active verdict world.clock))
  rename_i unmarked marked
  -- The finalizer goes first.  Unless the object goes with it, the next round of the
  -- reaper stores the status.
  cases gone : (world.storeMetadata unmarked.finalizers).gone with
  | true => exact .of_step (by simp [isControllerAction]) stepped (.inr (.inr gone))
  | false =>
    have removed := notMem_of_abandonedRegistration marked
    refine .cons (by simp [isControllerAction]) stepped rfl ?_
    exact rescuable_of_notMem gone found named active removed

end Reap

/-! ## Runs that are bound and not claimed -/

/-- The Run is bound to the Pod and nobody has claimed it. -/
def BoundTo (podName : String) (ledger : Ledger) : Prop :=
  ledger.gone = false ∧ ledger.stored.status.phase = .scheduled ∧
    ledger.stored.status.assignedPod = podName

/-- A controller leaves a bound Run where it is. -/
theorem boundTo_of_step {deployment : Deployment} {podName : String} {pod : Option Pod}
    {action : Action} {world next : World} (sound : Sound deployment world)
    (bound : BoundTo podName world.toLedger) (own : isControllerAction pod action = true)
    (stepped : step deployment action world = some next) : BoundTo podName next.toLedger := by
  obtain ⟨present, scheduled, assigned⟩ := bound
  have unmonitored : Reaper.runningRunPredicate world.stored = false := by
    simp [Reaper.runningRunPredicate, scheduled, Reaper.isStaleMonitoredRunPhase]
  cases change_of_step stepped with
  | terminate => exact ⟨present, scheduled, assigned⟩
  | schedule read made accepted =>
    have same := course_of_decided (by rw [scheduled]; rfl)
      (decided_stored sound read made accepted)
    exact ⟨present, (congrArg Course.phase same).trans scheduled,
      (congrArg Course.assignedPod same).trans assigned⟩
  | abandon read found accepted | reap read found accepted =>
    have version := ((Ledger.accepts_iff _).mp accepted).2
    obtain rfl := sound.ordered.eq_stored (List.mem_of_getElem? read) version
    cases unmonitored.symm.trans (Reaper.runningRunPredicate_of_reconcile found)
  | _ => cases own

/-- No number of rounds of the controllers moves a bound Run. -/
theorem not_rescuable_of_scheduled {deployment : Deployment} {pod : Option Pod}
    {world : World} (sound : Sound deployment world) (present : world.gone = false)
    (scheduled : world.stored.status.phase = .scheduled) :
    ¬ Rescuable deployment pod world := by
  rintro ⟨actions, last, own, ran, moved⟩
  have bound : BoundTo world.stored.status.assignedPod last.toLedger := by
    have start : BoundTo world.stored.status.assignedPod world.toLedger := ⟨present, scheduled, rfl⟩
    generalize world.stored.status.assignedPod = podName at start
    clear moved scheduled present
    induction actions generalizing world with
    | nil =>
      cases ran
      exact start
    | cons action actions ih =>
      obtain ⟨first, others⟩ := List.forall_mem_cons.mp own
      obtain ⟨_, stepped, rest⟩ := (run_cons_eq_some_iff _ _ _ _ _).mp ran
      exact ih (sound_of_step sound stepped) others rest (boundTo_of_step sound start first stepped)
  obtain ⟨kept, phase, assigned⟩ := bound
  rcases moved with changed | changed | gone
  · exact changed (phase.trans scheduled.symm)
  · exact changed assigned
  · cases kept.symm.trans gone

/-- In a reachable world, a Run that lost its Pod can be moved by the controllers exactly
when it has been claimed. -/
theorem rescuable_iff_claimed (deployment : Deployment) {created : Run} (new : IsNew created)
    {clock : Time} {actions : List Action} {world : World}
    (ran : run (step deployment) actions (World.initial created clock) = some world)
    (present : world.gone = false)
    (unfinished : world.stored.status.phase.isTerminal = false)
    (assigned : world.stored.status.assignedPod ≠ "") {pod : Option Pod}
    (lost : IsLost world.stored pod = true) :
    Rescuable deployment pod world ↔ world.stored.status.phase ≠ .scheduled := by
  have lived := lived_of_run new ran
  have lawful := (lived.lawful _ (.head _)).lawful
  constructor
  · intro rescuable scheduled
    exact not_rescuable_of_scheduled lived.sound present scheduled rescuable
  · intro claimed
    have notPending : world.stored.status.phase.isPending = false := by
      by_contra pending
      exact assigned (lawful.unassigned (eq_true_of_ne_false pending)).1
    have active := (RunPhase.isActive_iff _).mpr ⟨notPending, unfinished⟩
    have monitored : Reaper.isStaleMonitoredRunPhase world.stored.status.phase = true := by
      cases phase : world.stored.status.phase <;>
        simp_all [RunPhase.isActive, Reaper.isStaleMonitoredRunPhase]
    refine rescuable_of_runningRunPredicate present ?_ (lawful.assigned active).2 lost
    simp [Reaper.runningRunPredicate, monitored, assigned]

/-- A small task that was bound to the Pod. -/
def boundActions : List Action :=
  [.schedule 0 .backfill] ++ bindTo Scheduler.smallPod 0

/-- The claimed task. -/
theorem rescuable_iff_claimed_claimed :
    ∃ world, run (step smallDeployment) (boundActions ++ claimOn "runtime-0")
        (World.initial (smallRunWith ⟨true, none, none⟩ none) 0) = some world ∧
      IsLost world.stored none = true ∧
      (Rescuable smallDeployment none world ↔ world.stored.status.phase ≠ .scheduled) := by
  refine exists_reached (fun world => world.gone = false ∧
    world.stored.status.phase.isTerminal = false ∧ world.stored.status.assignedPod ≠ "")
    (by decide +kernel) ?_
  rintro world ran ⟨present, unfinished, assigned⟩
  exact ⟨rfl, rescuable_iff_claimed smallDeployment (by decide) ran present unfinished assigned rfl⟩

/-- A bound task whose Pod is deleted before its runtimed claims it stays Scheduled. -/
theorem exists_not_rescuable :
    ∃ actions world, run (step smallDeployment) actions
        (World.initial (smallRunWith ⟨true, none, none⟩ none) 0) = some world ∧
      world.gone = false ∧ world.stored.status.phase.isTerminal = false ∧
      world.stored.status.assignedPod ≠ "" ∧ IsLost world.stored none = true ∧
      ¬ Rescuable smallDeployment none world := by
  refine ⟨boundActions, exists_reached (fun world => world.gone = false ∧
    world.stored.status.phase = .scheduled ∧ world.stored.status.assignedPod ≠ "")
    (by decide +kernel) ?_⟩
  rintro world ran ⟨present, scheduled, assigned⟩
  refine ⟨present, ?_, assigned, rfl, ?_⟩
  · rw [scheduled]
    rfl
  · exact not_rescuable_of_scheduled (sound_of_run ran) present scheduled

end Kruntimes.Lifecycle
