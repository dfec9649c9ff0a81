import Kruntimes.Scheduler.Changes

/-!
# Persistence of reservations

After a stored binding the reservation of the Run has to stay until the scheduler
reads the Run as assigned or not Pending.  A second cycle for the Run from a copy
that still shows it waiting replaces the reservation, and its refused bind removes
it.  In a single namespace nothing else does.
-/

namespace Kruntimes.Scheduler

open Api Data Transition

/-- Every binding that the scheduler has not read back is covered by a reservation
of its Pod with the request of its Run. -/
def ReservationsPersist (cluster : Cluster) : Prop :=
  ∀ key podName, cluster.unread.lookup key = some podName →
    ∃ object reservation, cluster.core.runs.lookup key = some object ∧
      cluster.core.assumptions.lookup key = some reservation ∧
      reservation.podName = podName ∧
      object.created.spec.resourceRequests = .ok reservation.request

/-! ## The side condition -/

/-- The Run for which an action makes a reservation. -/
def reservedFor (reconciler : RunReconciler) (action : Action) (core : Core) : Option Run :=
  match action with
  | .plan _ _ _ =>
    (perform reconciler action core).bind fun effect =>
      match effect.1.worker with
      | .binding run _ => some run
      | _ => none
  | _ => none

/-- The namespace of a Run that an action creates. -/
def createdIn (action : Action) : Option String :=
  match action with
  | .create run => some run.nameSpace
  | _ => none

/-- Runs are created in one namespace only, and no cycle makes a reservation for a Run
whose stored binding has not been read back. -/
def PersistenceGuard (reconciler : RunReconciler) (nameSpace : String) (action : Action)
    (cluster : Cluster) : Prop :=
  (∀ created ∈ createdIn action, created = nameSpace) ∧
    ∀ run ∈ reservedFor reconciler action cluster.core,
      cluster.unread.lookup (reservationKeyFor run) = none

instance (reconciler : RunReconciler) (nameSpace : String) (action : Action)
    (cluster : Cluster) : Decidable (PersistenceGuard reconciler nameSpace action cluster) :=
  inferInstanceAs (Decidable (_ ∧ _))

/-! ## The invariant -/

/-- What guarded runs preserve. -/
structure PersistenceInv (nameSpace : String) (cluster : Cluster) : Prop where
  inside : ∀ key object, cluster.core.runs.lookup key = some object → key.nameSpace = nameSpace
  covered : ∀ key podName, cluster.unread.lookup key = some podName →
    ∃ reservation, cluster.core.assumptions.lookup key = some reservation ∧
      reservation.podName = podName
  fresh : ∀ run pod, cluster.core.worker = .binding run pod →
    cluster.unread.lookup (reservationKeyFor run) = none

/-- The request of a covering reservation is the request of the Run. -/
theorem PersistenceInv.reservationsPersist {nameSpace : String} {cluster : Cluster}
    (base : Base cluster.core) (inv : PersistenceInv nameSpace cluster) :
    ReservationsPersist cluster := by
  intro key podName unread
  rcases inv.covered key podName unread with ⟨reservation, reserved, samePod⟩
  rcases base.reservations key reservation reserved with ⟨object, found, _, computed⟩
  exact ⟨object, reservation, found, reserved, samePod, computed⟩

section Frames

variable {nameSpace : String} {cluster : Cluster} {core : Core}
  {queue : List ReservationKey}

section Writes

variable (inv : PersistenceInv nameSpace cluster)

include inv

/-- A change of the Runs that neither reads nor binds. -/
theorem PersistenceInv.of_runs (sameCache : core.assumptions = cluster.core.assumptions)
    (inside : ∀ key object, core.runs.lookup key = some object → key.nameSpace = nameSpace)
    (worker : core.worker = cluster.core.worker ∨ ∀ run pod, core.worker ≠ .binding run pod) :
    PersistenceInv nameSpace ⟨core, queue, cluster.unread⟩ := by
  refine ⟨inside, ?_, ?_⟩
  · simpa only [sameCache] using inv.covered
  · intro run pod binding
    rcases worker with same | other
    · exact inv.fresh run pod (same.symm.trans binding)
    · exact absurd binding (other run pod)

theorem inside_insert {key : ReservationKey} {next : RunObject} (own : key.nameSpace = nameSpace) :
    ∀ other object, (cluster.core.runs.insert key next).lookup other = some object →
      other.nameSpace = nameSpace := by
  intro other object found
  by_cases same : other = key
  · rw [same, own]
  · rw [AList.lookup_insert_ne same] at found
    exact inv.inside other object found

/-- A change of the reservations that keeps those of the bindings still unread. -/
theorem PersistenceInv.of_reservations {unread : Table ReservationKey String}
    (sameRuns : core.runs = cluster.core.runs)
    (fewer : ∀ key podName, unread.lookup key = some podName →
      cluster.unread.lookup key = some podName)
    (kept : ∀ key podName reservation, unread.lookup key = some podName →
      cluster.core.assumptions.lookup key = some reservation →
        core.assumptions.lookup key = some reservation)
    (fresh : ∀ run pod, core.worker = .binding run pod →
      unread.lookup (reservationKeyFor run) = none) :
    PersistenceInv nameSpace ⟨core, queue, unread⟩ := by
  refine ⟨by simpa only [sameRuns] using inv.inside, ?_, fresh⟩
  intro key podName still
  rcases inv.covered key podName (fewer key podName still) with
    ⟨reservation, reserved, samePod⟩
  exact ⟨reservation, kept key podName reservation still reserved, samePod⟩

end Writes

section Fetch

variable (base : Base cluster.core) (inv : PersistenceInv nameSpace cluster)

include base inv

/-- Reading a Run ends the obligation exactly when it may drop the reservation. -/
theorem PersistenceInv.fetch {key : ReservationKey} {object : RunObject} {run : Run}
    (found : cluster.core.runs.lookup key = some object) (cached : object.view.cached = some run) :
    PersistenceInv nameSpace ⟨{ cluster.core with
          assumptions := observe cluster.core.assumptions run, worker := .observed run },
        queue, nextUnread (.fetch key) cluster⟩ := by
  have sameKey := (base.objects key object found).sameKey run
    (Watched.mem_versions_of_cached cached)
  have shown : cluster.core.cachedRun key = some run :=
    cachedRun_eq_some_iff.mpr ⟨object, found, cached⟩
  simp only [nextUnread, shown]
  split
  next waiting =>
    refine inv.of_reservations rfl (fun _ _ same => same) ?_ (by simp)
    intro other podName reservation _ reserved
    simpa [observe, waiting] using reserved
  · refine inv.of_reservations rfl ?_ ?_ (by simp)
    · intro other podName still
      by_cases same : other = key
      · rw [same, AList.lookup_erase] at still
        contradiction
      · rwa [AList.lookup_erase_ne same] at still
    · intro other podName reservation still reserved
      by_cases same : other = key
      · rw [same, AList.lookup_erase] at still
        contradiction
      · rw [← sameKey] at same
        exact (lookup_observe_of_ne same).trans reserved

/-- What a snapshot leaves unread keeps its reservation. -/
theorem PersistenceInv.lookup_syncLocked {key own : ReservationKey} {object ownObject : RunObject}
    {podName : String} {reservation : AssumedReservation}
    (ownFound : cluster.core.runs.lookup own = some ownObject)
    (found : cluster.core.runs.lookup key = some object)
    (still : (cluster.unread.keep fun key _ => key.nameSpace != own.nameSpace ||
      showsPending (cluster.core.cachedRun key)).lookup key = some podName)
    (reserved : cluster.core.assumptions.lookup key = some reservation) :
    (syncLocked cluster.core.assumptions (cluster.core.listRuns own.nameSpace)).lookup key =
      some reservation := by
  have sameSpace : key.nameSpace = own.nameSpace :=
    (inv.inside key object found).trans (inv.inside own ownObject ownFound).symm
  have waiting : showsPending object.view.cached = true := by
    have test := ((Table.lookup_keep_eq_some_iff _ _ _ _).mp still).2
    simpa [sameSpace, Core.cachedRun, found] using test
  rw [← sameSpace]
  exact lookup_syncLocked_of_waiting base reserved found waiting

end Fetch

end Frames

/-! ## Guarded runs -/

/-- A guarded step preserves the invariant. -/
theorem PersistenceInv.of_step {reconciler : RunReconciler} {nameSpace : String}
    {action : Action} {cluster next : Cluster} (base : Base cluster.core)
    (inv : PersistenceInv nameSpace cluster)
    (guarded : PersistenceGuard reconciler nameSpace action cluster)
    (stepped : step reconciler action cluster = some next) :
    PersistenceInv nameSpace next := by
  rcases step_eq_some_iff.mp stepped with ⟨_, _, performed, _, unread⟩
  rcases next with ⟨core, queue, _⟩
  subst unread
  have change := change_of_perform base performed
  have plainCase : action.usesCache = false → core.assumptions = cluster.core.assumptions →
      (∀ key object, core.runs.lookup key = some object → key.nameSpace = nameSpace) →
      (core.worker = cluster.core.worker ∨ ∀ run pod, core.worker ≠ .binding run pod) →
      PersistenceInv nameSpace ⟨core, queue, nextUnread action cluster⟩ := by
    intro plain sameCache inside worker
    rw [nextUnread_of_plain plain]
    exact inv.of_runs sameCache inside worker
  cases change with
  | create =>
    exact plainCase rfl rfl (inside_insert inv (guarded.1 _ rfl)) (.inl rfl)
  | write _ key object stored new worker _ plain found _ _ stage =>
    refine plainCase plain rfl (inside_insert inv (inv.inside key object found)) ?_
    rcases stage with same | ⟨rfl, _⟩
    · exact .inl same
    · exact .inr (by simp)
  | remove key object stored found | deliver key object view found =>
    exact plainCase rfl rfl (inside_insert inv (inv.inside key object found)) (.inl rfl)
  | podWrite => exact plainCase rfl rfl inv.inside (.inl rfl)
  | wake _ _ plain => exact plainCase plain rfl inv.inside (.inl rfl)
  | absent key idle missing =>
    simp only [nextUnread, missing]
    exact inv.of_runs rfl inv.inside (.inl rfl)
  | fetch key object run _ found cached => exact inv.fetch base found cached
  | backfill fault run new object _ found =>
    exact plainCase rfl rfl (inside_insert inv (inv.inside _ object found)) (.inr (by simp))
  | proceed | ignore | schedule => exact plainCase rfl rfl inv.inside (.inr (by simp))
  | giveUp _ _ plain => exact plainCase plain rfl inv.inside (.inr (by simp))
  | plan pods workspace now run request worker _ stage planned =>
    have held := base.stage stage
    rcases held.1 with ⟨_, ownFound, _⟩
    simp only [nextUnread, stage]
    refine inv.of_reservations rfl ?_ ?_ ?_
    · exact fun key podName still => ((Table.lookup_keep_eq_some_iff _ _ _ _).mp still).1
    · intro key podName reservation still reserved
      rcases base.reservations key reservation reserved with ⟨_, found, _⟩
      exact inv.lookup_syncLocked base ownFound found still reserved
    · rcases planned with ⟨rfl, _⟩ | ⟨_, _, rfl, _⟩ <;> simp
  | reserve pods workspace now run request pod stage =>
    have held := base.stage stage
    rcases held.1 with ⟨_, ownFound, _⟩
    have unreserved : cluster.unread.lookup (reservationKeyFor run) = none := by
      refine guarded.2 run ?_
      simp [reservedFor, performed]
    have fewer : ∀ {key podName}, (nextUnread (.plan pods workspace now) cluster).lookup key =
        some podName → cluster.unread.lookup key = some podName := by
      intro key podName still
      simp only [nextUnread, stage] at still
      exact ((Table.lookup_keep_eq_some_iff _ _ _ _).mp still).1
    refine inv.of_reservations rfl (fun _ _ => fewer) ?_ ?_
    · intro key podName reservation still reserved
      rcases base.reservations key reservation reserved with ⟨_, found, _⟩
      have different : key ≠ reservationKeyFor run := by
        rintro rfl
        rw [fewer still] at unreserved
        contradiction
      simp only [nextUnread, stage] at still
      exact (lookup_assumeLocked_of_ne different).trans
        (inv.lookup_syncLocked base ownFound found still reserved)
    · intro held target binding
      rw [Worker.binding.injEq] at binding
      rw [← binding.1, Option.eq_none_iff_forall_ne_some]
      intro podName still
      rw [fewer still] at unreserved
      contradiction
  | bind now fault run stored pod object worker found _ _ updated =>
    have held := base.stage worker
    rcases held.2.2.2.2 with ⟨_, _, reserved⟩
    simp only [nextUnread, worker, updated, if_true]
    refine ⟨inside_insert inv (inv.inside _ object found), ?_, by simp⟩
    intro key podName unread
    rcases Table.lookup_insert_cases unread with ⟨rfl, rfl⟩ | ⟨_, unread⟩
    · exact ⟨_, reserved, rfl⟩
    · exact inv.covered key podName unread
  | refuse now fault run pod worker failed =>
    have unreserved := inv.fresh run pod worker
    simp only [nextUnread, worker, failed, Option.isSome_none, Bool.false_eq_true, if_false]
    refine inv.of_reservations rfl (fun _ _ same => same) ?_ (by simp)
    intro key podName reservation still reserved
    have different : key ≠ reservationKeyFor run := by
      rintro rfl
      rw [still] at unreserved
      contradiction
    exact (lookup_release_of_ne different).trans reserved

theorem persistenceInv_empty (nameSpace : String) : PersistenceInv nameSpace Cluster.empty :=
  ⟨fun _ _ found => by simp [Cluster.empty, Core.empty] at found,
    fun _ _ found => by simp [Cluster.empty] at found,
    fun _ _ binding => by simp [Cluster.empty, Core.empty] at binding⟩

/-- If all Runs are created in one namespace and no cycle reserves for a Run whose
stored binding is unread, every unread binding keeps its reservation. -/
theorem reservationsPersist_of_guarded_run {reconciler : RunReconciler}
    {nameSpace : String} {actions : List Action} {cluster : Cluster}
    (ran : run (restrict (PersistenceGuard reconciler nameSpace) (step reconciler)) actions
      Cluster.empty = some cluster) :
    ReservationsPersist cluster := by
  rcases invariant_of_guarded_run (PersistenceGuard reconciler nameSpace) (step reconciler)
    (fun cluster => Base cluster.core ∧ PersistenceInv nameSpace cluster)
    (fun guarded held stepped =>
      ⟨base_of_step held.1 stepped, held.2.of_step held.1 guarded stepped⟩)
    ⟨base_empty, persistenceInv_empty nameSpace⟩ ran with ⟨base, inv⟩
  exact inv.reservationsPersist base

/-- Bind a Run and plan for a second one before the binding is delivered. -/
def unreadActions : List Action :=
  [.podWrite smallPod, .create (smallRun "first" ⟨true, none, none⟩),
    .deliver (smallKey "first")] ++ schedulingCycle (smallKey "first") 0 [smallPod] none ++
  [.create (smallRun "second" ⟨true, none, none⟩), .deliver (smallKey "second"),
    .fetch (smallKey "second"), .backfill false, .assess 0 false, .plan [smallPod] none 0]

theorem reservationsPersist_unreadActions :
    ∃ cluster, run (restrict (PersistenceGuard smallReconciler "default")
        (step smallReconciler)) unreadActions Cluster.empty = some cluster ∧
      cluster.unread.lookup (smallKey "first") = some "runtime-0" ∧
      ReservationsPersist cluster := by
  apply exists_reached_and
  · decide +kernel
  · exact fun _ reached _ => reservationsPersist_of_guarded_run reached

/-- Bind a Run, deliver only its backfilled version, and reconcile it once more with
another Pod listed. -/
def staleActions : List Action :=
  [.podWrite smallPod, .podWrite sparePod, .create (smallRun "first" ⟨true, none, none⟩),
    .deliver (smallKey "first")] ++ schedulingCycle (smallKey "first") 0 [smallPod] none ++
  [.deliver (smallKey "first")] ++ schedulingCycle (smallKey "first") 0 [sparePod] none

/-- Without the guard the second cycle replaces the reservation and its refused bind
removes it. -/
theorem exists_not_reservationsPersist :
    ∃ actions cluster, run (step smallReconciler) actions Cluster.empty = some cluster ∧
      ¬ ReservationsPersist cluster := by
  refine ⟨staleActions, exists_reached (fun cluster =>
    cluster.unread.lookup (smallKey "first") = some "runtime-0" ∧
    cluster.core.assumptions.lookup (smallKey "first") = none) (by decide +kernel) ?_⟩
  rintro cluster _ ⟨unread, unreserved⟩ persist
  rcases persist _ _ unread with ⟨_, _, _, reserved, _⟩
  rw [unreserved] at reserved
  contradiction

end Kruntimes.Scheduler
