import Kruntimes.Scheduler.Objects

/-!
# What one action can do

`Base` collects what holds of every reachable core: well-formed objects,
reservations that belong to existing Runs, and a worker whose copy is related to
the object it was read from.  `Change` lists the possible effects of an action on
such a core; every later invariant is proved by cases on it.
-/

namespace Kruntimes.Scheduler

open Api Data Transition

variable {action : Action} {reservation : AssumedReservation} {fault : Bool}
  {added : List ReservationKey} {new run stored : Run} {reconciler : RunReconciler} {now : Time}
  {core next : Core} {key : ReservationKey} {object : RunObject} {worker : Worker}

/-- The worker holds a copy of a stored object that satisfies `relation`. -/
def Held (core : Core) (run : Run) (relation : RunObject → Run → Prop) : Prop :=
  ∃ object, core.runs.lookup (reservationKeyFor run) = some object ∧ Copy object run ∧
    relation object run

theorem Held.at_lookup {relation : RunObject → Run → Prop} (held : Held core run relation)
    (found : core.runs.lookup (reservationKeyFor run) = some object) :
    Copy object run ∧ relation object run := by
  obtain ⟨_, otherFound, facts⟩ := held
  cases found.symm.trans otherFound
  exact facts

/-- A stored version that is as old as the tracked copy is the copy. -/
theorem Held.unmodified (held : Held core run Tracks)
    (found : core.runs.lookup (reservationKeyFor run) = some object)
    (latest : object.view.persisted = some stored)
    (same : stored.resourceVersion = run.resourceVersion) : stored = run ∧ Settled run := by
  have tracks := (held.at_lookup found).2
  exact ⟨tracks.same stored (Watched.mem_versions_of_persisted latest) same, tracks.settled⟩

/-- The reservation that `reserve` makes for a Run. -/
def reservationFor (run : Run) (podName : String) (request : ResourceList) :
    AssumedReservation :=
  { runName := run.name, podName, request, labels := run.labels }

/-- What the worker knows at each stage. -/
def WorkerInv (core : Core) : Prop :=
  match core.worker with
  | .idle => True
  | .observed run => Held core run Tracks
  | .admitting run => Held core run Tracks
  | .planning run request => Held core run Waits ∧ run.isUnassignedPending = true ∧
      run.spec.resourceRequests = .ok request
  | .reporting run _ => Held core run Waits ∧
      (run.isUnassignedPending = true ∨ run.status.phase.isTerminal = true)
  | .binding run pod => Held core run Waits ∧ run.isUnassignedPending = true ∧
      pod ∈ core.pods ∧ pod.nameSpace = run.nameSpace ∧
      ∃ request, run.spec.resourceRequests = .ok request ∧
        core.assumptions.lookup (reservationKeyFor run) = some (reservationFor run pod.name request)

/-- A reservation carries the name and the request of its Run. -/
def ReservationOf (object : RunObject) (reservation : AssumedReservation) : Prop :=
  reservation.runName = object.created.name ∧
    object.created.spec.resourceRequests = .ok reservation.request

/-- What holds of every reachable core. -/
structure Base (core : Core) : Prop where
  objects : ∀ key object, core.runs.lookup key = some object → WellFormed key object
  reservations : ∀ key reservation, core.assumptions.lookup key = some reservation →
    ∃ object, core.runs.lookup key = some object ∧ ReservationOf object reservation
  worker : WorkerInv core

/-- What the worker knows at a given stage. -/
theorem Base.stage {core : Core} (base : Base core) (stage : core.worker = worker) :
    WorkerInv { core with worker } :=
  stage ▸ base.worker

/-- The effects of an action: the next core and the keys put into the workqueue. -/
inductive Change (reconciler : RunReconciler) (core : Core) :
    Action → Core → List ReservationKey → Prop
  | create (run : Run) (fresh : core.runs.lookup (reservationKeyFor run) = none)
      (waiting : run.isUnassignedPending = true)
      (weights : run.spec.weightsAdmitted = true) :
      Change reconciler core (.create run) { core with
          runs := core.runs.insert (reservationKeyFor run) ⟨run, ⟨none, [some run]⟩⟩ } []
  | write (action : Action) (key : ReservationKey) (object : RunObject) (stored new : Run)
      (worker : Worker) (added : List ReservationKey) (plain : action.usesCache = false)
      (found : core.runs.lookup key = some object)
      (persisted : object.view.persisted = some stored) (advances : LifecycleStep stored new)
      (stage : worker = core.worker ∨
        (worker = .idle ∧ (∀ run pod, core.worker ≠ .binding run pod) ∧
          ∀ run, core.worker.run = some run → reservationKeyFor run = key)) :
      Change reconciler core action
        { core with runs := core.runs.insert key (object.write (some new)), worker } added
  | remove (key : ReservationKey) (object : RunObject) (stored : Run)
      (found : core.runs.lookup key = some object)
      (persisted : object.view.persisted = some stored) :
      Change reconciler core (.remove key)
        { core with runs := core.runs.insert key (object.write none) } []
  | deliver (key : ReservationKey) (object : RunObject) (view : Watched (Option Run))
      (found : core.runs.lookup key = some object)
      (delivered : object.view.deliver = some view) :
      Change reconciler core (.deliver key)
        { core with runs := core.runs.insert key { object with view } }
        (({ core with runs := core.runs.insert key { object with view } } : Core).enqueuedBy key
          object.view.cached view.cached)
  | podWrite (pod : Pod)
      (keeps : ∀ old ∈ core.pods, old.nameSpace = pod.nameSpace ∧ old.name = pod.name →
        keepsCapacity reconciler old pod = true) :
      Change reconciler core (.podWrite pod) { core with pods := pod :: core.pods } []
  | wake (action : Action) (added : List ReservationKey) (plain : action.usesCache = false) :
      Change reconciler core action core added
  | absent (key : ReservationKey) (idle : core.worker = .idle)
      (missing : core.cachedRun key = none) : Change reconciler core (.fetch key) core []
  | fetch (key : ReservationKey) (object : RunObject) (run : Run)
      (idle : core.worker = .idle) (found : core.runs.lookup key = some object)
      (cached : object.view.cached = some run) :
      Change reconciler core (.fetch key)
        { core with assumptions := observe core.assumptions run, worker := .observed run } []
  | backfill (fault : Bool) (run new : Run) (object : RunObject)
      (worker : core.worker = .observed run)
      (found : core.runs.lookup (reservationKeyFor run) = some object)
      (persisted : object.view.persisted = some run) (advances : LifecycleStep run new)
      (sameKind : new.isUnassignedPending = run.isUnassignedPending) :
      Change reconciler core (.backfill fault) { core with
          runs := core.runs.insert (reservationKeyFor run) (object.write (some new))
          worker := .admitting new } []
  | proceed (fault : Bool) (run : Run) (worker : core.worker = .observed run) :
      Change reconciler core (.backfill fault) { core with worker := .admitting run } []
  | ignore (now : Time) (fault : Bool) (run : Run) (worker : core.worker = .admitting run)
      (ignored : admission reconciler.platform run now = .ignore) :
      Change reconciler core (.assess now fault) { core with worker := .idle } []
  | schedule (now : Time) (fault : Bool) (run : Run) (request : ResourceList)
      (worker : core.worker = .admitting run)
      (admitted : admission reconciler.platform run now = .schedule request) :
      Change reconciler core (.assess now fault) { core with worker := .planning run request } []
  | giveUp (action : Action) (run : Run) (plain : action.usesCache = false)
      (worker : core.worker.run = some run)
      (busy : ∀ run pod, core.worker ≠ .binding run pod) :
      Change reconciler core action { core with worker := .idle } [reservationKeyFor run]
  | plan (pods : List Pod) (workspace : Option PersistentWorkspace) (now : Time) (run : Run)
      (request : ResourceList) (worker : Worker) (added : List ReservationKey)
      (stage : core.worker = .planning run request)
      (result : (worker = .idle ∧ added = [reservationKeyFor run]) ∨ ∃ status again,
        worker = .reporting { run with status } again ∧
          (({ run with status } : Run).isUnassignedPending = true ∨
            status.phase.isTerminal = true)) :
      Change reconciler core (.plan pods workspace now) { core with
          assumptions := syncLocked core.assumptions (core.listRuns run.nameSpace), worker }
        added
  | reserve (pods : List Pod) (workspace : Option PersistentWorkspace) (now : Time)
      (run : Run) (request : ResourceList) (pod : Pod)
      (stage : core.worker = .planning run request) (listed : pod ∈ core.pods)
      (sameSpace : pod.nameSpace = run.nameSpace)
      (fit : fits (advertised reconciler pod)
        (mergeUsage (assignedRunUsage (core.listRuns run.nameSpace))
          (usageLocked (syncLocked core.assumptions (core.listRuns run.nameSpace))) pod.name)
        request = true)
      (chosen : pod ∈ availablePods reconciler
        (loadSchedulingSnapshot core.assumptions run request pods workspace
          (core.listRuns run.nameSpace) now).2) :
      Change reconciler core (.plan pods workspace now) { core with
          assumptions := assumeLocked
            (syncLocked core.assumptions (core.listRuns run.nameSpace)) run pod.name request
          worker := .binding run pod } []
  | bind (now : Time) (fault : Bool) (run stored : Run) (pod : Pod) (object : RunObject)
      (worker : core.worker = .binding run pod)
      (found : core.runs.lookup (reservationKeyFor run) = some object)
      (persisted : object.view.persisted = some stored)
      (same : stored.resourceVersion = run.resourceVersion)
      (updated : (core.update (bindStatus run pod now) fault).isSome = true) :
      Change reconciler core (.bind now fault) { core with
          runs := core.runs.insert (reservationKeyFor run)
            (object.write (some (storeStatus stored (bindStatus run pod now).status)))
          worker := .idle } []
  | refuse (now : Time) (fault : Bool) (run : Run) (pod : Pod)
      (worker : core.worker = .binding run pod)
      (failed : core.update (bindStatus run pod now) fault = none) :
      Change reconciler core (.bind now fault)
        { core with assumptions := release core.assumptions run, worker := .idle }
        [reservationKeyFor run]

/-! ## The stages as changes -/

theorem store_of_lookup (found : core.runs.lookup key = some object) (version : Option Run) :
    core.store key version = { core with runs := core.runs.insert key (object.write version) } := by
  simp only [Core.store, found]
  rfl

theorem persistedRun_eq_some_iff :
    core.persistedRun key = some run ↔
      ∃ object, core.runs.lookup key = some object ∧ object.view.persisted = some run := by
  simp [Core.persistedRun, Option.bind_eq_some_iff]

theorem cachedRun_eq_some_iff :
    core.cachedRun key = some run ↔
      ∃ object, core.runs.lookup key = some object ∧ object.view.cached = some run := by
  simp [Core.cachedRun, Option.bind_eq_some_iff]

/-- A successful update found the stored version unchanged since the copy. -/
theorem update_eq_some (updated : core.update run fault = some (next, new)) :
    ∃ object stored, core.runs.lookup (reservationKeyFor run) = some object ∧
      object.view.persisted = some stored ∧
      stored.resourceVersion = run.resourceVersion ∧ new = storeStatus stored run.status ∧
      next = { core with
        runs := core.runs.insert (reservationKeyFor run) (object.write (some new)) } := by
  unfold Core.update at updated
  split at updated
  · contradiction
  split at updated
  · contradiction
  rename_i stored latest
  split at updated
  next same =>
    rcases persistedRun_eq_some_iff.mp latest with ⟨object, found, objectPersisted⟩
    rw [store_of_lookup found] at updated
    cases updated
    exact ⟨object, stored, found, objectPersisted, same, rfl, rfl⟩
  · contradiction

/-- A status update is a lifecycle step as soon as the status change is one. -/
theorem lifecycleStep_storeStatus {status : RunStatus}
    (allowed : StatusStep stored (storeStatus stored status)) :
    LifecycleStep stored (storeStatus stored status) :=
  ⟨rfl, rfl, rfl, rfl, allowed⟩

/-- The backfill changes the mode and at most an empty phase. -/
theorem modeBackfill_eq_some {filled : Run} (outdated : modeBackfill run = some filled) :
    filled = { run with
      status := { run.status with
        mode := run.spec.mode.name
        phase := if run.status.phase = .unset then .pending else run.status.phase } } := by
  unfold modeBackfill at outdated
  split at outdated
  · exact (Option.some.inj outdated).symm
  · contradiction

/-- The backfill of a settled Run is a lifecycle step that keeps its kind. -/
theorem statusStep_modeBackfill {filled : Run} (settled : Settled run)
    (outdated : modeBackfill run = some filled) :
    StatusStep run (storeStatus run filled.status) ∧
      (storeStatus run filled.status).isUnassignedPending = run.isUnassignedPending := by
  have shape := modeBackfill_eq_some outdated
  have samePod : filled.status.assignedPod = run.status.assignedPod := by rw [shape]
  by_cases empty : run.status.phase = .unset
  · have phase : filled.status.phase = .pending := by simp [shape, empty]
    have sameKind : (storeStatus run filled.status).isUnassignedPending =
        run.isUnassignedPending := by
      simp [Run.isUnassignedPending, phase, samePod, empty, RunPhase.isPending]
    have waiting : run.isUnassignedPending = true :=
      isPending_of_settled_of_isPending settled (by simp [empty, RunPhase.isPending])
    exact ⟨.inl ⟨waiting, .inl (sameKind.trans waiting)⟩, sameKind⟩
  · have phase : filled.status.phase = run.status.phase := by simp [shape, empty]
    have sameKind : (storeStatus run filled.status).isUnassignedPending =
        run.isUnassignedPending := by
      simp [Run.isUnassignedPending, phase, samePod]
    refine ⟨?_, sameKind⟩
    rcases settled with waiting | ⟨active, _⟩ | terminal
    · exact .inl ⟨waiting, .inl (sameKind.trans waiting)⟩
    · refine .inr (.inl ⟨active, .inl ⟨?_, ?_⟩⟩)
      · simpa [phase] using active
      · simpa using samePod
    · exact .inr (.inr ⟨terminal, by simp [phase]⟩)

theorem change_of_performBackfill (base : Base core)
    (performed : performBackfill core fault = some (next, added)) :
    Change reconciler core (.backfill fault) next added := by
  unfold performBackfill at performed
  cases worker : core.worker with
  | observed run =>
    simp only [worker] at performed
    cases outdated : modeBackfill run <;> simp only [outdated] at performed
    case none =>
      cases performed
      exact Change.proceed fault run worker
    case some filled =>
      have shape := modeBackfill_eq_some outdated
      have sameKey : reservationKeyFor filled = reservationKeyFor run := by
        rw [shape]
        rfl
      cases updated : core.update filled fault <;> rw [updated] at performed <;> cases performed
      case none =>
        exact Change.giveUp _ run rfl (by simp [worker, Worker.run]) (by simp [worker])
      case some result =>
        rcases update_eq_some updated with
          ⟨object, stored, found, latest, sameVersion, written, resultCore⟩
        rw [sameKey] at found resultCore
        rw [shape] at sameVersion
        obtain ⟨rfl, settled⟩ := (base.stage worker : Held core run Tracks).unmodified
          found latest sameVersion
        rcases statusStep_modeBackfill settled outdated with ⟨advances, sameKind⟩
        rw [← written] at advances sameKind
        rw [resultCore]
        exact Change.backfill fault stored result.2 object worker found latest
          (written ▸ lifecycleStep_storeStatus (written ▸ advances)) sameKind
  | idle | admitting | planning | reporting | binding => simp [worker] at performed

/-- A final status update of the worker, as a change. -/
theorem change_of_update (action : Action) (added : List ReservationKey)
    (plain : action.usesCache = false) (updated : core.update run fault = some (next, new))
    (allowed : ∀ object stored, core.runs.lookup (reservationKeyFor run) = some object →
      object.view.persisted = some stored →
      stored.resourceVersion = run.resourceVersion →
        StatusStep stored (storeStatus stored run.status))
    (busy : ∀ run pod, core.worker ≠ .binding run pod)
    (own : ∀ held, core.worker.run = some held → reservationKeyFor held = reservationKeyFor run) :
    Change reconciler core action { next with worker := .idle } added := by
  rcases update_eq_some updated with ⟨object, stored, found, latest, same, rfl, rfl⟩
  exact Change.write action _ object stored _ .idle added plain found latest
    (lifecycleStep_storeStatus (allowed object stored found latest same))
    (.inr ⟨rfl, busy, own⟩)

theorem change_of_performAssess (base : Base core)
    (performed : performAssess reconciler core now fault = some (next, added)) :
    Change reconciler core (.assess now fault) next added := by
  unfold performAssess at performed
  cases worker : core.worker with
  | admitting run =>
    simp only [worker] at performed
    have busy : ∀ other pod, core.worker ≠ .binding other pod := by simp [worker]
    cases admitted : admission reconciler.platform run now <;> simp only [admitted] at performed
    case ignore =>
      cases performed
      exact Change.ignore now fault run worker admitted
    case delay =>
      cases performed
      exact Change.giveUp _ run rfl (by simp [worker, Worker.run]) busy
    case schedule request =>
      cases performed
      exact Change.schedule now fault run request worker admitted
    case terminate =>
      rcases admission_eq_terminate admitted with
        ⟨phase, reason, message, rfl, isTerminal, pending⟩
      cases updated : core.update (setTerminal run phase reason message now) fault <;>
        rw [updated] at performed <;> cases performed
      case none => exact Change.giveUp _ run rfl (by simp [worker, Worker.run]) busy
      case some =>
        refine change_of_update _ _ rfl updated ?_ busy
          (by simp [worker, Worker.run, reservationKeyFor, setTerminal])
        intro object stored found latest same
        obtain ⟨rfl, settled⟩ := (base.stage worker : Held core run Tracks).unmodified
          found latest same
        exact .inl ⟨isPending_of_settled_of_isPending settled pending, .inr isTerminal⟩
  | idle | observed | planning | reporting | binding => simp [worker] at performed

theorem change_of_performReport (base : Base core)
    (performed : performReport core fault = some (next, added)) :
    Change reconciler core (.report fault) next added := by
  unfold performReport at performed
  cases worker : core.worker with
  | reporting run =>
    simp only [worker] at performed
    have busy : ∀ other pod, core.worker ≠ .binding other pod := by simp [worker]
    cases updated : core.update run fault <;> rw [updated] at performed <;> cases performed
    · exact Change.giveUp _ run rfl (by simp [worker, Worker.run]) busy
    · refine change_of_update _ _ rfl updated ?_ busy (by simp [worker, Worker.run])
      intro object stored found latest same
      obtain ⟨held, kind⟩ := base.stage worker
      have waits := (held.at_lookup found).2
      have mem := Watched.mem_versions_of_persisted latest
      refine .inl ⟨waits stored mem same.le, ?_⟩
      rcases kind with waiting | terminal
      · exact .inl (by simpa [Run.isUnassignedPending] using waiting)
      · exact .inr (by simpa using terminal)
  | idle | observed | admitting | planning | binding => simp [worker] at performed

theorem change_of_performBind (performed : performBind core now fault = some (next, added)) :
    Change reconciler core (.bind now fault) next added := by
  unfold performBind at performed
  cases worker : core.worker with
  | binding run pod =>
    simp only [worker] at performed
    cases updated : core.update (bindStatus run pod now) fault <;>
      rw [updated] at performed <;> cases performed
    · exact Change.refuse now fault run pod worker updated
    · rcases update_eq_some updated with
        ⟨object, stored, found, latest, same, written, resultCore⟩
      rw [resultCore, written]
      exact Change.bind now fault run stored pod object worker found latest same
        (by rw [updated]; rfl)
  | idle | observed | admitting | planning | reporting => simp [worker] at performed

theorem syncLocked_syncLocked (cache : AssumedReservationCache) (runs : List Run) :
    syncLocked (syncLocked cache runs) runs = syncLocked cache runs :=
  Table.keep_keep _ _

/-- The waiting status of a Run without an assignment is waiting. -/
theorem isUnassignedPending_of_waitingStatus {waiting : Run} {message : String}
    (unassigned : run.isUnassignedPending = true)
    (reported : waitingStatus run message = some waiting) :
    ∃ status, waiting = { run with status } ∧ waiting.isUnassignedPending = true := by
  unfold waitingStatus at reported
  split at reported
  · cases reported
    refine ⟨_, rfl, ?_⟩
    rw [Run.isUnassignedPending_iff] at unassigned ⊢
    exact ⟨rfl, unassigned.2⟩
  · contradiction

theorem change_of_performPlan {pods : List Pod} {workspace : Option PersistentWorkspace}
    (base : Base core)
    (performed : performPlan reconciler core pods workspace now = some (next, added)) :
    Change reconciler core (.plan pods workspace now) next added := by
  unfold performPlan at performed
  cases worker : core.worker with
  | planning run request =>
    simp only [worker] at performed
    split at performed
    next known =>
      have held := base.stage worker
      let loaded := loadSchedulingSnapshot core.assumptions run request pods workspace
        (core.listRuns run.nameSpace) now
      have planned : Planned reconciler loaded.1 loaded.2
          (planAndReserve reconciler loaded.1 loaded.2) :=
        planned_planAndReserve (syncLocked_syncLocked _ _)
      generalize planAndReserve reconciler loaded.1 loaded.2 = result at performed planned
      cases planned with
      | retry =>
        cases performed
        exact Change.plan pods workspace now run request .idle _ worker (.inl ⟨rfl, rfl⟩)
      | fail =>
        cases performed
        exact Change.plan pods workspace now run request _ _ worker
          (.inr ⟨_, false, rfl, .inr rfl⟩)
      | wait message =>
        cases reported : waitingStatus loaded.2.run message <;>
          rw [reported] at performed <;> cases performed
        · exact Change.plan pods workspace now run request .idle _ worker (.inl ⟨rfl, rfl⟩)
        · rcases isUnassignedPending_of_waitingStatus held.2.1 reported with
            ⟨status, rfl, unassigned⟩
          exact Change.plan pods workspace now run request _ _ worker
            (.inr ⟨status, true, rfl, .inl unassigned⟩)
      | reserved pod listed available =>
        cases performed
        have chosen : pod ∈ availablePods reconciler loaded.2 :=
          List.mem_filter.mpr ⟨listed, available⟩
        rcases List.mem_filter.mp listed with ⟨candidate, matching⟩
        simp only [Bool.and_eq_true, beq_iff_eq] at matching
        exact Change.reserve pods workspace now run request pod worker
          (known pod candidate) matching.1 (fits_of_isRuntimePodAvailable available) chosen
    · contradiction
  | idle | observed | admitting | reporting | binding => simp [worker] at performed

/-- Every action changes a core that satisfies `Base` in one of the listed ways. -/
theorem change_of_perform (base : Base core)
    (performed : perform reconciler action core = some (next, added)) :
    Change reconciler core action next added := by
  cases action with
  | create run =>
    simp only [perform, performCreate] at performed
    split at performed
    next admitted =>
      cases performed
      refine Change.create run admitted.1 ?_ admitted.2.2
      rcases admitted.2.1 with status | status <;>
        simp [Run.isUnassignedPending, status, RunPhase.isPending]
    · contradiction
  | lifecycle key new =>
    simp only [perform] at performed
    cases latest : core.persistedRun key with
    | none => simp [latest] at performed
    | some old =>
      simp only [latest] at performed
      split at performed
      next advances =>
        rcases persistedRun_eq_some_iff.mp latest with ⟨object, found, stored⟩
        rw [store_of_lookup found] at performed
        cases performed
        exact Change.write _ key object old new core.worker _ rfl found stored advances (.inl rfl)
      · contradiction
  | remove key =>
    simp only [perform] at performed
    split at performed
    next present =>
      rcases Option.isSome_iff_exists.mp present with ⟨stored, latest⟩
      rcases persistedRun_eq_some_iff.mp latest with ⟨object, found, objectPersisted⟩
      rw [store_of_lookup found] at performed
      cases performed
      exact Change.remove key object stored found objectPersisted
    · contradiction
  | deliver key =>
    simp only [perform, performDeliver] at performed
    cases found : core.runs.lookup key with
    | none => simp [found] at performed
    | some object =>
      simp only [found] at performed
      cases delivered : object.view.deliver with
      | none => simp [delivered] at performed
      | some view =>
        rw [delivered] at performed
        cases performed
        exact Change.deliver key object view found delivered
  | podWrite pod =>
    simp only [perform] at performed
    split at performed
    next keeps =>
      cases performed
      exact Change.podWrite pod keeps
    · contradiction
  | podEvent | workspaceEvent =>
    simp only [perform, Option.some.injEq, Prod.mk.injEq] at performed
    exact performed.1 ▸ Change.wake _ _ rfl
  | fetch key =>
    simp only [perform, performFetch] at performed
    split at performed
    next idle missing =>
      cases performed
      exact Change.absent key idle missing
    next run idle cached =>
      cases performed
      rcases cachedRun_eq_some_iff.mp cached with ⟨object, found, copy⟩
      exact Change.fetch key object run idle found copy
    · contradiction
  | backfill => exact change_of_performBackfill base performed
  | assess => exact change_of_performAssess base performed
  | snapshotError =>
    simp only [perform, performSnapshotError] at performed
    split at performed
    next run request worker =>
      cases performed
      exact .giveUp _ run rfl (by rw [worker]; rfl) (by simp [worker])
    · contradiction
  | plan => exact change_of_performPlan base performed
  | report => exact change_of_performReport base performed
  | bind => exact change_of_performBind performed

/-! ## The base invariant -/

/-- What the worker knows depends on its copy, the known Pods and the cache. -/
theorem WorkerInv.of_held (inv : WorkerInv core) (sameWorker : next.worker = core.worker)
    (tracks : ∀ run, Held core run Tracks → Held next run Tracks)
    (waits : ∀ run, Held core run Waits → Held next run Waits)
    (pods : ∀ pod ∈ core.pods, pod ∈ next.pods) (sameCache : next.assumptions = core.assumptions) :
    WorkerInv next := by
  unfold WorkerInv at inv ⊢
  rw [sameWorker, sameCache]
  cases worker : core.worker with
  | idle => trivial
  | observed run | admitting run =>
    simp only [worker] at inv
    exact tracks run inv
  | planning run | reporting run =>
    simp only [worker] at inv
    exact ⟨waits run inv.1, inv.2⟩
  | binding run pod =>
    simp only [worker] at inv
    exact ⟨waits run inv.1, inv.2.1, pods pod inv.2.2.1, inv.2.2.2⟩

section ObjectChange

variable {core : Core} {key : ReservationKey} {object next : RunObject}

section Later

variable (found : core.runs.lookup key = some object) (later : Later object next)

include found later

theorem Held.of_later {relation : RunObject → Run → Prop} (held : Held core run relation)
    (kept : Copy object run → relation object run → relation next run) :
    Held { core with runs := core.runs.insert key next } run relation := by
  rcases held with ⟨holder, holderFound, copy, related⟩
  by_cases same : reservationKeyFor run = key
  · cases found.symm.trans (same ▸ holderFound)
    exact ⟨next, by rw [same]; exact AList.lookup_insert _, later.copy copy, kept copy related⟩
  · exact ⟨holder, by rwa [AList.lookup_insert_ne same], copy, related⟩

/-- What the worker knows survives a change of any object. -/
theorem WorkerInv.of_later (inv : WorkerInv core) :
    WorkerInv { core with runs := core.runs.insert key next } :=
  inv.of_held rfl (fun _ held => held.of_later found later later.tracks)
    (fun _ held => held.of_later found later later.waits) (fun _ mem => mem) rfl

/-- `Base` survives a change of one object, once the new object is well formed. -/
theorem Base.of_later (base : Base core) (wellFormed : WellFormed key next) :
    Base { core with runs := core.runs.insert key next } := by
  constructor
  · intro other stored lookup
    rcases Table.lookup_insert_cases lookup with ⟨rfl, rfl⟩ | ⟨_, lookup⟩
    · exact wellFormed
    · exact base.objects other stored lookup
  · intro other reservation reserved
    rcases base.reservations other reservation reserved with ⟨holder, holderFound, belongs⟩
    by_cases same : other = key
    · subst same
      cases found.symm.trans holderFound
      refine ⟨next, AList.lookup_insert _, ?_⟩
      rw [ReservationOf, later.created]
      exact belongs
    · exact ⟨holder, by rwa [AList.lookup_insert_ne same], belongs⟩
  · exact base.worker.of_later found later

end Later

end ObjectChange

/-- `Base` does not depend on what the worker does next, once that is justified. -/
theorem Base.withWorker (base : Base core) (justified : WorkerInv { core with worker }) :
    Base { core with worker } :=
  ⟨base.objects, base.reservations, justified⟩

/-- `Base` survives dropping reservations while none is being bound. -/
theorem Base.withAssumptions (base : Base core) {assumptions : AssumedReservationCache}
    (kept : ∀ key reservation, assumptions.lookup key = some reservation →
      core.assumptions.lookup key = some reservation)
    (justified : WorkerInv { core with assumptions, worker }) :
    Base { core with assumptions, worker } :=
  ⟨base.objects, fun key reservation found =>
    base.reservations key reservation (kept key reservation found), justified⟩

theorem lookup_of_lookup_erase {cache : AssumedReservationCache} {erased : ReservationKey}
    (found : (cache.erase erased).lookup key = some reservation) :
    key ≠ erased ∧ cache.lookup key = some reservation := by
  by_cases same : key = erased
  · subst same
    rw [AList.lookup_erase] at found
    contradiction
  · rw [AList.lookup_erase_ne same] at found
    exact ⟨same, found⟩

/-- Observing a Run only removes its own reservation, and only when the copy shows
the Run assigned or not Pending. -/
theorem lookup_of_lookup_observe {cache : AssumedReservationCache}
    (found : (observe cache run).lookup key = some reservation) :
    cache.lookup key = some reservation := by
  unfold observe at found
  split at found
  · exact found
  · exact (lookup_of_lookup_erase found).2

theorem wellFormed_created (waiting : run.isUnassignedPending = true)
    (weights : run.spec.weightsAdmitted = true) :
    WellFormed (reservationKeyFor run) ⟨run, ⟨none, [some run]⟩⟩ := by
  have only : ∀ other, some other ∈ (⟨none, [some run]⟩ : Watched (Option Run)).versions →
      other = run := by
    intro other mem
    simpa [Watched.versions] using mem
  constructor
  · exact fun other mem => congrArg reservationKeyFor (only other mem)
  · exact fun other mem => congrArg Run.name (only other mem)
  · exact fun other mem => congrArg Run.fixedSpec (only other mem)
  · exact weights
  · exact fun other mem => only other mem ▸ .inl waiting
  · simp [Watched.versions, Earlier]
  · simp

theorem Base.create (base : Base core) (fresh : core.runs.lookup (reservationKeyFor run) = none)
    (waiting : run.isUnassignedPending = true) (weights : run.spec.weightsAdmitted = true) :
    Base { core with
      runs := core.runs.insert (reservationKeyFor run) ⟨run, ⟨none, [some run]⟩⟩ } := by
  have existing : ∀ {key object}, core.runs.lookup key = some object →
      AList.lookup key (core.runs.insert (reservationKeyFor run) ⟨run, ⟨none, [some run]⟩⟩) =
        some object := by
    intro key object found
    have different : key ≠ reservationKeyFor run := by
      rintro rfl
      rw [fresh] at found
      contradiction
    rw [AList.lookup_insert_ne different, found]
  have held : ∀ {other relation}, Held core other relation → Held { core with
      runs := core.runs.insert (reservationKeyFor run) ⟨run, ⟨none, [some run]⟩⟩ }
      other relation := by
    rintro _ _ ⟨object, found, related⟩
    exact ⟨object, existing found, related⟩
  constructor
  · intro key object found
    rcases Table.lookup_insert_cases found with ⟨rfl, rfl⟩ | ⟨_, found⟩
    · exact wellFormed_created waiting weights
    · exact base.objects key object found
  · intro key reservation reserved
    rcases base.reservations key reservation reserved with ⟨object, found, belongs⟩
    exact ⟨object, existing found, belongs⟩
  · exact base.worker.of_held rfl (fun _ => held) (fun _ => held) (fun _ mem => mem) rfl

/-- The version that a backfill has stored is a copy that tracks the object. -/
theorem tracks_written (wellFormed : WellFormed key object) (copy : Copy object run)
    (tracks : Tracks object run) (persisted : object.view.persisted = some run)
    (advances : LifecycleStep run new)
    (sameKind : new.isUnassignedPending = run.isUnassignedPending) :
    Copy (object.write (some new)) new ∧ Tracks (object.write (some new)) new := by
  have later : Later object (object.write (some new)) := later_write persisted advances.version
  have notLater : ∀ version, some version ∈ object.view.versions →
      version.resourceVersion ≤ run.resourceVersion := fun version mem =>
    wellFormed.resourceVersion_le persisted mem
  have version := advances.version
  refine ⟨⟨advances.name.trans copy.name, advances.spec.trans copy.spec, ?_,
    (later.copy copy).seen⟩, advances.status.settled tracks.settled, ?_, ?_⟩
  · intro stored latest
    cases (Watched.persisted_write _ _).symm.trans latest
    exact le_rfl
  · intro other mem same
    rcases Watched.mem_versions_write.mp mem with old | last
    · have bound := notLater other old
      omega
    · exact Option.some.inj last
  · intro other mem older pending
    rcases Watched.mem_versions_write.mp mem with old | last
    · exact tracks.waits (sameKind ▸ pending) other old (notLater other old)
    · rw [Option.some.inj last] at older
      exact absurd older (lt_irrefl _)

theorem wellFormed_bound {pod : Pod} (wellFormed : WellFormed key object)
    (latest : object.view.persisted = some stored) :
    WellFormed key (object.write (some (storeStatus stored (bindStatus run pod now).status))) :=
  wellFormed.write latest rfl rfl rfl rfl (.inr (.inl ⟨rfl, pod.name_ne_empty⟩))

/-- Every action preserves `Base`. -/
theorem Base.of_change (base : Base core) (change : Change reconciler core action next added) :
    Base next := by
  cases change with
  | create run fresh waiting weights => exact base.create fresh waiting weights
  | write _ key object stored new worker _ _ found latest advances stage =>
    have wellFormed := base.objects key object found
    have mem := Watched.mem_versions_of_persisted latest
    have written := base.of_later found (later_write latest advances.version)
      (wellFormed.write latest advances.key advances.name advances.spec
        advances.version (advances.status.settled (wellFormed.settled stored mem)))
    rcases stage with rfl | ⟨rfl, _⟩
    · exact written
    · exact written.withWorker trivial
  | remove key object stored found =>
    exact base.of_later found (later_delete object) (base.objects key object found).delete
  | deliver key object view found delivered =>
    exact base.of_later found (later_deliver delivered)
      ((base.objects key object found).deliver delivered)
  | podWrite =>
    exact ⟨base.objects, base.reservations, base.worker.of_held rfl (fun _ held => held)
      (fun _ held => held) (fun _ mem => .tail _ mem) rfl⟩
  | wake | absent => exact base
  | fetch key object run idle found cached =>
    have wellFormed := base.objects key object found
    have mem := Watched.mem_versions_of_cached cached
    have sameKey := wellFormed.sameKey run mem
    refine base.withAssumptions (fun _ _ => lookup_of_lookup_observe) ?_
    exact ⟨object, by rw [sameKey]; exact found, wellFormed.copy_of_cached cached⟩
  | backfill fault run new object worker found latest advances sameKind =>
    have wellFormed := base.objects _ object found
    have held := base.stage worker
    obtain ⟨copy, tracks⟩ := held.at_lookup found
    have written := base.of_later found (later_write latest advances.version)
      (wellFormed.write latest advances.key advances.name advances.spec
        advances.version (advances.status.settled tracks.settled))
    refine written.withWorker ⟨object.write (some new), ?_,
      tracks_written wellFormed copy tracks latest advances sameKind⟩
    rw [advances.key]
    exact AList.lookup_insert _
  | proceed fault run worker =>
    have held := base.stage worker
    exact base.withWorker held
  | schedule now fault run request worker admitted =>
    rcases base.stage worker with ⟨object, found, copy, tracks⟩
    rcases admission_eq_schedule admitted with ⟨pending, computed⟩
    have waiting := isPending_of_settled_of_isPending tracks.settled pending
    exact base.withWorker ⟨⟨object, found, copy, tracks.waits waiting⟩, waiting, computed⟩
  | ignore | giveUp => exact base.withWorker trivial
  | plan pods workspace now run request worker _ stage result =>
    have held := base.stage stage
    refine base.withAssumptions (fun _ _ found => (lookup_syncLocked_eq_some_iff.mp found).1) ?_
    rcases result with ⟨rfl, _⟩ | ⟨_, _, rfl, kind⟩
    · trivial
    · rcases held.1 with ⟨object, found, copy, waits⟩
      exact ⟨⟨object, found, ⟨copy.name, copy.spec, copy.current, copy.seen⟩, waits⟩, kind⟩
  | reserve pods workspace now run request pod stage listed sameSpace =>
    rcases base.stage stage with ⟨⟨object, found, copy, waits⟩, waiting, computed⟩
    refine ⟨base.objects, ?_, ⟨⟨object, found, copy, waits⟩, waiting, listed, sameSpace,
      request, computed, lookup_assumeLocked_self _ _ _ _⟩⟩
    intro key reservation reserved
    by_cases same : key = reservationKeyFor run
    · subst same
      cases (lookup_assumeLocked_self _ _ _ _).symm.trans reserved
      refine ⟨object, found, copy.name, ?_⟩
      rw [← resourceRequests_eq_of_fixedSpec copy.spec, computed]
    · rw [lookup_assumeLocked_of_ne same] at reserved
      exact base.reservations key reservation (lookup_syncLocked_eq_some_iff.mp reserved).1
  | bind now fault run stored pod object worker found latest =>
    exact (base.of_later found (later_write latest rfl)
      (wellFormed_bound (base.objects _ object found) latest)).withWorker trivial
  | refuse =>
    exact base.withAssumptions (fun _ _ found => (lookup_of_lookup_erase found).2) trivial

theorem base_empty : Base Core.empty :=
  ⟨fun _ _ found => by simp [Core.empty] at found,
    fun _ _ found => by simp [Core.empty] at found, trivial⟩

/-- `Base` holds in every reachable cluster. -/
theorem base_of_step {cluster next : Cluster} (base : Base cluster.core)
    (stepped : step reconciler action cluster = some next) :
    Base next.core := by
  rcases step_eq_some_iff.mp stepped with ⟨_, _, performed, _⟩
  exact base.of_change (change_of_perform base performed)

/-! ## Cached lists -/

theorem mem_listRuns_iff {nameSpace : String} :
    run ∈ core.listRuns nameSpace ↔
      (∃ key object, core.runs.lookup key = some object ∧ object.view.cached = some run) ∧
        run.nameSpace = nameSpace := by
  rw [Core.listRuns, List.mem_filter, List.mem_filterMap, beq_iff_eq]
  refine and_congr_left fun _ => ?_
  constructor
  · rintro ⟨⟨key, object⟩, mem, cached⟩
    exact ⟨key, object, Table.mem_entries_iff.mp mem, cached⟩
  · rintro ⟨key, object, found, cached⟩
    exact ⟨⟨key, object⟩, Table.mem_entries_iff.mpr found, cached⟩

/-- The list of a namespace shows each of its Runs by the informer's copy. -/
theorem byKey_listRuns (base : Base core) (found : core.runs.lookup key = some object)
    (cached : object.view.cached = some run) :
    byKey (core.listRuns key.nameSpace) key = some run := by
  have sameKey : ∀ {other stored copy}, core.runs.lookup other = some stored →
      stored.view.cached = some copy → reservationKeyFor copy = other := by
    intro other stored copy lookup shown
    exact (base.objects other stored lookup).sameKey copy (Watched.mem_versions_of_cached shown)
  have listed : run ∈ core.listRuns key.nameSpace :=
    mem_listRuns_iff.mpr ⟨⟨key, object, found, cached⟩,
      congrArg ReservationKey.nameSpace (sameKey found cached)⟩
  cases search : byKey (core.listRuns key.nameSpace) key with
  | none => exact absurd (sameKey found cached) (byKey_eq_none_iff.mp search run listed)
  | some =>
    rcases byKey_eq_some search with ⟨mem, otherKey⟩
    rcases (mem_listRuns_iff.mp mem).1 with ⟨key', _, lookup, shown⟩
    obtain rfl : key' = key := (sameKey lookup shown).symm.trans otherKey
    cases found.symm.trans lookup
    rw [← cached, ← shown]

/-- A reservation survives the synchronisation with the list of its namespace
while the informer shows the Run waiting. -/
theorem lookup_syncLocked_of_waiting (base : Base core)
    (reserved : core.assumptions.lookup key = some reservation)
    (found : core.runs.lookup key = some object)
    (waiting : showsPending object.view.cached = true) :
    (syncLocked core.assumptions (core.listRuns key.nameSpace)).lookup key = some reservation := by
  cases cached : object.view.cached with
  | none => simp [showsPending, cached] at waiting
  | some run =>
    rcases base.reservations key reservation reserved with ⟨_, ownerFound, sameName, _⟩
    cases found.symm.trans ownerFound
    have mem := Watched.mem_versions_of_cached cached
    refine lookup_syncLocked_eq_some_iff.mpr ⟨reserved, run,
      byKey_listRuns base found cached, ?_, ?_⟩
    · simpa [showsPending, cached] using waiting
    · rw [sameName]
      exact (base.objects key object found).sameName run mem

/-- A sum over a cached list is a total over the stored objects. -/
theorem sum_listRuns (core : Core) (nameSpace : String) (weight : Run → Int) :
    ((core.listRuns nameSpace).map weight).sum =
      core.runs.total fun _ object => object.view.cached.elim 0 fun run =>
        if run.nameSpace = nameSpace then weight run else 0 := by
  unfold Core.listRuns Table.total
  induction core.runs.entries with
  | nil => rfl
  | cons entry rest ih =>
    cases cached : entry.2.view.cached with
    | none => simpa [cached] using ih
    | some run =>
      by_cases inside : run.nameSpace = nameSpace
      · simpa [cached, inside] using ih
      · simpa [cached, inside] using ih

end Kruntimes.Scheduler
