import Kruntimes.Scheduler.Handoff
import Kruntimes.Scheduler.Wakeup

/-!
# A scheduling cycle in a quiet cluster

When the informer is up to date and no bind is in flight, the snapshot of the next
cycle counts exactly the served Runs, and a cycle without faults binds a waiting
Run as soon as some Pod passes the filters beside them.
-/

namespace Kruntimes.Scheduler

open Api Data Transition

variable {core start : Core} {key : ReservationKey} {now : Time} {pod : Pod}
  {request : ResourceList}

/-- The stored Runs of one namespace. -/
def Core.persistedRuns (core : Core) (nameSpace : String) : List Run :=
  (core.runs.entries.filterMap fun entry => entry.2.view.persisted).filter fun run =>
    run.nameSpace == nameSpace

/-- The snapshot that counts what is stored and nothing else. -/
def exactSnapshot (core : Core) (run : Run) (request : ResourceList) (pods : List Pod)
    (workspace : Option PersistentWorkspace) (now : Time) : SchedulingSnapshot where
  run := run
  request := request
  pods := runtimePods run pods
  actualUsageByPod := servedUsage core run.nameSpace
  usageByPod := servedUsage core run.nameSpace
  runs := core.persistedRuns run.nameSpace
  affinityTargets :=
    ((core.persistedRuns run.nameSpace).filter isActiveAffinityTarget).map fun run =>
      { podName := run.status.assignedPod, labels := run.labels }
  workspace := workspace
  now := now

/-- The Run that a cycle works with after the mode backfill. -/
def backfilled (run : Run) : Run :=
  match modeBackfill run with
  | none => run
  | some filled => storeStatus run filled.status

/-! ## From the stored Run to the snapshot -/

/-- What a cycle has changed before its snapshot: at most the backfill of its own
Run. -/
structure Prepared (start core : Core) (key : ReservationKey) (run : Run) : Prop where
  base : Base core
  inv : HandoffInv core
  quiet : ∀ other object, core.runs.lookup other = some object → Quiet object
  pods : core.pods = start.pods
  cached : ∀ other, core.cachedRun other = start.cachedRun other
  persisted : core.persistedRun key = some run
  served : ∀ nameSpace, servedUsage core nameSpace = servedUsage start nameSpace

theorem mem_persistedRuns_iff {nameSpace : String} {run : Run} :
    run ∈ core.persistedRuns nameSpace ↔
      (∃ key, core.persistedRun key = some run) ∧ run.nameSpace = nameSpace := by
  rw [Core.persistedRuns, List.mem_filter, List.mem_filterMap, beq_iff_eq]
  refine and_congr_left fun _ => ?_
  constructor
  · rintro ⟨⟨key, object⟩, mem, latest⟩
    exact ⟨key, persistedRun_eq_some_iff.mpr ⟨object, Table.mem_entries_iff.mp mem, latest⟩⟩
  · rintro ⟨key, latest⟩
    rcases persistedRun_eq_some_iff.mp latest with ⟨object, found, stored⟩
    exact ⟨⟨key, object⟩, Table.mem_entries_iff.mpr found, stored⟩

theorem persistedRun_eq_cachedRun
    (upToDate : ∀ key object, core.runs.lookup key = some object → object.view.UpToDate)
    (key : ReservationKey) : core.persistedRun key = core.cachedRun key := by
  unfold Core.persistedRun Core.cachedRun
  cases found : core.runs.lookup key with
  | none => rfl
  | some object => exact (upToDate key object found).persisted_eq

/-- Both lists show the same Runs when the informer is up to date. -/
theorem Prepared.mem_listRuns_iff {run : Run} (prepared : Prepared start core key run)
    (upToDate : ∀ key object, start.runs.lookup key = some object → object.view.UpToDate)
    {nameSpace : String} {listed : Run} :
    listed ∈ core.listRuns nameSpace ↔ listed ∈ start.persistedRuns nameSpace := by
  rw [mem_persistedRuns_iff, Scheduler.mem_listRuns_iff]
  refine and_congr_left fun _ => ?_
  simp only [persistedRun_eq_cachedRun upToDate, ← prepared.cached, cachedRun_eq_some_iff]

/-- A step that leaves the Runs and the Pods alone keeps the core prepared. -/
theorem Prepared.of_runs {next : Core} {run : Run} (prepared : Prepared start core key run)
    (base : Base next) (inv : HandoffInv next) (sameRuns : next.runs = core.runs)
    (samePods : next.pods = core.pods) :
    Prepared start next key run := by
  rcases prepared with ⟨_, _, _, pods, cached, latest, served⟩
  refine ⟨base, inv, by rwa [sameRuns], samePods.trans pods, ?_, ?_, ?_⟩
  · simpa only [Core.cachedRun, sameRuns] using cached
  · simpa only [Core.persistedRun, sameRuns] using latest
  · intro nameSpace
    rw [← served nameSpace]
    unfold servedUsage
    rw [sameRuns]

section Backfill

variable {core : Core} {object : RunObject} {run : Run}

/-- The backfilled Run still waits. -/
theorem isUnassignedPending_backfilled (waiting : run.isUnassignedPending = true) :
    (backfilled run).isUnassignedPending = true := by
  unfold backfilled
  cases outdated : modeBackfill run with
  | none => exact waiting
  | some => exact (statusStep_modeBackfill (.inl waiting) outdated).2.trans waiting

/-- An update of an unchanged Run without a fault is stored. -/
theorem update_of_persisted {new stored : Run}
    (latest : core.persistedRun (reservationKeyFor new) = some stored)
    (same : stored.resourceVersion = new.resourceVersion) :
    core.update new false =
      some (core.store (reservationKeyFor new) (some (storeStatus stored new.status)),
        storeStatus stored new.status) := by
  simp [Core.update, latest, same]

/-- A backfill without a fault stores the backfilled Run or has nothing to store. -/
theorem performBackfill_eq (worker : core.worker = .observed run)
    (latest : core.persistedRun (reservationKeyFor run) = some run) :
    performBackfill core false = some ({ core with worker := .admitting run }, []) ∧
        backfilled run = run ∨
      performBackfill core false =
        some ({ core.store (reservationKeyFor run) (some (backfilled run)) with
          worker := .admitting (backfilled run) }, []) := by
  cases outdated : modeBackfill run with
  | none =>
    refine .inl ⟨?_, by simp only [backfilled, outdated]⟩
    simp only [performBackfill, worker, outdated]
  | some filled =>
    have sameKey : reservationKeyFor filled = reservationKeyFor run := by
      rw [modeBackfill_eq_some outdated]
      rfl
    have sameVersion : run.resourceVersion = filled.resourceVersion := by
      rw [modeBackfill_eq_some outdated]
    have updated := update_of_persisted (sameKey.symm ▸ latest) sameVersion
    refine .inr ?_
    simp only [performBackfill, backfilled, worker, outdated, updated, sameKey]

/-- In a quiet object that waits every version waits. -/
theorem Quiet.showsPending {object : RunObject} (quiet : Quiet object)
    (latest : object.view.persisted = some run) (waiting : run.isUnassignedPending = true)
    {version : Option Run} (mem : version ∈ object.view.versions) :
    showsPending version = true := by
  rcases quiet with upToDate | allWaiting
  · have only : version = object.view.cached := by
      simpa [Watched.versions, show object.view.undelivered = [] from upToDate] using mem
    rw [only, ← upToDate.persisted_eq, latest]
    exact waiting
  · exact allWaiting version mem

/-- Storing a waiting version of a waiting Run keeps the core prepared. -/
theorem Prepared.store {new : Run} (prepared : Prepared start core key run)
    (waiting : run.isUnassignedPending = true) (newWaiting : new.isUnassignedPending = true)
    {worker : Worker} (base : Base { core.store key (some new) with worker })
    (inv : HandoffInv { core.store key (some new) with worker }) :
    Prepared start { core.store key (some new) with worker } key new := by
  rcases persistedRun_eq_some_iff.mp prepared.persisted with ⟨object, found, latest⟩
  have quiet := prepared.quiet key object found
  rw [store_of_lookup found] at base inv ⊢
  refine ⟨base, inv, ?_, prepared.pods, ?_, ?_, ?_⟩
  · intro other stored lookup
    rcases Table.lookup_insert_cases lookup with ⟨rfl, rfl⟩ | ⟨_, lookup⟩
    · refine .inr fun version mem => ?_
      rcases Watched.mem_versions_write.mp mem with old | rfl
      · exact quiet.showsPending latest waiting old
      · exact newWaiting
    · exact prepared.quiet other stored lookup
  · intro other
    rw [← prepared.cached other]
    by_cases same : other = key
    · subst same
      simp [Core.cachedRun, found, RunObject.write]
    · simp [Core.cachedRun, AList.lookup_insert_ne same]
  · simp [Core.persistedRun, RunObject.write]
  · intro nameSpace
    rw [← prepared.served nameSpace]
    funext pod resource
    have before : showsPending object.view.persisted = true :=
      quiet.showsPending latest waiting object.view.persisted_mem_versions
    have after : showsPending (object.write (some new)).view.persisted = true := by
      rw [RunObject.write, Watched.persisted_write]
      exact newWaiting
    simp only [servedUsage, Table.total_insert, found, Option.elim_some,
      servedWeight_of_showsPending before, servedWeight_of_showsPending after, sub_zero,
      add_zero]

end Backfill

/-! ## The stages of a cycle -/

section Stages

variable (reconciler : RunReconciler) {cluster : Cluster} {start : Core}
  {key : ReservationKey} {run : Run}

variable {reconciler} in
theorem exists_step_of_perform {action : Action} {added : List ReservationKey}
    (taken : ∀ key ∈ action.taken, key ∈ cluster.queue)
    (performed : perform reconciler action cluster.core = some (core, added)) :
    ∃ next, step reconciler action cluster = some next ∧ next.core = core :=
  ⟨⟨core, nextQueue action cluster.queue added, nextUnread action cluster⟩,
    step_eq_some_iff.mpr ⟨taken, added, performed, rfl, rfl⟩, rfl⟩

/-- Only an informer event is subject to the guard. -/
theorem handoffGuard_of_delivery_eq_none {action : Action}
    (internal : delivery action cluster.core = none) : HandoffGuard action cluster := by
  intro event mem
  simp [internal] at mem

/-- The worker takes the Run from the workqueue. -/
theorem exists_fetch (base : Base cluster.core) (inv : HandoffInv cluster.core)
    (upToDate : ∀ key object, cluster.core.runs.lookup key = some object → object.view.UpToDate)
    (idle : cluster.core.worker = .idle) (queued : key ∈ cluster.queue)
    (latest : cluster.core.persistedRun key = some run)
    (waiting : run.isUnassignedPending = true) :
    ∃ next, step reconciler (.fetch key) cluster = some next ∧
      next.core.worker = .observed run ∧ Prepared cluster.core next.core key run := by
  have cached := (persistedRun_eq_cachedRun upToDate key).symm.trans latest
  have performed : perform reconciler (.fetch key) cluster.core =
      some ({ cluster.core with worker := .observed run }, []) := by
    simp [perform, performFetch, idle, cached, observe, waiting]
  rcases exists_step_of_perform (by simpa [Action.taken] using queued) performed with
    ⟨next, stepped, result⟩
  have nextBase := base_of_step base stepped
  have nextInv := inv.of_step base (handoffGuard_of_delivery_eq_none rfl) stepped
  have prepared : Prepared cluster.core cluster.core key run :=
    ⟨base, inv, fun other object found => .inl (upToDate other object found), rfl,
      fun _ => rfl, latest, fun _ => rfl⟩
  exact ⟨next, stepped, by rw [result],
    prepared.of_runs nextBase nextInv (by rw [result]) (by rw [result])⟩

/-- The mode backfill without a fault. -/
theorem Prepared.exists_backfill (prepared : Prepared start cluster.core key run)
    (own : reservationKeyFor run = key) (waiting : run.isUnassignedPending = true)
    (worker : cluster.core.worker = .observed run) :
    ∃ next, step reconciler (.backfill false) cluster = some next ∧
      next.core.worker = .admitting (backfilled run) ∧
      Prepared start next.core key (backfilled run) := by
  subst own
  have noKey : ∀ key ∈ (Action.backfill false).taken, key ∈ cluster.queue := by
    simp [Action.taken]
  rcases performBackfill_eq worker prepared.persisted with ⟨performed, same⟩ | performed
  · rcases exists_step_of_perform noKey performed with ⟨next, stepped, result⟩
    have nextBase := base_of_step prepared.base stepped
    have nextInv := prepared.inv.of_step prepared.base
      (handoffGuard_of_delivery_eq_none rfl) stepped
    rw [same]
    exact ⟨next, stepped, by rw [result],
      prepared.of_runs nextBase nextInv (by rw [result]) (by rw [result])⟩
  · rcases exists_step_of_perform noKey performed with ⟨next, stepped, result⟩
    have nextBase := base_of_step prepared.base stepped
    have nextInv := prepared.inv.of_step prepared.base
      (handoffGuard_of_delivery_eq_none rfl) stepped
    refine ⟨next, stepped, by rw [result], ?_⟩
    rw [result] at nextBase nextInv ⊢
    exact prepared.store waiting (isUnassignedPending_backfilled waiting) nextBase nextInv

/-- The checks before the snapshot let the Run pass. -/
theorem Prepared.exists_assess (prepared : Prepared start cluster.core key run)
    (worker : cluster.core.worker = .admitting run)
    (admitted : admission reconciler.platform run now = .schedule request) :
    ∃ next, step reconciler (.assess now false) cluster = some next ∧
      next.core.worker = .planning run request ∧ Prepared start next.core key run := by
  have performed : perform reconciler (.assess now false) cluster.core =
      some ({ cluster.core with worker := .planning run request }, []) := by
    simp [perform, performAssess, worker, admitted]
  rcases exists_step_of_perform (by simp [Action.taken]) performed with
    ⟨next, stepped, result⟩
  have nextBase := base_of_step prepared.base stepped
  have nextInv := prepared.inv.of_step prepared.base (handoffGuard_of_delivery_eq_none rfl) stepped
  exact ⟨next, stepped, by rw [result],
    prepared.of_runs nextBase nextInv (by rw [result]) (by rw [result])⟩

/-- The snapshot of a prepared core has the usage and the affinity targets of the
exact one. -/
theorem Prepared.snapshot_eq (prepared : Prepared start core key run)
    (upToDate : ∀ key object, start.runs.lookup key = some object → object.view.UpToDate)
    (idle : ∀ run pod, core.worker ≠ .binding run pod) (planned : Run) (request : ResourceList)
    (pods : List Pod) (workspace : Option PersistentWorkspace) (now : Time) :
    let taken := (loadSchedulingSnapshot core.assumptions planned request pods workspace
      (core.listRuns planned.nameSpace) now).2
    let exact := exactSnapshot start planned request pods workspace now
    taken.usageByPod = exact.usageByPod ∧
      ∀ target, target ∈ taken.affinityTargets ↔ target ∈ exact.affinityTargets := by
  have none := syncLocked_entries_eq_nil prepared.base prepared.inv idle prepared.quiet
    planned.nameSpace
  refine ⟨?_, fun target => ?_⟩
  · exact (effectiveUsage_eq_servedUsage prepared.base prepared.inv idle prepared.quiet
      planned.nameSpace).trans (prepared.served planned.nameSpace)
  · simp only [loadSchedulingSnapshot, snapshot, none, List.map_nil, List.append_nil,
      exactSnapshot, List.mem_map, List.mem_filter, prepared.mem_listRuns_iff upToDate]

/-- Filters read the Run, the workspace, the request, the clock and the usage. -/
theorem PassesFilters.congr {config : SchedulerConfig} {affinity other : RunAffinity}
    {taken exact : SchedulingSnapshot} (passes : PassesFilters config affinity taken pod)
    (sameSpec : exact.run.spec = taken.run.spec)
    (sameWorkspace : exact.workspace = taken.workspace) (sameNow : exact.now = taken.now)
    (sameRequest : exact.request = taken.request)
    (sameUsage : exact.usageByPod = taken.usageByPod)
    (sameFilter : other.filter pod.name = affinity.filter pod.name) :
    PassesFilters config other exact pod := by
  constructor
  · rw [← passes.workspace]
    simp only [newWorkspaceFilter, sameSpec, sameWorkspace]
  · rw [sameNow, sameRequest, sameUsage]
    exact passes.available
  · rw [sameFilter]
    exact passes.affinity

/-- The snapshot, the plan and the reservation for a Run that some listed Pod can
take. -/
theorem Prepared.exists_plan (prepared : Prepared start cluster.core key run)
    (defaults : reconciler.UsesDefaults)
    (upToDate : ∀ key object, start.runs.lookup key = some object → object.view.UpToDate)
    (worker : cluster.core.worker = .planning run request)
    (weights : run.spec.weightsAdmitted = true) {pods : List Pod}
    (known : ∀ pod ∈ pods, pod ∈ start.pods) {workspace : Option PersistentWorkspace}
    {affinity : RunAffinity} (compiled : newRunAffinity reconciler.platform run
      (exactSnapshot start run request pods workspace now).affinityTargets = .ok affinity)
    (listed : pod ∈ runtimePods run pods)
    (passes : PassesFilters reconciler.toSchedulerConfig affinity
      (exactSnapshot start run request pods workspace now) pod) :
    ∃ next selected, step reconciler (.plan pods workspace now) cluster = some next ∧
      next.core.worker = .binding run selected ∧ next.core.runs = cluster.core.runs ∧
      selected ∈ runtimePods run pods ∧
      PassesFilters reconciler.toSchedulerConfig affinity
        (exactSnapshot start run request pods workspace now) selected := by
  have idle : ∀ held target, cluster.core.worker ≠ .binding held target := by simp [worker]
  rcases prepared.snapshot_eq upToDate idle run request pods workspace now with
    ⟨sameUsage, sameTargets⟩
  let loaded := loadSchedulingSnapshot cluster.core.assumptions run request pods workspace
    (cluster.core.listRuns run.nameSpace) now
  rcases newRunAffinity_of_same (fun target => (sameTargets target).symm) compiled with
    ⟨loadedAffinity, loadedCompiled, sameFilter⟩
  have loadedPasses : PassesFilters reconciler.toSchedulerConfig loadedAffinity loaded.2 pod :=
    passes.congr rfl rfl rfl rfl sameUsage (sameFilter pod.name)
  rcases planSchedulingCycle_default defaults loadedCompiled
    (preferredScore_nonneg_of_weightsAdmitted weights loadedCompiled) listed loadedPasses with
    ⟨selected, selectedListed, planned, selectedPasses⟩
  have synced : syncLocked loaded.1 loaded.2.runs = loaded.1 := syncLocked_syncLocked _ _
  have reserved : planAndReserve reconciler loaded.1 loaded.2 =
      (assumeLocked loaded.1 run selected.name request, .reserved selected) := by
    have available : isRuntimePodAvailable reconciler.toSchedulerConfig selected loaded.2.now
        (mergeUsage loaded.2.actualUsageByPod (usageLocked loaded.1) selected.name)
        loaded.2.request = true := selectedPasses.available
    simp only [planAndReserve, planned, reserve, synced, available, if_true]
    rfl
  have performed : perform reconciler (.plan pods workspace now) cluster.core =
      some ({ cluster.core with
        assumptions := assumeLocked loaded.1 run selected.name request
        worker := .binding run selected }, []) := by
    have allKnown : ∀ pod ∈ pods, pod ∈ cluster.core.pods := prepared.pods ▸ known
    simp only [perform, performPlan, worker, if_pos allKnown]
    rw [reserved]
  rcases exists_step_of_perform (by simp [Action.taken]) performed with
    ⟨next, stepped, result⟩
  refine ⟨next, selected, stepped, by rw [result], by rw [result], selectedListed, ?_⟩
  exact selectedPasses.congr rfl rfl rfl rfl sameUsage.symm (sameFilter selected.name).symm

/-- A bind of an unchanged Run without a fault is stored. -/
theorem exists_bind (now : Time) (worker : cluster.core.worker = .binding run pod)
    (latest : cluster.core.persistedRun (reservationKeyFor run) = some run) :
    ∃ next, step reconciler (.bind now false) cluster = some next ∧
      next.core.persistedRun (reservationKeyFor run) =
        some (storeStatus run (bindStatus run pod now).status) := by
  have updated : cluster.core.update (bindStatus run pod now) false = _ :=
    update_of_persisted latest rfl
  have performed : perform reconciler (.bind now false) cluster.core =
      some ({ cluster.core.store (reservationKeyFor run)
        (some (storeStatus run (bindStatus run pod now).status)) with worker := .idle }, []) := by
    simp only [perform, performBind, worker, updated]
    rfl
  rcases exists_step_of_perform (by simp [Action.taken]) performed with
    ⟨next, stepped, result⟩
  refine ⟨next, stepped, ?_⟩
  rcases persistedRun_eq_some_iff.mp latest with ⟨_, found, _⟩
  rw [result, store_of_lookup found]
  simp [Core.persistedRun, RunObject.write]

end Stages

/-! ## Exact hand-off -/

theorem spec_backfilled (run : Run) : (backfilled run).spec = run.spec := by
  unfold backfilled
  split <;> rfl

theorem reservationKeyFor_backfilled (run : Run) :
    reservationKeyFor (backfilled run) = reservationKeyFor run := by
  unfold backfilled
  split <;> rfl

/-- Every stored version has the preference weights that were admitted. -/
theorem weightsAdmitted_of_persistedRun (base : Base core) {run : Run}
    (latest : core.persistedRun key = some run) :
    run.spec.weightsAdmitted = true := by
  rcases persistedRun_eq_some_iff.mp latest with ⟨object, found, stored⟩
  have wellFormed := base.objects key object found
  have sameSpec := wellFormed.sameSpec run (Watched.mem_versions_of_persisted stored)
  have affinity : run.fixedSpec.affinity = object.created.fixedSpec.affinity := by
    rw [sameSpec]
  change run.spec.affinity = object.created.spec.affinity at affinity
  rw [← wellFormed.weights]
  simp only [RunSpec.weightsAdmitted, affinity]

theorem runtime_ne_empty_of_schedule {platform : Platform} {run : Run}
    (admitted : admission platform run now = .schedule request) :
    run.spec.runtime ≠ "" := by
  intro unnamed
  unfold admission at admitted
  rw [if_pos unnamed] at admitted
  split at admitted <;> contradiction

/-- If every informer event meets `HandoffGuard`, then in a cluster with an
up-to-date informer and no bind in flight the next snapshot counts exactly the
served Runs, and a waiting Run that some listed Pod can take beside them is bound by
the next cycle, for which its key is queued. -/
theorem exactHandoff_of_guarded_run {reconciler : RunReconciler} {actions : List Action}
    {cluster : Cluster}
    (ran : run (restrict HandoffGuard (step reconciler)) actions Cluster.empty = some cluster)
    (upToDate : ∀ key object, cluster.core.runs.lookup key = some object → object.view.UpToDate)
    (noBind : ∀ held pod, cluster.core.worker ≠ .binding held pod) :
    (∀ planned request pods workspace now,
      (loadSchedulingSnapshot cluster.core.assumptions planned request pods workspace
        (cluster.core.listRuns planned.nameSpace) now).2.usageByPod =
          servedUsage cluster.core planned.nameSpace) ∧
    (reconciler.UsesDefaults → cluster.core.worker = .idle →
      ∀ key waiting request now pods workspace affinity pod,
        cluster.core.persistedRun key = some waiting → waiting.isUnassignedPending = true →
        admission reconciler.platform (backfilled waiting) now = .schedule request →
        (∀ pod ∈ pods, pod ∈ cluster.core.pods) →
        let taken := exactSnapshot cluster.core (backfilled waiting) request pods workspace now
        newRunAffinity reconciler.platform taken.run taken.affinityTargets = .ok affinity →
        pod ∈ taken.pods → PassesFilters reconciler.toSchedulerConfig affinity taken pod →
          ∃ final selected bound, key ∈ cluster.queue ∧
            run (step reconciler) (schedulingCycle key now pods workspace) cluster = some final ∧
            final.core.persistedRun key = some bound ∧ bound.status.phase = .scheduled ∧
            bound.status.assignedPod = selected.name ∧ selected ∈ taken.pods ∧
            PassesFilters reconciler.toSchedulerConfig affinity taken selected) := by
  rcases invariant_of_guarded_run HandoffGuard (step reconciler)
    (fun cluster => Base cluster.core ∧ HandoffInv cluster.core ∧
      AllAttended cluster.core cluster.queue)
    (fun guarded held stepped => ⟨base_of_step held.1 stepped,
      held.2.1.of_step held.1 guarded stepped, held.2.2.of_step held.1 stepped⟩)
    ⟨base_empty, handoffInv_empty, allAttended_empty⟩ ran with ⟨base, inv, attended⟩
  refine ⟨fun planned request pods workspace now => ?_, ?_⟩
  · exact effectiveUsage_eq_servedUsage base inv noBind
      (fun key object found => .inl (upToDate key object found)) planned.nameSpace
  · intro defaults idle key waiting request now pods workspace affinity pod persisted
      unassigned admitted known taken compiled listed passes
    rcases persistedRun_eq_some_iff.mp persisted with ⟨object, found, stored⟩
    have own : reservationKeyFor waiting = key := (base.objects key object found).sameKey
      waiting (Watched.mem_versions_of_persisted stored)
    have queued : key ∈ cluster.queue :=
      attended.mem_queue idle found (upToDate key object found) stored
        ⟨unassigned, spec_backfilled waiting ▸ runtime_ne_empty_of_schedule admitted⟩
    have weights : (backfilled waiting).spec.weightsAdmitted = true := by
      rw [spec_backfilled]
      exact weightsAdmitted_of_persistedRun base persisted
    rcases exists_fetch reconciler base inv upToDate idle queued persisted unassigned with
      ⟨_, fetch, fetchedWorker, fetchedPrepared⟩
    rcases fetchedPrepared.exists_backfill reconciler own unassigned fetchedWorker with
      ⟨_, backfill, filledWorker, filledPrepared⟩
    rcases filledPrepared.exists_assess reconciler filledWorker admitted with
      ⟨_, assess, assessedWorker, assessedPrepared⟩
    rcases assessedPrepared.exists_plan reconciler defaults upToDate assessedWorker weights known
      compiled listed passes with
      ⟨planned, selected, plan, plannedWorker, sameRuns, selectedListed, selectedPasses⟩
    have stillStored : planned.core.persistedRun (reservationKeyFor (backfilled waiting)) =
        some (backfilled waiting) := by
      rw [reservationKeyFor_backfilled, own]
      simpa only [Core.persistedRun, sameRuns] using assessedPrepared.persisted
    rcases exists_bind reconciler now plannedWorker stillStored with ⟨final, bind, bound⟩
    rw [reservationKeyFor_backfilled, own] at bound
    refine ⟨final, selected, _, queued, ?_, bound, rfl, rfl, selectedListed, selectedPasses⟩
    simp [schedulingCycle, run, fetch, backfill, assess, plan, bind]

/-- One Run is Running and fully observed; a second one waits. -/
def observedActions : List Action :=
  [.podWrite smallPod, .podWrite sparePod, .create (smallRun "first" ⟨true, none, none⟩),
    .deliver (smallKey "first")] ++
  schedulingCycle (smallKey "first") 0 [smallPod] none ++
  [.lifecycle (smallKey "first") (smallRunAt "first" ⟨true, none, none⟩ 4 .running "runtime-0"),
    .deliver (smallKey "first"), .deliver (smallKey "first"), .deliver (smallKey "first"),
    .create (smallRun "second" ⟨true, none, none⟩), .deliver (smallKey "second")]

/-- Whether the informer is up to date and the worker idle. -/
def isAtRest (core : Core) : Bool :=
  (core.runs.entries.all fun entry => entry.2.view.undelivered.isEmpty) && match core.worker with
    | .idle => true
    | _ => false

theorem isAtRest_iff :
    isAtRest core = true ↔
      (∀ key object, core.runs.lookup key = some object → object.view.UpToDate) ∧
        core.worker = .idle := by
  unfold isAtRest
  rw [Bool.and_eq_true, List.all_eq_true]
  refine and_congr ?_ (by cases core.worker <;> simp)
  constructor
  · intro all key object found
    simpa [Watched.UpToDate] using all ⟨key, object⟩ (Table.mem_entries_iff.mpr found)
  · rintro upToDate ⟨key, object⟩ mem
    simpa [Watched.UpToDate] using upToDate key object (Table.mem_entries_iff.mp mem)

/-- Every condition of the theorem is met after `observedActions`: the first Run is
counted on its Pod, and a cycle binds the second Run to the spare Pod. -/
theorem exactHandoff_observedActions :
    ∃ cluster final, ∃ selected : Pod, ∃ bound,
      run (restrict HandoffGuard (step smallReconciler)) observedActions Cluster.empty =
        some cluster ∧
      0 < servedUsage cluster.core "default" "runtime-0" runtimeResourceRuns ∧
      run (step smallReconciler)
        (schedulingCycle (smallKey "second") 0 [smallPod, sparePod] none) cluster = some final ∧
      final.core.persistedRun (smallKey "second") = some bound ∧
      bound.status.phase = .scheduled ∧ bound.status.assignedPod = selected.name := by
  let waiting := smallRun "second" ⟨true, none, none⟩
  let request : ResourceList := AList.insert runtimeResourceRuns (Quantity.ofInt 1) ∅
  let pods := [smallPod, sparePod]
  have ran : (run (restrict HandoffGuard (step smallReconciler)) observedActions
      Cluster.empty).any (fun cluster =>
        isAtRest cluster.core &&
          decide (0 < servedUsage cluster.core "default" "runtime-0" runtimeResourceRuns) &&
          decide (cluster.core.persistedRun (smallKey "second") = some waiting) &&
          decide (∀ pod ∈ pods, pod ∈ cluster.core.pods) &&
          isRuntimePodAvailable smallReconciler.toSchedulerConfig sparePod 0
            (servedUsage cluster.core "default" "runtime-1") request) = true := by
    decide +kernel
  rcases (Option.any_eq_true _ _).mp ran with ⟨cluster, reached, facts⟩
  simp only [Bool.and_eq_true, decide_eq_true_eq] at facts
  rcases facts with ⟨⟨⟨⟨atRest, served⟩, persisted⟩, known⟩, available⟩
  rcases isAtRest_iff.mp atRest with ⟨upToDate, idle⟩
  have admitted : admission smallReconciler.platform (backfilled waiting) 0 =
      .schedule request := rfl
  have listed : sparePod ∈ runtimePods (backfilled waiting) pods := by decide +kernel
  rcases (exactHandoff_of_guarded_run reached upToDate (by simp [idle])).2 ⟨rfl, rfl⟩ idle
    (smallKey "second") waiting request 0 pods none {} sparePod persisted rfl admitted known
    rfl listed ⟨rfl, available, rfl⟩ with
    ⟨final, selected, bound, _, cycle, stored, phase, assigned, _⟩
  exact ⟨cluster, final, selected, bound, reached, served, cycle, stored, phase, assigned⟩

/-- Bind a Run, let it start and be reset to Pending, with every version delivered
and no other cycle in between. -/
def resetActions : List Action :=
  let task : RunMode := ⟨true, none, none⟩
  [.podWrite smallPod, .create (smallRun "first" task), .deliver (smallKey "first")] ++
  schedulingCycle (smallKey "first") 0 [smallPod] none ++
  [.lifecycle (smallKey "first") (smallRunAt "first" task 4 .running "runtime-0"),
    .lifecycle (smallKey "first") (smallRunAt "first" task 5 .pending ""),
    .deliver (smallKey "first"), .deliver (smallKey "first"), .deliver (smallKey "first"),
    .deliver (smallKey "first")]

/-- Without the guard the reservation of the first attempt is counted against the
Run itself, on a Pod that serves nothing. -/
theorem exists_phantom_usage :
    ∃ actions cluster planned request,
      run (step smallReconciler) actions Cluster.empty = some cluster ∧
      (∀ key object, cluster.core.runs.lookup key = some object → object.view.UpToDate) ∧
      cluster.core.worker = .idle ∧
      (loadSchedulingSnapshot cluster.core.assumptions planned request [smallPod] none
        (cluster.core.listRuns planned.nameSpace) 0).2.usageByPod ≠
          servedUsage cluster.core planned.nameSpace := by
  let planned := smallRunAt "first" ⟨true, none, none⟩ 5 .pending ""
  have ran : (run (step smallReconciler) resetActions Cluster.empty).any (fun cluster =>
      isAtRest cluster.core &&
        decide ((loadSchedulingSnapshot cluster.core.assumptions planned ∅ [smallPod] none
          (cluster.core.listRuns planned.nameSpace) 0).2.usageByPod "runtime-0"
            runtimeResourceRuns ≠
          servedUsage cluster.core planned.nameSpace "runtime-0" runtimeResourceRuns)) =
      true := by decide +kernel
  rcases (Option.any_eq_true _ _).mp ran with ⟨cluster, reached, facts⟩
  simp only [Bool.and_eq_true, decide_eq_true_eq] at facts
  rcases isAtRest_iff.mp facts.1 with ⟨upToDate, idle⟩
  refine ⟨resetActions, cluster, planned, ∅, reached, upToDate, idle, fun same => ?_⟩
  exact facts.2 (by rw [same])

/-! ## Every run -/

section

variable {reconciler : RunReconciler} {actions : List Action} {cluster : Cluster}
  (ran : run (step reconciler) actions Cluster.empty = some cluster)

include ran

theorem base_and_allAttended_of_run :
    Base cluster.core ∧ AllAttended cluster.core cluster.queue :=
  @invariant_of_run _ _ _ _ _ (step reconciler)
    (fun cluster => Base cluster.core ∧ AllAttended cluster.core cluster.queue)
    (fun held stepped => ⟨base_of_step held.1 stepped, held.2.of_step held.1 stepped⟩)
    ⟨base_empty, allAttended_empty⟩ ran

/-- No wakeup is lost: a Run that waits for a Pod is yet to be shown by the informer,
queued, or with the worker. -/
theorem allAttended_of_run : AllAttended cluster.core cluster.queue :=
  (base_and_allAttended_of_run ran).2

/-- A reservation belongs to a stored Run, and the worker binds what it has reserved. -/
theorem base_of_run : Base cluster.core :=
  (base_and_allAttended_of_run ran).1

end

theorem allAttended_resetActions :
    ∃ cluster, run (step smallReconciler) resetActions Cluster.empty = some cluster ∧
      isAtRest cluster.core = true ∧ AllAttended cluster.core cluster.queue := by
  apply exists_reached_and
  · decide +kernel
  · exact fun _ reached _ => allAttended_of_run reached

theorem base_resetActions :
    ∃ cluster, run (step smallReconciler) resetActions Cluster.empty = some cluster ∧
      cluster.core.assumptions.lookup (smallKey "first") ≠ none ∧ Base cluster.core := by
  apply exists_reached_and
  · decide +kernel
  · exact fun _ reached _ => base_of_run reached

end Kruntimes.Scheduler
