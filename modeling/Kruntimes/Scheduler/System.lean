import Kruntimes.Scheduler.Reconcile
import Kruntimes.Transition.Run
import Kruntimes.Transition.Watched

/-!
# The scheduler in its cluster

One serial worker runs `Reconcile` against an API server that it sees through an
informer.  The informer's copy of a Run may lag by any amount but never goes
back; an update with an outdated resource version is refused, and an update that
reports an error has not been stored.  Other controllers, users and the Pods of
the runtime act at any time between two interactions of the worker.

The worker advances by one interaction with shared state per action.  Planning
and reserving read nothing but the snapshot and the worker's own cache, so they
are one action with the snapshot.
-/

namespace Kruntimes.Scheduler

open Api Data Transition

/-- A Run in the API server, together with the informer's view of it.  Before its
creation is delivered and after its deletion a version is `none`. -/
structure RunObject where
  created : Run
  view : Watched (Option Run)

/-- Where the worker stands in `Reconcile`, with the Run object it holds. -/
inductive Worker
  | idle
  | observed (run : Run)
  | admitting (run : Run)
  | planning (run : Run) (request : ResourceList)
  | reporting (run : Run) (again : Bool)
  | binding (run : Run) (pod : Pod)

/-- The Run the worker is reconciling. -/
def Worker.run : Worker → Option Run
  | .idle => none
  | .observed run | .admitting run | .planning run _ | .reporting run _ | .binding run _ => some run

/-- The stored objects, the reservation cache and the worker.  `pods` holds every
version of every Pod, newest first. -/
structure Core where
  runs : Table ReservationKey RunObject
  pods : List Pod
  assumptions : AssumedReservationCache
  worker : Worker

namespace Core

/-- Nothing has been created yet. -/
def empty : Core := ⟨∅, [], ∅, .idle⟩

/-- The informer's copy of a Run. -/
def cachedRun (core : Core) (key : ReservationKey) : Option Run :=
  (core.runs.lookup key).bind fun object => object.view.cached

/-- The stored version of a Run. -/
def persistedRun (core : Core) (key : ReservationKey) : Option Run :=
  (core.runs.lookup key).bind fun object => object.view.persisted

/-- A cached `List` of the Runs of one namespace. -/
def listRuns (core : Core) (nameSpace : String) : List Run :=
  (core.runs.entries.filterMap fun entry => entry.2.view.cached).filter fun run =>
    run.nameSpace == nameSpace

/-- Store a version of a Run; `none` deletes it. -/
def store (core : Core) (key : ReservationKey) (version : Option Run) : Core :=
  match core.runs.lookup key with
  | none => core
  | some object =>
    { core with
      runs := core.runs.insert key { object with view := object.view.write version } }

/-- `Status().Update`: refused on a reported fault, for a missing Run and for an
outdated resource version.  Returns the stored object as the client decodes it. -/
def update (core : Core) (run : Run) (fault : Bool) : Option (Core × Run) :=
  if fault then none
  else match core.persistedRun (reservationKeyFor run) with
    | none => none
    | some stored =>
      if stored.resourceVersion = run.resourceVersion then
        some (core.store (reservationKeyFor run) (some (storeStatus stored run.status)),
          storeStatus stored run.status)
      else none

/-- The newest version of a Pod. -/
def pod (core : Core) (nameSpace name : String) : Option Pod :=
  core.pods.find? fun pod => pod.nameSpace == nameSpace && pod.name == name

def pendingRunsForRuntime (core : Core) (nameSpace runtime : String) :
    List ReservationKey :=
  ((core.listRuns nameSpace).filter fun run =>
    run.spec.runtime == runtime && run.status.phase.isPending).map reservationKeyFor

def pendingRunsForWorkspace (core : Core) (nameSpace workspace : String) :
    List ReservationKey :=
  ((core.listRuns nameSpace).filter fun run =>
    run.spec.workspace == some workspace && run.status.phase.isPending).map reservationKeyFor

/-- The keys that the two Run watches enqueue for an event. -/
def enqueuedBy (core : Core) (key : ReservationKey) (old new : Option Run) :
    List ReservationKey :=
  let own := if new.any pendingRunPredicate then [key] else []
  let released :=
    match old with
    | none => []
    | some run =>
      if runCapacityReleasedPredicate old new ∧ run.spec.runtime ≠ "" then
        core.pendingRunsForRuntime run.nameSpace run.spec.runtime
      else []
  own ++ released

end Core

/-! ## Writes of the other controllers -/

/-- How the phase and the assignment of a Run may change outside `bind`. -/
def StatusStep (old new : Run) : Prop :=
  (old.isUnassignedPending = true ∧
    (new.isUnassignedPending = true ∨ new.status.phase.isTerminal = true)) ∨
  (old.status.phase.isActive = true ∧
    ((new.status.phase.isActive = true ∧ new.status.assignedPod = old.status.assignedPod) ∨
      new.status.phase.isTerminal = true ∨ new.isUnassignedPending = true)) ∨
  (old.status.phase.isTerminal = true ∧ new.status.phase = old.status.phase)

instance (old new : Run) : Decidable (StatusStep old new) :=
  inferInstanceAs (Decidable (_ ∨ _ ∨ _))

/-- A stored write that is not a binding: the identity and the immutable part of
the specification stay, an assigned Run advances, ends or returns to Pending
without an assignment, and a terminal Run stays terminal. -/
structure LifecycleStep (old new : Run) : Prop where
  key : reservationKeyFor new = reservationKeyFor old
  name : new.name = old.name
  spec : new.fixedSpec = old.fixedSpec
  version : new.resourceVersion = old.resourceVersion + 1
  status : StatusStep old new

instance (old new : Run) : Decidable (LifecycleStep old new) :=
  decidable_of_iff (reservationKeyFor new = reservationKeyFor old ∧ new.name = old.name ∧
      new.fixedSpec = old.fixedSpec ∧ new.resourceVersion = old.resourceVersion + 1 ∧
      StatusStep old new)
    ⟨fun ⟨key, name, spec, version, status⟩ => ⟨key, name, spec, version, status⟩,
      fun step => ⟨step.key, step.name, step.spec, step.version, step.status⟩⟩

/-- The capacity that a Pod advertises to the scheduler. -/
def advertised (reconciler : RunReconciler) (pod : Pod) : ResourceList :=
  capacity reconciler.platform pod defaultRuntimePodCapacity

/-- No resource of `old` is advertised with less by `new`. -/
def keepsCapacity (reconciler : RunReconciler) (old new : Pod) : Bool :=
  (advertised reconciler old).entries.all fun entry =>
    entry.2.nano ≤ amount (advertised reconciler new) entry.1

/-! ## Actions -/

/-- The actions of the cluster.  An action of the worker carries the answers and
clock readings it receives; `fault` is an error reported by the API server. -/
inductive Action
  | create (run : Run)
  | lifecycle (key : ReservationKey) (new : Run)
  | remove (key : ReservationKey)
  | deliver (key : ReservationKey)
  | podWrite (pod : Pod)
  | podEvent (nameSpace runtime : String)
  | workspaceEvent (nameSpace workspace : String)
  | fetch (key : ReservationKey)
  | backfill (fault : Bool)
  | assess (now : Time) (fault : Bool)
  | snapshotError
  | plan (pods : List Pod) (workspace : Option PersistentWorkspace) (now : Time)
  | report (fault : Bool)
  | bind (now : Time) (fault : Bool)

/-- The next state of the core, and the keys put into the workqueue. -/
abbrev Effect := Core × List ReservationKey

/-- `Get`, `observeRun`. -/
def performFetch (core : Core) (key : ReservationKey) : Option Effect :=
  match core.worker, core.cachedRun key with
  | .idle, none => some (core, [])
  | .idle, some run =>
    some ({ core with
      assumptions := observe core.assumptions run, worker := .observed run }, [])
  | _, _ => none

/-- The mode backfill. -/
def performBackfill (core : Core) (fault : Bool) : Option Effect :=
  match core.worker with
  | .observed run =>
    match modeBackfill run with
    | none => some ({ core with worker := .admitting run }, [])
    | some filled =>
      match core.update filled fault with
      | none => some ({ core with worker := .idle }, [reservationKeyFor run])
      | some (next, stored) => some ({ next with worker := .admitting stored }, [])
  | _ => none

/-- The checks before the snapshot. -/
def performAssess (reconciler : RunReconciler) (core : Core) (now : Time) (fault : Bool) :
    Option Effect :=
  match core.worker with
  | .admitting run =>
    match admission reconciler.platform run now with
    | .ignore => some ({ core with worker := .idle }, [])
    | .delay => some ({ core with worker := .idle }, [reservationKeyFor run])
    | .terminate terminal =>
      match core.update terminal fault with
      | none => some ({ core with worker := .idle }, [reservationKeyFor run])
      | some (next, _) => some ({ next with worker := .idle }, [])
    | .schedule request => some ({ core with worker := .planning run request }, [])
  | _ => none

/-- An error of `loadSchedulingSnapshot`, which leaves the reservations as they are. -/
def performSnapshotError (core : Core) : Option Effect :=
  match core.worker with
  | .planning run _ => some ({ core with worker := .idle }, [reservationKeyFor run])
  | _ => none

/-- `loadSchedulingSnapshot`, `planSchedulingCycle` and `reserve`.  The Pods come
from a cache, so each listed Pod is some version of it. -/
def performPlan (reconciler : RunReconciler) (core : Core) (pods : List Pod)
    (workspace : Option PersistentWorkspace) (now : Time) : Option Effect :=
  match core.worker with
  | .planning run request =>
    if ∀ pod ∈ pods, pod ∈ core.pods then
      let loaded := loadSchedulingSnapshot core.assumptions run request pods workspace
        (core.listRuns run.nameSpace) now
      let planned := planAndReserve reconciler loaded.1 loaded.2
      let next := { core with assumptions := planned.1 }
      match planned.2 with
      | .retry => some ({ next with worker := .idle }, [reservationKeyFor run])
      | .fail failed => some ({ next with worker := .reporting failed false }, [])
      | .wait none => some ({ next with worker := .idle }, [reservationKeyFor run])
      | .wait (some waiting) => some ({ next with worker := .reporting waiting true }, [])
      | .reserved pod => some ({ next with worker := .binding run pod }, [])
    else none
  | _ => none

/-- The status update of a waiting or failed Run. -/
def performReport (core : Core) (fault : Bool) : Option Effect :=
  match core.worker with
  | .reporting run again =>
    match core.update run fault with
    | none => some ({ core with worker := .idle }, [reservationKeyFor run])
    | some (next, _) =>
      some ({ next with worker := .idle }, if again then [reservationKeyFor run] else [])
  | _ => none

/-- `bind`; a refused update releases the reservation. -/
def performBind (core : Core) (now : Time) (fault : Bool) : Option Effect :=
  match core.worker with
  | .binding run pod =>
    match core.update (bindStatus run pod now) fault with
    | none =>
      some ({ core with assumptions := release core.assumptions run, worker := .idle },
        [reservationKeyFor run])
    | some (next, _) => some ({ next with worker := .idle }, [])
  | _ => none

/-- A new Run, as the API server admits it: an unused key and an initial status. -/
def performCreate (core : Core) (run : Run) : Option Effect :=
  if core.runs.lookup (reservationKeyFor run) = none ∧
      (run.status = {} ∨ run.status = { phase := .unset }) ∧ run.spec.weightsAdmitted then
    some ({ core with
      runs := core.runs.insert (reservationKeyFor run) ⟨run, ⟨none, [some run]⟩⟩ }, [])
  else none

/-- An informer event. -/
def performDeliver (core : Core) (key : ReservationKey) : Option Effect :=
  match core.runs.lookup key with
  | none => none
  | some object =>
    match object.view.deliver with
    | none => none
    | some view =>
      let next := { core with runs := core.runs.insert key { object with view } }
      some (next, next.enqueuedBy key object.view.cached view.cached)

/-- Every action of the cluster.  A Pod may be written with any content as long as
its advertised capacity does not shrink. -/
def perform (reconciler : RunReconciler) : Action → Core → Option Effect
  | .create run, core => performCreate core run
  | .lifecycle key new, core =>
    match core.persistedRun key with
    | none => none
    | some old => if LifecycleStep old new then some (core.store key (some new), []) else none
  | .remove key, core =>
    if (core.persistedRun key).isSome then some (core.store key none, []) else none
  | .deliver key, core => performDeliver core key
  | .podWrite pod, core =>
    if ∀ old ∈ core.pods, old.nameSpace = pod.nameSpace ∧ old.name = pod.name →
        keepsCapacity reconciler old pod = true then
      some ({ core with pods := pod :: core.pods }, [])
    else none
  | .podEvent nameSpace runtime, core => some (core, core.pendingRunsForRuntime nameSpace runtime)
  | .workspaceEvent nameSpace workspace, core =>
    some (core, core.pendingRunsForWorkspace nameSpace workspace)
  | .fetch key, core => performFetch core key
  | .backfill fault, core => performBackfill core fault
  | .assess now fault, core => performAssess reconciler core now fault
  | .snapshotError, core => performSnapshotError core
  | .plan pods workspace now, core => performPlan reconciler core pods workspace now
  | .report fault, core => performReport core fault
  | .bind now fault, core => performBind core now fault

/-! ## The cluster with its workqueue and history -/

/-- The core, the workqueue, and the history variable `unread`: the Pod of every
stored binding whose Run the scheduler has not read since as assigned, not Pending or
gone. -/
structure Cluster where
  core : Core
  queue : List ReservationKey
  unread : Table ReservationKey String

/-- The initial cluster. -/
def Cluster.empty : Cluster := ⟨.empty, [], ∅⟩

/-- A copy that shows the Run waiting for an assignment. -/
def showsPending (copy : Option Run) : Bool :=
  copy.any Run.isUnassignedPending

/-- How an action changes the history variable. -/
def nextUnread (action : Action) (cluster : Cluster) : Table ReservationKey String :=
  match action, cluster.core.worker with
  | .fetch key, _ =>
    match cluster.core.cachedRun key with
    | none => cluster.unread
    | some run => if run.isUnassignedPending then cluster.unread else cluster.unread.erase key
  | .plan _ _ _, .planning run _ =>
    cluster.unread.keep fun key _ =>
      key.nameSpace != run.nameSpace || showsPending (cluster.core.cachedRun key)
  | .bind now fault, .binding run pod =>
    if (cluster.core.update (bindStatus run pod now) fault).isSome then
      cluster.unread.insert (reservationKeyFor run) pod.name
    else cluster.unread
  | _, _ => cluster.unread

/-- The key that an action takes from the workqueue. -/
def Action.taken : Action → Option ReservationKey
  | .fetch key => some key
  | _ => none

/-- The actions that read Runs for the reservation cache or end a bind. -/
def Action.usesCache : Action → Bool
  | .fetch _ | .plan _ _ _ | .bind _ _ => true
  | _ => false

theorem Action.taken_eq_none {action : Action} (plain : action.usesCache = false) :
    action.taken = none := by
  cases action <;> simp_all [Action.usesCache, Action.taken]

theorem nextUnread_of_plain {action : Action} (plain : action.usesCache = false)
    (cluster : Cluster) : nextUnread action cluster = cluster.unread := by
  cases action <;> simp_all [Action.usesCache, nextUnread]

/-- The workqueue after an action that adds `added`. -/
def nextQueue (action : Action) (queue added : List ReservationKey) : List ReservationKey :=
  (queue.filter fun key => action.taken ≠ some key).union added

/-- One action of the cluster.  The worker takes only keys that a watch or an
earlier result has put into the workqueue. -/
def step (reconciler : RunReconciler) : Step Action Cluster := fun action cluster =>
  if ∀ key ∈ action.taken, key ∈ cluster.queue then
    (perform reconciler action cluster.core).map fun effect =>
      { core := effect.1
        queue := nextQueue action cluster.queue effect.2
        unread := nextUnread action cluster }
  else none

theorem step_eq_some_iff {reconciler : RunReconciler} {action : Action} {cluster next : Cluster} :
    step reconciler action cluster = some next ↔
      (∀ key ∈ action.taken, key ∈ cluster.queue) ∧ ∃ added,
        perform reconciler action cluster.core = some (next.core, added) ∧
        next.queue = nextQueue action cluster.queue added ∧
        next.unread = nextUnread action cluster := by
  unfold step
  split
  next queued =>
    simp only [Option.map_eq_some_iff]
    constructor
    · rintro ⟨⟨_, added⟩, performed, rfl⟩
      exact ⟨queued, added, performed, rfl, rfl⟩
    · rintro ⟨_, added, performed, _⟩
      refine ⟨(next.core, added), performed, ?_⟩
      cases next
      simp_all
  next notQueued =>
    exact iff_of_false (by simp) fun both => notQueued both.1

/-- The actions of a scheduling cycle without faults. -/
def schedulingCycle (key : ReservationKey) (now : Time) (pods : List Pod)
    (workspace : Option PersistentWorkspace) : List Action :=
  [.fetch key, .backfill false, .assess now false, .plan pods workspace now, .bind now false]

/-! ## A small cluster

One namespace with Pods that take one Run each, for the concrete runs below. -/

/-- The default scheduler on a platform that parses the quantity `1`. -/
def smallReconciler : RunReconciler where
  platform :=
    { labelSelectorAsSelector := fun _ => .error ""
      parseQuantity := fun raw => if raw = "1" then some (Quantity.ofInt 1) else none
      outOfRangeInt64 := 0 }
  runtimedHeartbeatStaleAfter := 0

/-- A ready Runtime Pod with room for one Run. -/
def smallPod : Pod where
  nameSpace := "default"
  name := "runtime-0"
  uid := "pod-uid"
  labels := AList.insert "runtime" "bash" ∅
  annotations := AList.insert "kruntimes.io/capacity.runs" "1" ∅
  conditions :=
    [⟨"Ready", .conditionTrue, 0, 0⟩, ⟨"kruntimes.io/RuntimedReady", .conditionTrue, 0, 0⟩]

/-- A second Pod like `smallPod`. -/
def sparePod : Pod :=
  { smallPod with
    name := "runtime-1", uid := "spare-uid"
    name_ne_empty := by decide, uid_ne_empty := by decide }

/-- A Run as it is created. -/
def smallRun (uid : String) (mode : RunMode) : Run where
  nameSpace := "default"
  name := uid
  uid := uid
  spec := { runtime := "bash", mode }

/-- The same Run in a later phase on a Pod. -/
def smallRunAt (uid : String) (mode : RunMode) (version : Nat) (phase : RunPhase)
    (pod : String) : Run :=
  { smallRun uid mode with
    resourceVersion := version
    status := { mode := mode.name, phase, assignedPod := pod } }

/-- The key of a Run of the small cluster. -/
def smallKey (uid : String) : ReservationKey := ⟨"default", uid⟩

end Kruntimes.Scheduler
