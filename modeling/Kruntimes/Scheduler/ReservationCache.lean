import Kruntimes.Api.RuntimePod

/-!
# The assumed-reservation cache

`assumedReservationCache` owns the assignments the scheduler has decided on and
whose effect the Run informer has not shown yet.  Its map is a `Table`; every
method takes the current table and returns the next one.

Go maps of resource lists are only ever read entry by entry with a zero default,
so a usage table is a function of the Pod name and the resource name.
-/

namespace Kruntimes.Scheduler

open Api Data

variable {cache : AssumedReservationCache} {runs : List Run} {key : ReservationKey} {run : Run}

structure ReservationKey where
  nameSpace : String
  runUID : String
  deriving DecidableEq

structure AssumedReservation where
  runName : String
  podName : String
  request : ResourceList
  labels : Labels
  deriving DecidableEq

structure AffinityTarget where
  podName : String
  labels : Labels
  deriving DecidableEq

/-- Usage by Pod name and resource name, in the units of `amount`. -/
abbrev Usage := String → String → Int

structure SchedulingSnapshot where
  run : Run
  request : ResourceList
  pods : List Pod
  actualUsageByPod : Usage
  usageByPod : Usage
  runs : List Run
  affinityTargets : List AffinityTarget
  workspace : Option PersistentWorkspace
  now : Time

/-- The map of an `assumedReservationCache`. -/
abbrev AssumedReservationCache := Table ReservationKey AssumedReservation

def reservationKeyFor (run : Run) : ReservationKey :=
  ⟨run.nameSpace, run.uid⟩

/-! ## Usage -/

def addUsage (usage : Usage) (podName : String) (request : ResourceList) : Usage :=
  fun pod resource =>
    if pod = podName then usage pod resource + amount request resource
    else usage pod resource

def mergeUsage (first second : Usage) : Usage :=
  fun pod resource => first pod resource + second pod resource

/-- The usage that nothing has been added to. -/
def noUsage : Usage := fun _ _ => 0

def usageLocked (cache : AssumedReservationCache) : Usage :=
  cache.entries.foldl (fun usage entry => addUsage usage entry.2.podName entry.2.request) noUsage

/-- What one reservation adds to the usage of a Pod. -/
def AssumedReservation.weight (reservation : AssumedReservation) (pod resource : String) :
    Int :=
  if reservation.podName = pod then amount reservation.request resource else 0

theorem addUsage_apply (usage : Usage) (podName : String) (request : ResourceList)
    (pod resource : String) :
    addUsage usage podName request pod resource =
      usage pod resource + if podName = pod then amount request resource else 0 := by
  unfold addUsage
  by_cases same : pod = podName
  · simp [same]
  · simp [same, Ne.symm same]

/-- Adding requests one after another adds up their amounts. -/
theorem foldl_addUsage_apply {ι : Type*} (items : List ι) (podName : ι → String)
    (request : ι → ResourceList) (usage : Usage) (pod resource : String) :
    (items.foldl (fun usage item => addUsage usage (podName item) (request item)) usage)
        pod resource =
      usage pod resource + (items.map fun item =>
          if podName item = pod then amount (request item) resource else 0).sum := by
  induction items generalizing usage with
  | nil => simp
  | cons item rest ih =>
    rw [List.foldl_cons, ih, addUsage_apply, List.map_cons, List.sum_cons, add_assoc]

/-- The reserved usage is the total weight of the reservations. -/
theorem usageLocked_apply (cache : AssumedReservationCache) (pod resource : String) :
    usageLocked cache pod resource =
      cache.total fun _ reservation => reservation.weight pod resource := by
  rw [usageLocked, foldl_addUsage_apply]
  simp [noUsage, Table.total, AssumedReservation.weight]

/-! ## Methods -/

/-- The lookup in `byKey`: a later Run of the list overwrites an earlier one. -/
def byKey (runs : List Run) (key : ReservationKey) : Option Run :=
  runs.reverse.find? fun run => reservationKeyFor run == key

/-- The reservations that `syncLocked` keeps. -/
def isStillAssumed (runs : List Run) (key : ReservationKey)
    (reservation : AssumedReservation) : Bool :=
  match byKey runs key with
  | none => false
  | some run => run.isUnassignedPending && run.name == reservation.runName

def syncLocked (cache : AssumedReservationCache) (runs : List Run) :
    AssumedReservationCache :=
  cache.keep (isStillAssumed runs)

def isActiveAffinityTarget (run : Run) : Bool :=
  run.status.assignedPod != "" && run.status.phase.consumesRuntimeCapacity

/-- `snapshot`: the synchronised cache, the effective usage and the affinity
targets. -/
def snapshot (cache : AssumedReservationCache) (actual : Usage) (runs : List Run) :
    AssumedReservationCache × Usage × List AffinityTarget :=
  let synced := syncLocked cache runs
  let observed := (runs.filter isActiveAffinityTarget).map fun run =>
    { podName := run.status.assignedPod, labels := run.labels : AffinityTarget }
  let assumed := synced.entries.map fun entry =>
    { podName := entry.2.podName, labels := entry.2.labels : AffinityTarget }
  (synced, mergeUsage actual (usageLocked synced), observed ++ assumed)

def effectiveUsage (cache : AssumedReservationCache) (actual : Usage) (runs : List Run) :
    AssumedReservationCache × Usage :=
  let taken := snapshot cache actual runs
  (taken.1, taken.2.1)

def assumeLocked (cache : AssumedReservationCache) (run : Run) (podName : String)
    (request : ResourceList) : AssumedReservationCache :=
  cache.insert (reservationKeyFor run)
    { runName := run.name, podName, request, labels := run.labels }

/-- `reserve`: the next cache, and whether the reservation was made. -/
def reserve (cache : AssumedReservationCache) (taken : SchedulingSnapshot) (pod : Pod)
    (available : (String → Int) → Bool) : AssumedReservationCache × Bool :=
  let synced := syncLocked cache taken.runs
  let usage := mergeUsage taken.actualUsageByPod (usageLocked synced)
  if available (usage pod.name) then
    (assumeLocked synced taken.run pod.name taken.request, true)
  else (synced, false)

def observe (cache : AssumedReservationCache) (run : Run) : AssumedReservationCache :=
  if run.isUnassignedPending then cache else cache.erase (reservationKeyFor run)

def release (cache : AssumedReservationCache) (run : Run) : AssumedReservationCache :=
  cache.erase (reservationKeyFor run)

/-! ## Lookups -/

theorem byKey_eq_some (found : byKey runs key = some run) :
    run ∈ runs ∧ reservationKeyFor run = key := by
  constructor
  · exact List.mem_reverse.mp (List.mem_of_find?_eq_some found)
  · simpa using List.find?_some found

/-- A key without a listed Run is not found. -/
theorem byKey_eq_none_iff :
    byKey runs key = none ↔ ∀ run ∈ runs, reservationKeyFor run ≠ key := by
  simp [byKey]

theorem lookup_syncLocked_eq_some_iff {reservation : AssumedReservation} :
    (syncLocked cache runs).lookup key = some reservation ↔ cache.lookup key = some reservation ∧
        ∃ run, byKey runs key = some run ∧ run.isUnassignedPending = true ∧
          run.name = reservation.runName := by
  rw [syncLocked, Table.lookup_keep_eq_some_iff]
  refine and_congr_right fun _ => ?_
  unfold isStillAssumed
  cases byKey runs key <;> simp

theorem lookup_assumeLocked_self (cache : AssumedReservationCache) (run : Run)
    (podName : String) (request : ResourceList) :
    (assumeLocked cache run podName request).lookup (reservationKeyFor run) =
      some { runName := run.name, podName, request, labels := run.labels } :=
  AList.lookup_insert _

theorem lookup_assumeLocked_of_ne {podName : String} {request : ResourceList}
    (different : key ≠ reservationKeyFor run) :
    (assumeLocked cache run podName request).lookup key = cache.lookup key :=
  AList.lookup_insert_ne different

theorem lookup_release_of_ne (different : key ≠ reservationKeyFor run) :
    (release cache run).lookup key = cache.lookup key :=
  AList.lookup_erase_ne different

/-- Observing a Run never touches the reservation of another Run. -/
theorem lookup_observe_of_ne (different : key ≠ reservationKeyFor run) :
    (observe cache run).lookup key = cache.lookup key := by
  unfold observe
  split
  · rfl
  · exact AList.lookup_erase_ne different

end Kruntimes.Scheduler
