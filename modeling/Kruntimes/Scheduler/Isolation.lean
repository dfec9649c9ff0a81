import Kruntimes.Scheduler.ReservationCache

/-!
# Namespaces sharing one reservation cache

One cache serves every namespace, but `snapshot` and `reserve` synchronise it
with the Run list of the namespace that is being scheduled.  A reservation of
another namespace has no Run in that list and is dropped, so a call leaves other
namespaces alone exactly when they hold no reservation.
-/

namespace Kruntimes.Scheduler

open Api Data

variable {cache : AssumedReservationCache} {key : ReservationKey} {nameSpace : String}

/-- The calls a scheduling cycle makes with the Run list of its namespace. -/
inductive CacheCall
  | snapshot (actual : Usage) (runs : List Run)
  | effectiveUsage (actual : Usage) (runs : List Run)
  | reserve (taken : SchedulingSnapshot) (pod : Pod) (available : (String → Int) → Bool)

namespace CacheCall

/-- The cache after the call. -/
def perform : CacheCall → AssumedReservationCache → AssumedReservationCache
  | .snapshot actual runs, cache => (Scheduler.snapshot cache actual runs).1
  | .effectiveUsage actual runs, cache => (Scheduler.effectiveUsage cache actual runs).1
  | .reserve taken pod available, cache => (Scheduler.reserve cache taken pod available).1

/-- The Run list the call synchronises with. -/
def runs : CacheCall → List Run
  | .snapshot _ runs => runs
  | .effectiveUsage _ runs => runs
  | .reserve taken _ _ => taken.runs

/-- The Run for which the call may add a reservation. -/
def reservedRun : CacheCall → Option Run
  | .reserve taken _ _ => some taken.run
  | _ => none

/-- The call is made while scheduling a Run of `nameSpace`, with the Runs listed
there. -/
structure MadeFor (call : CacheCall) (nameSpace : String) : Prop where
  listed : ∀ run ∈ call.runs, run.nameSpace = nameSpace
  scheduled : ∀ run, call.reservedRun = some run → run.nameSpace = nameSpace

/-- A call keeps the synchronised reservations of every Run that it does not
reserve for. -/
theorem lookup_perform_of_ne {call : CacheCall}
    (different : ∀ run, call.reservedRun = some run → key ≠ reservationKeyFor run) :
    (call.perform cache).lookup key = (syncLocked cache call.runs).lookup key := by
  cases call with
  | snapshot | effectiveUsage => rfl
  | reserve taken =>
    simp only [perform, Scheduler.reserve, runs]
    split
    · exact lookup_assumeLocked_of_ne (different taken.run rfl)
    · rfl

end CacheCall

/-- The reservation keys of the cache belong to one namespace. -/
def OnlyFor (nameSpace : String) (cache : AssumedReservationCache) : Prop :=
  ∀ key reservation, cache.lookup key = some reservation → key.nameSpace = nameSpace

/-- The call for `nameSpace` is invisible to the other namespaces: their
reservations are unchanged, and so is the usage computed for them afterwards. -/
structure LeavesOthersAlone (nameSpace : String) (call : CacheCall)
    (cache : AssumedReservationCache) : Prop where
  reservations : ∀ key reservation, cache.lookup key = some reservation →
    key.nameSpace ≠ nameSpace → (call.perform cache).lookup key = some reservation
  usage : ∀ (other : String) (actual : Usage) (runs : List Run), other ≠ nameSpace →
    (∀ run ∈ runs, run.nameSpace = other) → (effectiveUsage (call.perform cache) actual runs).2 =
        (effectiveUsage cache actual runs).2

section Foreign

variable {runs : List Run} (listed : ∀ run ∈ runs, run.nameSpace = nameSpace)
  (foreign : key.nameSpace ≠ nameSpace)

include listed foreign

/-- A Run list of one namespace never contains the Run of a foreign key. -/
theorem byKey_eq_none_of_foreign :
    byKey runs key = none := by
  rw [byKey_eq_none_iff]
  rintro run mem rfl
  exact foreign (listed run mem)

/-- Synchronising drops every foreign reservation. -/
theorem lookup_syncLocked_of_foreign :
    (syncLocked cache runs).lookup key = none := by
  rw [Option.eq_none_iff_forall_ne_some]
  intro reservation kept
  obtain ⟨_, _, found, _⟩ := lookup_syncLocked_eq_some_iff.mp kept
  rw [byKey_eq_none_of_foreign listed foreign] at found
  contradiction

end Foreign

/-- A cache that holds only reservations of one namespace adds nothing to the
usage of another. -/
theorem effectiveUsage_of_onlyFor {other : String} (only : OnlyFor nameSpace cache)
    (different : other ≠ nameSpace) {actual : Usage} {runs : List Run}
    (listed : ∀ run ∈ runs, run.nameSpace = other) :
    (effectiveUsage cache actual runs).2 = actual := by
  have dropped : (syncLocked cache runs).entries = [] := by
    refine Table.keep_entries_eq_nil fun key reservation found => ?_
    have foreign : key.nameSpace ≠ other := by
      rw [only key reservation found]
      exact Ne.symm different
    simp [isStillAssumed, byKey_eq_none_of_foreign listed foreign]
  funext pod resource
  change actual pod resource + usageLocked (syncLocked cache runs) pod resource = _
  rw [usageLocked_apply, Table.total_eq_zero_of_entries_eq_nil dropped, add_zero]

theorem onlyFor_perform {call : CacheCall} (made : call.MadeFor nameSpace) :
    OnlyFor nameSpace (call.perform cache) := by
  intro key reservation found
  by_contra foreign
  have different : ∀ run, call.reservedRun = some run → key ≠ reservationKeyFor run := by
    rintro run scheduled rfl
    exact foreign (made.scheduled run scheduled)
  rw [CacheCall.lookup_perform_of_ne different,
    lookup_syncLocked_of_foreign made.listed foreign] at found
  contradiction

/-- A call for one namespace is invisible to the others exactly when the cache
holds no reservation of another namespace. -/
theorem leavesOthersAlone_iff_onlyFor (nameSpace : String) (call : CacheCall)
    (cache : AssumedReservationCache) (made : call.MadeFor nameSpace) :
    LeavesOthersAlone nameSpace call cache ↔ OnlyFor nameSpace cache := by
  constructor
  · intro alone key reservation found
    by_contra foreign
    have kept := alone.reservations key reservation found foreign
    exact foreign (onlyFor_perform made key reservation kept)
  · intro only
    constructor
    · intro key reservation found foreign
      exact absurd (only key reservation found) foreign
    · intro other actual runs different listed
      rw [effectiveUsage_of_onlyFor (onlyFor_perform made) different listed,
        effectiveUsage_of_onlyFor only different listed]

/-- A reservation of one unit of the built-in resource. -/
def soleReservation : AssumedReservation where
  runName := "run-1"
  podName := "pod-1"
  request := AList.insert runtimeResourceRuns (Quantity.ofInt 1) ∅
  labels := ∅

/-- A cache with the reservation of one Run in namespace `a`. -/
def soleCache : AssumedReservationCache :=
  AList.insert ⟨"a", "uid-1"⟩ soleReservation ∅

/-- A Run of a namespace that waits for its assignment. -/
def waitingRun (nameSpace uid : String) : Run where
  nameSpace
  name := "run"
  uid
  spec := { runtime := "bash", mode := { task := true, function := none, session := none } }

/-- Nothing is lost for a namespace that is alone, here with the Run that holds the
reservation and another one. -/
theorem leavesOthersAlone_soleCache :
    LeavesOthersAlone "a"
      (.snapshot noUsage [waitingRun "a" "uid-1", waitingRun "a" "uid-3"]) soleCache := by
  have made : (CacheCall.snapshot noUsage
      [waitingRun "a" "uid-1", waitingRun "a" "uid-3"]).MadeFor "a" :=
    ⟨by simp [CacheCall.runs, waitingRun], by simp [CacheCall.reservedRun]⟩
  refine (leavesOthersAlone_iff_onlyFor "a" _ soleCache made).mpr ?_
  intro key reservation found
  by_contra foreign
  have different : key ≠ ⟨"a", "uid-1"⟩ := by
    rintro rfl
    exact foreign rfl
  rw [soleCache, AList.lookup_insert_ne different] at found
  simp at found

/-- A snapshot for namespace `b`, with its one Run, deletes the reservation held
for namespace `a`. -/
theorem not_leavesOthersAlone_soleCache :
    ¬ LeavesOthersAlone "b" (.snapshot noUsage [waitingRun "b" "uid-2"]) soleCache := by
  intro alone
  have kept := alone.reservations ⟨"a", "uid-1"⟩ soleReservation (AList.lookup_insert _) (by decide)
  exact absurd kept (by decide +kernel)

end Kruntimes.Scheduler
