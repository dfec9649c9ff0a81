import Kruntimes.Scheduler.Changes

/-!
# Capacity safety

The Runs that are stored as assigned to a Pod and have not ended must fit into
the capacity the Pod advertises.  A Run is accounted for by its own informer copy
or, between `bind` and the delivery of the assignment, by a reservation.  Three
situations break this accounting: a copy in phase Finalizing, which the usage
computation skips although its Pod has no room beside it; a snapshot for another
namespace, which drops the reservation; and a second cycle for a Run that is already
bound, which replaces and then releases it.  Runs of the cluster that avoid the three
are safe.
-/

namespace Kruntimes.Scheduler

open Api Data Transition

variable {nameSpace pod resource : String} {worker : Worker} {object : RunObject}
  {key : ReservationKey} {core : Core} {reconciler : RunReconciler}

/-! ## The property -/

/-- What a stored Run holds on a Pod until it ends. -/
def heldAmount (nameSpace pod resource : String) (object : RunObject) : Int :=
  match object.view.persisted with
  | none => 0
  | some run =>
    if run.nameSpace = nameSpace ∧ run.status.assignedPod = pod ∧
        run.status.phase.isTerminal = false then
      requestAmount run resource
    else 0

/-- The sum of the requests of all stored Runs that are assigned to the Pod and
not terminal. -/
def assignedDemand (core : Core) (nameSpace pod resource : String) : Int :=
  core.runs.total fun _ object => heldAmount nameSpace pod resource object

/-- No Pod is overcommitted. -/
def CapacitySafe (reconciler : RunReconciler) (core : Core) : Prop :=
  ∀ nameSpace name pod, core.pod nameSpace name = some pod → ∀ resource,
    assignedDemand core nameSpace name resource ≤ amount (advertised reconciler pod) resource

/-! ## The side condition -/

/-- The stored Run is assigned and has not ended. -/
def isStoredActive (object : RunObject) : Bool :=
  object.view.persisted.any fun run => run.status.phase.isActive

/-- The informer shows a Run as Finalizing that has not ended. -/
def showsFinalizing (object : RunObject) : Bool :=
  (object.view.cached.any fun run => run.status.phase == .finalizing) && isStoredActive object

/-- The informer still shows a Run waiting that is already assigned. -/
def isHandingOver (object : RunObject) : Bool :=
  showsPending object.view.cached && isStoredActive object

/-- What a Run holds on a Pod while the informer shows it as Finalizing. -/
def hiddenAmount (nameSpace pod resource : String) (object : RunObject) : Int :=
  if showsFinalizing object then heldAmount nameSpace pod resource object else 0

/-- The part of the demand that the snapshots do not count. -/
def hiddenDemand (core : Core) (nameSpace pod resource : String) : Int :=
  core.runs.total fun _ object => hiddenAmount nameSpace pod resource object

/-- The snapshot that a planning step takes. -/
def takenSnapshot (action : Action) (core : Core) : Option SchedulingSnapshot :=
  match action, core.worker with
  | .plan pods workspace now, .planning run request =>
    some (loadSchedulingSnapshot core.assumptions run request pods workspace
      (core.listRuns run.nameSpace) now).2
  | _, _ => none

theorem takenSnapshot_of_planning {pods : List Pod} {workspace : Option PersistentWorkspace}
    {now : Time} {run : Run} {request : ResourceList}
    (stage : core.worker = .planning run request) :
    takenSnapshot (.plan pods workspace now) core =
      some (loadSchedulingSnapshot core.assumptions run request pods workspace
        (core.listRuns run.nameSpace) now).2 := by
  simp only [takenSnapshot, stage]

/-- The condition on a planning step: no Run of another namespace depends on a
reservation, and every Pod that is available to the Run has room for it beside the
Runs that are shown Finalizing there, while the Run itself is not already assigned. -/
def CapacityGuard (reconciler : RunReconciler) (action : Action) (cluster : Cluster) : Prop :=
  ∀ taken ∈ takenSnapshot action cluster.core,
    (∀ entry ∈ cluster.core.runs.entries, entry.1.nameSpace ≠ taken.run.nameSpace →
      isHandingOver entry.2 = false) ∧
    ∀ pod ∈ availablePods reconciler taken,
      fits (advertised reconciler pod) (fun resource => taken.usageByPod pod.name resource +
          hiddenDemand cluster.core taken.run.nameSpace pod.name resource) taken.request = true ∧
      ∀ object ∈ cluster.core.runs.lookup (reservationKeyFor taken.run),
        isStoredActive object = false

instance (reconciler : RunReconciler) (action : Action) (cluster : Cluster) :
    Decidable (CapacityGuard reconciler action cluster) :=
  inferInstanceAs (Decidable (∀ taken ∈ takenSnapshot action cluster.core, _))

/-! ## Amounts -/

theorem requestAmount_eq_of_fixedSpec {first second : Run}
    (same : first.fixedSpec = second.fixedSpec) (resource : String) :
    requestAmount first resource = requestAmount second resource := by
  simp only [requestAmount, resourceRequests_eq_of_fixedSpec same]

theorem heldAmount_nonneg (nameSpace pod resource : String) (object : RunObject) :
    0 ≤ heldAmount nameSpace pod resource object := by
  unfold heldAmount
  split
  · exact le_rfl
  split
  · exact requestAmount_nonneg _ _
  · exact le_rfl

theorem addCapacity_allPositive {platform : Platform} {resources : ResourceList}
    (positive : AllPositive resources) (key raw : String) :
    AllPositive (addCapacity platform resources key raw) := by
  unfold addCapacity
  split
  · exact positive
  split
  · exact positive
  split
  · exact positive
  split
  · exact positive
  next enough =>
    exact positive.insert (not_le.mp enough)

/-- An advertised capacity is never negative. -/
theorem advertised_allPositive (reconciler : RunReconciler) (pod : Pod) :
    AllPositive (advertised reconciler pod) := by
  have fallback : AllPositive defaultRuntimePodCapacity :=
    AllPositive.insert (fun _ _ found => by simp at found) (by decide)
  unfold advertised capacity
  generalize defaultRuntimePodCapacity = start at fallback
  induction pod.annotations.entries generalizing start with
  | nil => exact fallback
  | cons entry rest ih => exact ih _ (addCapacity_allPositive fallback entry.1 entry.2)

theorem amount_le_of_keepsCapacity {old new : Pod}
    (keeps : keepsCapacity reconciler old new = true) (resource : String) :
    amount (advertised reconciler old) resource ≤ amount (advertised reconciler new) resource := by
  cases found : (advertised reconciler old).lookup resource with
  | none =>
    have absent : amount (advertised reconciler old) resource = 0 := by
      simp [amount, found]
    rw [absent]
    exact (advertised_allPositive reconciler new).amount_nonneg resource
  | some quantity =>
    rw [amount_eq_of_lookup found]
    simpa using List.all_eq_true.mp keeps ⟨resource, quantity⟩ (Table.mem_entries_iff.mpr found)

/-! ## The invariant -/

/-- The hand-over of an assignment to the informer: the outstanding versions show
the Run first waiting and then on the Pod, and as long as the informer shows it
waiting a reservation stands in. -/
def HandedOver (core : Core) (key : ReservationKey) (object : RunObject) (pod : String) :
    Prop :=
  ∃ waiting running, object.view.versions = waiting ++ running ∧
    (∀ version ∈ waiting, showsPending version = true) ∧
    (∀ version ∈ running, ∃ run, version = some run ∧ run.isActiveOn pod = true) ∧
    (waiting ≠ [] → ∃ reservation, core.assumptions.lookup key = some reservation ∧
      reservation.podName = pod)

/-- What guarded runs preserve. -/
structure CapacityInv (reconciler : RunReconciler) (core : Core) : Prop where
  handedOver : ∀ key object stored pod, core.runs.lookup key = some object →
    object.view.persisted = some stored → stored.isActiveOn pod = true →
      HandedOver core key object pod
  known : ∀ key object stored pod, core.runs.lookup key = some object →
    object.view.persisted = some stored → stored.isActiveOn pod = true →
      (core.pod stored.nameSpace pod).isSome = true
  newest : ∀ old ∈ core.pods, ∀ new, core.pod old.nameSpace old.name = some new →
    ∀ resource, amount (advertised reconciler old) resource ≤
      amount (advertised reconciler new) resource
  safe : CapacitySafe reconciler core
  inactive : ∀ run pod, core.worker = .binding run pod → ∀ object,
    core.runs.lookup (reservationKeyFor run) = some object → isStoredActive object = false
  room : ∀ run pod, core.worker = .binding run pod → ∀ new,
    core.pod pod.nameSpace pod.name = some new → ∀ resource, 0 < requestAmount run resource →
        assignedDemand core run.nameSpace pod.name resource + requestAmount run resource ≤
          amount (advertised reconciler new) resource

theorem isStoredActive_iff (object : RunObject) :
    isStoredActive object = true ↔
      ∃ run, object.view.persisted = some run ∧ run.status.phase.isActive = true := by
  cases latest : object.view.persisted <;> simp [isStoredActive, latest]

/-- A settled Run that is assigned and not terminal is active on its Pod. -/
theorem isActiveOn_of_settled {run : Run} (settled : Settled run) (named : pod ≠ "")
    (assigned : run.status.assignedPod = pod) (notTerminal : run.status.phase.isTerminal = false) :
    run.isActiveOn pod = true := by
  rw [Run.isActiveOn_iff]
  rcases settled with waiting | ⟨active, _⟩ | terminal
  · have unassigned := ((Run.isUnassignedPending_iff run).mp waiting).2
    exact absurd (assigned.symm.trans unassigned) named
  · exact ⟨active, assigned, named⟩
  · rw [terminal] at notTerminal
    contradiction

/-- What a stored Run holds, once it is known to be settled. -/
theorem heldAmount_pos_cases (settled : ∀ run, object.view.persisted = some run → Settled run)
    (named : pod ≠ "") :
    heldAmount nameSpace pod resource object = 0 ∨
      ∃ run, object.view.persisted = some run ∧ run.nameSpace = nameSpace ∧
        run.isActiveOn pod = true ∧
        heldAmount nameSpace pod resource object = requestAmount run resource := by
  unfold heldAmount
  cases latest : object.view.persisted with
  | none => exact .inl rfl
  | some run =>
    by_cases counted : run.nameSpace = nameSpace ∧ run.status.assignedPod = pod ∧
        run.status.phase.isTerminal = false
    · refine .inr ⟨run, rfl, counted.1, ?_, if_pos counted⟩
      exact isActiveOn_of_settled (settled run latest) named counted.2.1 counted.2.2
    · exact .inl (if_neg counted)

theorem heldAmount_of_isActiveOn {run : Run} (latest : object.view.persisted = some run)
    (active : run.isActiveOn pod = true) (resource : String) :
    heldAmount run.nameSpace pod resource object = requestAmount run resource := by
  rcases (Run.isActiveOn_iff run pod).mp active with ⟨phase, assigned, _⟩
  simp [heldAmount, latest, assigned, RunPhase.isTerminal_of_isActive phase]

theorem Base.settled (base : Base core) (found : core.runs.lookup key = some object) (run : Run)
    (latest : object.view.persisted = some run) : Settled run :=
  (base.objects key object found).settled run (Watched.mem_versions_of_persisted latest)

theorem eq_of_persisted_write {new run : Run}
    (latest : (object.write (some new)).view.persisted = some run) : new = run :=
  Option.some.inj ((Watched.persisted_write _ _).symm.trans latest)

/-- A lifecycle step never makes a Run hold more. -/
theorem heldAmount_write_le {stored new : Run} (persisted : object.view.persisted = some stored)
    (settled : Settled stored) (advances : LifecycleStep stored new) (named : pod ≠ "") :
    heldAmount nameSpace pod resource (object.write (some new)) ≤
      heldAmount nameSpace pod resource object := by
  have settledNew : ∀ run, (object.write (some new)).view.persisted = some run → Settled run :=
    fun run latest => eq_of_persisted_write latest ▸ advances.status.settled settled
  rcases heldAmount_pos_cases settledNew named with zero | ⟨run, latest, sameSpace, active, held⟩
  · rw [zero]
    exact heldAmount_nonneg _ _ _ _
  cases eq_of_persisted_write latest
  have storedActive := advances.status.isActiveOn_before active
  have sameNameSpace : stored.nameSpace = nameSpace := by
    rw [← sameSpace]
    exact (congrArg ReservationKey.nameSpace advances.key).symm
  rw [held, ← sameNameSpace, heldAmount_of_isActiveOn persisted storedActive,
    requestAmount_eq_of_fixedSpec advances.spec]

theorem matches_of_pod {name : String} {pod : Pod} (current : core.pod nameSpace name = some pod) :
    pod.nameSpace = nameSpace ∧ pod.name = name := by
  simpa using List.find?_some current

theorem name_ne_empty_of_pod {name : String} {pod : Pod}
    (current : core.pod nameSpace name = some pod) : name ≠ "" :=
  (matches_of_pod current).2 ▸ pod.name_ne_empty

/-- A Pod that was ever written has a newest version. -/
theorem exists_pod_of_mem {pod : Pod} (mem : pod ∈ core.pods) :
    ∃ newest, core.pod pod.nameSpace pod.name = some newest := by
  rw [← Option.isSome_iff_exists, Core.pod, List.find?_isSome]
  exact ⟨pod, mem, by simp⟩

section ObjectChange

variable {reconciler : RunReconciler} {core : Core} {key : ReservationKey}
  {object next : RunObject}

/-- A change of one object, from what holds of the object and of the worker afterwards. -/
theorem CapacityInv.insert (inv : CapacityInv reconciler core)
    (accounted : ∀ run pod, next.view.persisted = some run → run.isActiveOn pod = true →
      HandedOver core key next pod ∧ (core.pod run.nameSpace pod).isSome = true)
    (safe : CapacitySafe reconciler { core with runs := core.runs.insert key next, worker })
    (binding : ∀ run pod, worker = .binding run pod → core.worker = .binding run pod ∧
      (reservationKeyFor run = key → isStoredActive next = false) ∧ ∀ resource,
        assignedDemand { core with runs := core.runs.insert key next, worker }
          run.nameSpace pod.name resource ≤ assignedDemand core run.nameSpace pod.name resource) :
    CapacityInv reconciler { core with runs := core.runs.insert key next, worker } := by
  constructor
  · intro other stored run pod lookup latest active
    rcases Table.lookup_insert_cases lookup with ⟨rfl, rfl⟩ | ⟨_, lookup⟩
    · exact (accounted run pod latest active).1
    · exact inv.handedOver _ _ _ _ lookup latest active
  · intro other stored run pod lookup latest active
    rcases Table.lookup_insert_cases lookup with ⟨rfl, rfl⟩ | ⟨_, lookup⟩
    · exact (accounted run pod latest active).2
    · exact inv.known _ _ _ _ lookup latest active
  · exact inv.newest
  · exact safe
  · intro run pod bound stored lookup
    obtain ⟨before, own, _⟩ := binding run pod bound
    rcases Table.lookup_insert_cases lookup with ⟨same, rfl⟩ | ⟨_, lookup⟩
    · exact own same
    · exact inv.inactive run pod before stored lookup
  · intro run pod bound new current resource requested
    obtain ⟨before, _, less⟩ := binding run pod bound
    have room := inv.room run pod before new current resource requested
    have less := less resource
    omega

/-- The invariant survives a change of one object that assigns nothing new. -/
theorem CapacityInv.of_object (inv : CapacityInv reconciler core)
    (stage : worker = core.worker ∨ ∀ run pod, worker ≠ .binding run pod)
    (accounted : ∀ run pod, next.view.persisted = some run → run.isActiveOn pod = true →
      HandedOver core key next pod ∧ (core.pod run.nameSpace pod).isSome = true)
    (less : ∀ nameSpace pod resource, pod ≠ "" → heldAmount nameSpace pod resource next ≤
      (core.runs.lookup key).elim 0 fun object => heldAmount nameSpace pod resource object)
    (inactive : (∀ object, core.runs.lookup key = some object →
      isStoredActive object = false) → isStoredActive next = false) :
    CapacityInv reconciler { core with runs := core.runs.insert key next, worker } := by
  have demand : ∀ nameSpace pod resource, pod ≠ "" →
      assignedDemand { core with runs := core.runs.insert key next, worker }
        nameSpace pod resource ≤ assignedDemand core nameSpace pod resource := by
    intro nameSpace pod resource named
    have less := less nameSpace pod resource named
    simp only [assignedDemand, Table.total_insert]
    omega
  apply inv.insert accounted
  · intro nameSpace name pod current resource
    exact (demand _ _ resource (name_ne_empty_of_pod current)).trans
      (inv.safe nameSpace name pod current resource)
  · intro run pod bound
    have same := stage.resolve_right fun other => other run pod bound
    rw [bound] at same
    refine ⟨same.symm, ?_, fun resource => demand _ _ resource pod.name_ne_empty⟩
    rintro rfl
    exact inactive (inv.inactive run pod same.symm)

/-- A lifecycle step of a stored Run preserves the invariant. -/
theorem CapacityInv.write (base : Base core) (inv : CapacityInv reconciler core)
    (found : core.runs.lookup key = some object) {stored new : Run}
    (persisted : object.view.persisted = some stored) (advances : LifecycleStep stored new)
    (stage : worker = core.worker ∨ ∀ run pod, worker ≠ .binding run pod) :
    CapacityInv reconciler
      { core with runs := core.runs.insert key (object.write (some new)), worker } := by
  refine inv.of_object stage ?_ ?_ ?_
  · intro run pod current active
    cases eq_of_persisted_write current
    have before := advances.status.isActiveOn_before active
    have sameSpace : new.nameSpace = stored.nameSpace :=
      congrArg ReservationKey.nameSpace advances.key
    rcases inv.handedOver _ _ _ _ found persisted before with
      ⟨waiting, running, split, pending, assigned, reserved⟩
    refine ⟨⟨waiting, running ++ [some new], ?_, pending, ?_, reserved⟩,
      sameSpace ▸ inv.known _ _ _ _ found persisted before⟩
    · change object.view.versions ++ [some new] = _
      rw [split, List.append_assoc]
    · intro version mem
      rcases List.mem_append.mp mem with old | last
      · exact assigned version old
      · exact ⟨new, List.mem_singleton.mp last, active⟩
  · intro nameSpace pod resource named
    rw [found]
    exact heldAmount_write_le persisted (base.settled found stored persisted) advances named
  · intro notActive
    by_contra active
    rw [Bool.not_eq_false, isStoredActive_iff] at active
    rcases active with ⟨run, current, phase⟩
    cases eq_of_persisted_write current
    have before := (advances.status.active_before phase).1
    have active := (isStoredActive_iff object).mpr ⟨stored, persisted, before⟩
    rw [notActive object found] at active
    contradiction

theorem CapacityInv.delete (inv : CapacityInv reconciler core)
    (found : core.runs.lookup key = some object) :
    CapacityInv reconciler { core with runs := core.runs.insert key (object.write none) } := by
  have gone : (object.write none).view.persisted = none := Watched.persisted_write _ _
  refine inv.of_object (.inl rfl) ?_ ?_ ?_
  · intro run pod current
    rw [gone] at current
    contradiction
  · intro nameSpace pod resource _
    rw [heldAmount, gone, found]
    exact heldAmount_nonneg _ _ _ _
  · intro _
    simp [isStoredActive, gone]

/-- A delivery takes the oldest version away: a waiting one as long as there is
one. -/
theorem CapacityInv.deliver (inv : CapacityInv reconciler core)
    (found : core.runs.lookup key = some object) {view : Watched (Option Run)}
    (delivered : object.view.deliver = some view) :
    CapacityInv reconciler { core with runs := core.runs.insert key { object with view } } := by
  have samePersisted : view.persisted = object.view.persisted :=
    Watched.persisted_of_deliver delivered
  have versions : object.view.versions = object.view.cached :: view.versions := by
    rw [Watched.versions, (Watched.deliver_eq_some_iff _ _).mp delivered]
    rfl
  refine inv.of_object (.inl rfl) ?_ ?_ ?_
  · intro run pod current active
    have latest := samePersisted.symm.trans current
    refine ⟨?_, inv.known _ _ _ _ found latest active⟩
    rcases inv.handedOver _ _ _ _ found latest active with
      ⟨waiting, running, split, pending, assigned, reserved⟩
    rw [versions] at split
    cases waiting with
    | nil =>
      cases running with
      | nil => contradiction
      | cons first rest =>
        rw [List.nil_append, List.cons.injEq] at split
        exact ⟨[], rest, split.2, by simp, fun version mem =>
          assigned version (.tail _ mem), by simp⟩
    | cons first rest =>
      rw [List.cons_append, List.cons.injEq] at split
      exact ⟨rest, running, split.2, fun version mem =>
        pending version (.tail _ mem), assigned, fun _ =>
          reserved (List.cons_ne_nil _ _)⟩
  · intro nameSpace pod resource _
    simp [heldAmount, samePersisted, found]
  · intro notActive
    simpa [isStoredActive, samePersisted] using notActive object found

end ObjectChange

/-! ## Accounting in a snapshot -/

theorem usageOn_of_isActiveOn {run : Run} (active : run.isActiveOn pod = true)
    (counted : run.status.phase ≠ .finalizing) (resource : String) :
    usageOn run pod resource = requestAmount run resource := by
  rcases (Run.isActiveOn_iff run pod).mp active with ⟨phase, assigned, named⟩
  have consumes := RunPhase.consumesRuntimeCapacity_of_isActive phase counted
  simp [usageOn, assigned, named, consumes]

/-- A synchronised reservation never counts negatively. -/
theorem weight_nonneg_of_synced (base : Base core) {runs : List Run}
    {reservation : AssumedReservation}
    (reserved : (syncLocked core.assumptions runs).lookup key = some reservation)
    (pod resource : String) : 0 ≤ reservation.weight pod resource := by
  rcases base.reservations key reservation (lookup_syncLocked_eq_some_iff.mp reserved).1 with
    ⟨_, _, _, computed⟩
  unfold AssumedReservation.weight
  split
  · exact (RunSpec.resourceRequests_allPositive computed).amount_nonneg resource
  · exact le_rfl

/-- The effective usage of a snapshot covers what the stored Runs hold on the Pod, but for
those that are shown Finalizing. -/
theorem assignedDemand_le_usage (base : Base core) (inv : CapacityInv reconciler core)
    (named : pod ≠ "") (resource : String) :
    assignedDemand core nameSpace pod resource ≤
      mergeUsage (assignedRunUsage (core.listRuns nameSpace))
          (usageLocked (syncLocked core.assumptions (core.listRuns nameSpace))) pod resource +
        hiddenDemand core nameSpace pod resource := by
  rw [mergeUsage, assignedRunUsage_apply, usageLocked_apply, sum_listRuns, add_right_comm,
    hiddenDemand, ← Table.total_add]
  refine Table.total_le_add_total ?_ ?_
  · intro key reservation reserved
    exact weight_nonneg_of_synced base reserved pod resource
  · intro key object found
    have wellFormed := base.objects key object found
    have supplied : 0 ≤ object.view.cached.elim 0 fun run =>
        if run.nameSpace = nameSpace then usageOn run pod resource else 0 := by
      cases object.view.cached with
      | none => exact le_rfl
      | some run =>
        simp only [Option.elim_some]
        split
        · exact usageOn_nonneg run pod resource
        · exact le_rfl
    have reservedNonneg : 0 ≤ ((syncLocked core.assumptions
        (core.listRuns nameSpace)).lookup key).elim 0 fun reservation =>
          reservation.weight pod resource := by
      cases reserved : (syncLocked core.assumptions (core.listRuns nameSpace)).lookup key with
      | none => exact le_rfl
      | some => exact weight_nonneg_of_synced base reserved pod resource
    rw [hiddenAmount]
    split
    next => omega
    next shown =>
    rw [add_zero]
    rcases heldAmount_pos_cases (base.settled found) named with
      zero | ⟨stored, latest, sameSpace, active, held⟩
    · rw [zero]
      omega
    rw [held]
    have storedMem : some stored ∈ object.view.versions := Watched.mem_versions_of_persisted latest
    have keySpace : key.nameSpace = nameSpace := by
      rw [← sameSpace, ← wellFormed.sameKey stored storedMem]
      rfl
    rcases inv.handedOver key object stored pod found latest active with
      ⟨waiting, running, split, pending, assigned, reserved⟩
    have sameRequest : ∀ run, some run ∈ object.view.versions →
        requestAmount run resource = requestAmount stored resource := fun run mem =>
      requestAmount_eq_of_fixedSpec ((wellFormed.sameSpec run mem).trans
        (wellFormed.sameSpec stored storedMem).symm) resource
    cases waiting with
    | nil =>
      have first : object.view.cached ∈ running := by
        rw [List.nil_append] at split
        exact split ▸ object.view.cached_mem_versions
      rcases assigned _ first with ⟨run, cached, running'⟩
      have mem := Watched.mem_versions_of_cached cached
      have counted : run.status.phase ≠ .finalizing := by
        intro finalizing
        have storedActive : isStoredActive object = true :=
          (isStoredActive_iff object).mpr
            ⟨stored, latest, ((Run.isActiveOn_iff stored pod).mp active).1⟩
        simp [showsFinalizing, cached, finalizing, storedActive] at shown
      have runSpace : run.nameSpace = nameSpace := by
        rw [← keySpace, ← wellFormed.sameKey run mem]
        rfl
      rw [cached]
      simp only [Option.elim_some, runSpace, if_true,
        usageOn_of_isActiveOn running' counted, sameRequest run mem]
      omega
    | cons version =>
      have shown : object.view.cached = version := by
        rw [Watched.versions, List.cons_append, List.cons.injEq] at split
        exact split.1
      have waits : showsPending object.view.cached = true := shown ▸ pending version (.head _)
      rcases reserved (List.cons_ne_nil _ _) with ⟨reservation, lookup, samePod⟩
      have kept := lookup_syncLocked_of_waiting base lookup found waits
      rcases base.reservations key reservation lookup with ⟨_, ownerFound, _, computed⟩
      cases found.symm.trans ownerFound
      have weight : reservation.weight pod resource = requestAmount stored resource := by
        have sameComputed := resourceRequests_eq_of_fixedSpec (wellFormed.sameSpec stored storedMem)
        simp [AssumedReservation.weight, samePod, requestAmount, sameComputed, computed]
      rw [keySpace] at kept
      rw [kept, Option.elim_some, weight]
      omega

/-! ## The remaining changes -/

section Changes

variable {reconciler : RunReconciler} {core : Core}

/-- A change of the reservations that keeps what running hand-overs need. -/
theorem CapacityInv.withAssumptions (inv : CapacityInv reconciler core)
    {assumptions : AssumedReservationCache}
    (kept : ∀ key object reservation, core.runs.lookup key = some object →
      isStoredActive object = true → showsPending object.view.cached = true →
      core.assumptions.lookup key = some reservation →
        assumptions.lookup key = some reservation) (other : ∀ run pod, worker ≠ .binding run pod) :
    CapacityInv reconciler { core with assumptions, worker } := by
  constructor
  · intro key object stored pod found latest active
    rcases inv.handedOver key object stored pod found latest active with
      ⟨waiting, running, split, pending, assigned, reserved⟩
    refine ⟨waiting, running, split, pending, assigned, fun nonempty => ?_⟩
    rcases reserved nonempty with ⟨reservation, lookup, samePod⟩
    have storedActive : isStoredActive object = true := (isStoredActive_iff object).mpr
      ⟨stored, latest, ((Run.isActiveOn_iff stored pod).mp active).1⟩
    have shown : showsPending object.view.cached = true := by
      cases waiting with
      | nil => contradiction
      | cons version =>
        rw [Watched.versions, List.cons_append, List.cons.injEq] at split
        exact split.1 ▸ pending version (.head _)
    exact ⟨reservation, kept key object reservation found storedActive shown lookup, samePod⟩
  · exact inv.known
  · exact inv.newest
  · exact inv.safe
  · exact fun run pod binding => absurd binding (other run pod)
  · exact fun run pod binding => absurd binding (other run pod)

theorem CapacityInv.withWorker (inv : CapacityInv reconciler core)
    (other : ∀ run pod, worker ≠ .binding run pod) :
    CapacityInv reconciler { core with worker } :=
  inv.withAssumptions (fun _ _ _ _ _ _ lookup => lookup) other

theorem CapacityInv.create (inv : CapacityInv reconciler core) {run : Run}
    (fresh : core.runs.lookup (reservationKeyFor run) = none)
    (waiting : run.isUnassignedPending = true) :
    CapacityInv reconciler { core with
      runs := core.runs.insert (reservationKeyFor run) ⟨run, ⟨none, [some run]⟩⟩ } := by
  have latest : (⟨none, [some run]⟩ : Watched (Option Run)).persisted = some run := rfl
  rcases (Run.isUnassignedPending_iff run).mp waiting with ⟨_, unassigned⟩
  have notActive : run.status.phase.isActive = false := by
    cases phase : run.status.phase <;> simp_all [RunPhase.isPending, RunPhase.isActive]
  refine inv.of_object (.inl rfl) ?_ ?_ ?_
  · intro stored pod current active
    cases latest.symm.trans current
    rw [((Run.isActiveOn_iff run pod).mp active).1] at notActive
    contradiction
  · intro nameSpace pod resource named
    simp [heldAmount, latest, unassigned, Ne.symm named, fresh]
  · intro _
    simp [isStoredActive, latest, notActive]

theorem pod_podWrite (core : Core) (pod : Pod) (nameSpace name : String) :
    ({ core with pods := pod :: core.pods } : Core).pod nameSpace name =
      if pod.nameSpace = nameSpace ∧ pod.name = name then some pod
      else core.pod nameSpace name := by
  by_cases same : pod.nameSpace = nameSpace ∧ pod.name = name
  · simp [Core.pod, same]
  rw [if_neg same, Core.pod, List.find?_cons_of_neg]
  · rfl
  · simpa using same

/-- A Pod write may only raise the advertised capacity. -/
theorem CapacityInv.podWrite (base : Base core) (inv : CapacityInv reconciler core) {pod : Pod}
    (keeps : ∀ old ∈ core.pods, old.nameSpace = pod.nameSpace ∧ old.name = pod.name →
      keepsCapacity reconciler old pod = true) :
    CapacityInv reconciler { core with pods := pod :: core.pods } := by
  have raised : ∀ nameSpace name new,
      ({ core with pods := pod :: core.pods } : Core).pod nameSpace name = some new →
      ∀ old, core.pod nameSpace name = some old → ∀ resource,
        amount (advertised reconciler old) resource ≤
          amount (advertised reconciler new) resource := by
    intro nameSpace name new current old previous resource
    rw [pod_podWrite] at current
    split at current
    next same =>
      cases current
      have matched := matches_of_pod previous
      refine amount_le_of_keepsCapacity (keeps old (List.mem_of_find?_eq_some previous) ?_) resource
      exact ⟨matched.1.trans same.1.symm, matched.2.trans same.2.symm⟩
    · rw [previous, Option.some.injEq] at current
      exact current ▸ le_rfl
  have stillKnown : ∀ nameSpace name, (core.pod nameSpace name).isSome = true →
      (({ core with pods := pod :: core.pods } : Core).pod nameSpace name).isSome = true := by
    intro nameSpace name present
    rw [pod_podWrite]
    split
    · rfl
    · exact present
  constructor
  · exact inv.handedOver
  · exact fun key object stored name found latest active =>
      stillKnown _ _ (inv.known key object stored name found latest active)
  · intro old mem new current resource
    rcases List.mem_cons.mp mem with rfl | before
    · rw [pod_podWrite, if_pos ⟨rfl, rfl⟩, Option.some.injEq] at current
      exact current ▸ le_rfl
    rcases exists_pod_of_mem before with ⟨newest, previous⟩
    exact (inv.newest old before newest previous resource).trans
      (raised _ _ new current newest previous resource)
  · intro nameSpace name new current resource
    cases previous : core.pod nameSpace name with
    | some old =>
      exact (inv.safe nameSpace name old previous resource).trans
        (raised nameSpace name new current old previous resource)
    | none =>
      have named := name_ne_empty_of_pod current
      have nothing : assignedDemand core nameSpace name resource = 0 := by
        refine Table.total_eq_zero fun key object found => ?_
        rcases heldAmount_pos_cases (base.settled found) named with
          zero | ⟨run, latest, sameSpace, active, _⟩
        · exact zero
        have present := inv.known key object run name found latest active
        rw [sameSpace, previous] at present
        contradiction
      change assignedDemand core nameSpace name resource ≤ _
      rw [nothing]
      exact (advertised_allPositive reconciler new).amount_nonneg resource
  · exact inv.inactive
  · intro run target binding new current resource requested
    have held := base.stage binding
    rcases exists_pod_of_mem held.2.2.1 with ⟨old, previous⟩
    exact (inv.room run target binding old previous resource requested).trans
      (raised _ _ new current old previous resource)

/-- Synchronising with one namespace keeps every reservation that a hand-over
needs, if the other namespaces need none. -/
theorem lookup_syncLocked_of_handingOver (base : Base core)
    (others : ∀ key object, core.runs.lookup key = some object →
      key.nameSpace ≠ nameSpace → isHandingOver object = false) {reservation : AssumedReservation}
    (found : core.runs.lookup key = some object) (active : isStoredActive object = true)
    (shown : showsPending object.view.cached = true)
    (reserved : core.assumptions.lookup key = some reservation) :
    (syncLocked core.assumptions (core.listRuns nameSpace)).lookup key = some reservation := by
  by_cases same : key.nameSpace = nameSpace
  · subst same
    exact lookup_syncLocked_of_waiting base reserved found shown
  · have free := others key object found same
    simp [isHandingOver, active, shown] at free

section Reserving

variable (base : Base core) (inv : CapacityInv reconciler core)

include base inv

/-- A reservation is made only where the Pod has room beside everything stored. -/
theorem CapacityInv.reserve {run : Run} {request : ResourceList} {pod : Pod}
    (stage : core.worker = .planning run request) (listed : pod ∈ core.pods)
    (fit : fits (advertised reconciler pod) (fun resource =>
      mergeUsage (assignedRunUsage (core.listRuns run.nameSpace))
          (usageLocked (syncLocked core.assumptions (core.listRuns run.nameSpace))) pod.name
          resource +
        hiddenDemand core run.nameSpace pod.name resource) request = true)
    (others : ∀ key object, core.runs.lookup key = some object →
      key.nameSpace ≠ run.nameSpace → isHandingOver object = false)
    (inactive : ∀ object, core.runs.lookup (reservationKeyFor run) = some object →
      isStoredActive object = false) :
    CapacityInv reconciler { core with
        assumptions := assumeLocked
          (syncLocked core.assumptions (core.listRuns run.nameSpace)) run pod.name request
        worker := .binding run pod } := by
  have held := base.stage stage
  have synced : CapacityInv reconciler { core with
        assumptions := assumeLocked
          (syncLocked core.assumptions (core.listRuns run.nameSpace)) run pod.name request
        worker := .idle } := by
    refine inv.withAssumptions ?_ (by simp)
    intro key object reservation found active shown reserved
    have different : key ≠ reservationKeyFor run := by
      rintro rfl
      rw [inactive object found] at active
      contradiction
    rw [lookup_assumeLocked_of_ne different]
    exact lookup_syncLocked_of_handingOver base others found active shown reserved
  refine ⟨synced.handedOver, synced.known, synced.newest, synced.safe, ?_, ?_⟩
  · intro other target binding object found
    cases binding
    exact inactive object found
  · intro other target binding newest current resource requested
    cases binding
    have sameAmount : requestAmount run resource = amount request resource := by
      simp [requestAmount, held.2.2]
    have demand := @assignedDemand_le_usage run.nameSpace _ _ _ base inv pod.name_ne_empty resource
    have enough := usage_add_amount_le_of_fits fit (sameAmount ▸ requested)
    have grown := inv.newest pod listed newest current resource
    change assignedDemand core run.nameSpace pod.name resource + _ ≤ _
    rw [sameAmount]
    omega

/-- A stored binding takes the room that its reservation has kept. -/
theorem CapacityInv.bind {now : Time} {run stored : Run} {pod : Pod}
    (worker : core.worker = .binding run pod)
    (found : core.runs.lookup (reservationKeyFor run) = some object)
    (persisted : object.view.persisted = some stored)
    (same : stored.resourceVersion = run.resourceVersion) :
    CapacityInv reconciler { core with
        runs := core.runs.insert (reservationKeyFor run)
          (object.write (some (storeStatus stored (bindStatus run pod now).status)))
        worker := .idle } := by
  have held := base.stage worker
  rcases held with ⟨⟨_, heldFound, copy, waits⟩, _, listed, sameSpace, _, _, reserved⟩
  cases found.symm.trans heldFound
  have wellFormed := base.objects _ object found
  have storedMem : some stored ∈ object.view.versions := Watched.mem_versions_of_persisted persisted
  have storedSpace : stored.nameSpace = run.nameSpace :=
    congrArg ReservationKey.nameSpace (wellFormed.sameKey stored storedMem)
  let bound := storeStatus stored (bindStatus run pod now).status
  have boundPod : ∀ name, bound.isActiveOn name = true → name = pod.name := fun name active =>
    ((Run.isActiveOn_iff bound name).mp active).2.1.symm
  have sameAmount : ∀ resource, requestAmount bound resource = requestAmount run resource :=
    fun resource => requestAmount_eq_of_fixedSpec
      (((wellFormed.sameSpec stored storedMem).trans copy.spec.symm :
        stored.fixedSpec = run.fixedSpec)) resource
  have demand : ∀ nameSpace name resource, assignedDemand { core with
        runs := core.runs.insert (reservationKeyFor run) (object.write (some bound))
        worker := .idle } nameSpace name resource ≤
        assignedDemand core nameSpace name resource +
          heldAmount nameSpace name resource (object.write (some bound)) := by
    intro nameSpace name resource
    have before := heldAmount_nonneg nameSpace name resource object
    simp only [assignedDemand, Table.total_insert, found, Option.elim_some]
    omega
  have handed : HandedOver core (reservationKeyFor run) (object.write (some bound)) pod.name := by
    refine ⟨object.view.versions, [some bound], rfl, ?_, ?_, fun _ => ?_⟩
    · intro version mem
      cases version with
      | none =>
        rw [copy.seen mem] at persisted
        contradiction
      | some other =>
        have notLater := wellFormed.resourceVersion_le persisted mem
        simpa [showsPending] using waits other mem (same ▸ notLater)
    · intro version mem
      exact ⟨bound, List.mem_singleton.mp mem, (Run.isActiveOn_iff bound pod.name).mpr
        ⟨rfl, rfl, pod.name_ne_empty⟩⟩
    · exact ⟨_, reserved, rfl⟩
  apply inv.insert
  · intro current name shown active
    obtain rfl := eq_of_persisted_write shown
    rw [boundPod name active, show bound.nameSpace = pod.nameSpace from
      storedSpace.trans sameSpace.symm]
    exact ⟨handed, Option.isSome_iff_exists.mpr (exists_pod_of_mem listed)⟩
  · intro nameSpace name newest current resource
    have old := inv.safe nameSpace name newest current resource
    have sum := demand nameSpace name resource
    by_cases holds : heldAmount nameSpace name resource (object.write (some bound)) = 0
    · rw [holds, add_zero] at sum
      exact sum.trans old
    have settled : ∀ other, (object.write (some bound)).view.persisted = some other →
        Settled other :=
      fun other shown => eq_of_persisted_write shown ▸ .inr (.inl ⟨rfl, pod.name_ne_empty⟩)
    rcases heldAmount_pos_cases settled (name_ne_empty_of_pod current) with
      zero | ⟨_, shown, otherSpace, active, amountEq⟩
    · exact absurd zero holds
    obtain rfl := eq_of_persisted_write shown
    obtain rfl := boundPod name active
    obtain rfl : nameSpace = run.nameSpace := otherSpace.symm.trans storedSpace
    have positive : 0 < requestAmount run resource := by
      have nonneg := heldAmount_nonneg run.nameSpace pod.name resource (object.write (some bound))
      rw [← sameAmount resource, ← amountEq]
      omega
    have room := inv.room run pod worker newest (sameSpace ▸ current) resource positive
    rw [← sameAmount resource, ← amountEq] at room
    exact sum.trans room
  · exact fun other target binding => by simp at binding

/-- Reading a copy removes no reservation that a hand-over needs. -/
theorem CapacityInv.fetch {run : Run} (found : core.runs.lookup key = some object)
    (cached : object.view.cached = some run) :
    CapacityInv reconciler
      { core with assumptions := observe core.assumptions run, worker := .observed run } := by
  have sameKey := (base.objects key object found).sameKey run
    (Watched.mem_versions_of_cached cached)
  refine inv.withAssumptions ?_ (by simp)
  intro other stored reservation lookup _ shown reserved
  by_cases own : other = key
  · subst own
    cases found.symm.trans lookup
    have waiting : run.isUnassignedPending = true := by
      simpa [showsPending, cached] using shown
    simpa [observe, waiting] using reserved
  · rw [lookup_observe_of_ne (sameKey ▸ own)]
    exact reserved

end Reserving

theorem CapacityInv.refuse (inv : CapacityInv reconciler core) {run : Run} {pod : Pod}
    (worker : core.worker = .binding run pod) :
    CapacityInv reconciler
      { core with assumptions := release core.assumptions run, worker := .idle } := by
  refine inv.withAssumptions ?_ (by simp)
  intro key object reservation found active _ reserved
  have different : key ≠ reservationKeyFor run := by
    rintro rfl
    rw [inv.inactive run pod worker object found] at active
    contradiction
  rw [lookup_release_of_ne different]
  exact reserved

end Changes

/-! ## Guarded runs -/

theorem capacityInv_empty (reconciler : RunReconciler) :
    CapacityInv reconciler Core.empty := by
  constructor
  · exact fun key object stored pod found => by simp [Core.empty] at found
  · exact fun key object stored pod found => by simp [Core.empty] at found
  · exact fun old mem => by simp [Core.empty] at mem
  · exact fun nameSpace name pod current => by simp [Core.pod, Core.empty] at current
  · exact fun run pod binding => by simp [Core.empty] at binding
  · exact fun run pod binding => by simp [Core.empty] at binding

/-- A guarded step preserves the invariant. -/
theorem CapacityInv.of_step {action : Action} {cluster next : Cluster} (base : Base cluster.core)
    (inv : CapacityInv reconciler cluster.core)
    (guarded : CapacityGuard reconciler action cluster)
    (stepped : step reconciler action cluster = some next) :
    CapacityInv reconciler next.core := by
  rcases step_eq_some_iff.mp stepped with ⟨_, _, performed, _⟩
  have change := change_of_perform base performed
  generalize result : next.core = target at change performed ⊢
  cases change with
  | create run fresh waiting => exact inv.create fresh waiting
  | write _ key object stored new worker _ _ found latest advances stage =>
    refine inv.write base found latest advances ?_
    rcases stage with same | ⟨rfl, _⟩
    · exact .inl same
    · exact .inr (by simp)
  | remove key object stored found => exact inv.delete found
  | deliver key object view found delivered => exact inv.deliver found delivered
  | podWrite pod keeps => exact inv.podWrite base keeps
  | wake | absent => exact inv
  | fetch key object run _ found cached => exact inv.fetch base found cached
  | backfill fault run new object _ found latest advances =>
    exact inv.write base found latest advances (.inr (by simp))
  | proceed | schedule | ignore | giveUp => exact inv.withWorker (by simp)
  | plan pods workspace now run request worker _ stage planned =>
    obtain ⟨others, _⟩ := guarded _ (takenSnapshot_of_planning stage)
    refine inv.withAssumptions ?_ ?_
    · intro key object reservation found active shown reserved
      exact lookup_syncLocked_of_handingOver base (fun other stored lookup =>
        others ⟨other, stored⟩ (Table.mem_entries_iff.mpr lookup)) found active shown reserved
    · rcases planned with ⟨rfl, _⟩ | ⟨_, _, rfl, _⟩ <;> simp
  | reserve pods workspace now run request pod stage listed _ _ chosen =>
    obtain ⟨others, available⟩ := guarded _ (takenSnapshot_of_planning stage)
    obtain ⟨fit, inactive⟩ := available pod chosen
    exact inv.reserve base stage listed fit
      (fun key object found => others ⟨key, object⟩ (Table.mem_entries_iff.mpr found)) inactive
  | bind now fault run stored pod object worker found latest same =>
    exact inv.bind base worker found latest same
  | refuse now fault run pod worker => exact inv.refuse worker

/-- If every planning step meets `CapacityGuard`, no Pod is ever overcommitted. -/
theorem capacitySafe_of_guarded_run {reconciler : RunReconciler} {actions : List Action}
    {cluster : Cluster}
    (ran : run (restrict (CapacityGuard reconciler) (step reconciler)) actions Cluster.empty =
      some cluster) :
    CapacitySafe reconciler cluster.core := by
  have both := invariant_of_guarded_run (CapacityGuard reconciler) (step reconciler)
    (fun cluster => Base cluster.core ∧ CapacityInv reconciler cluster.core)
    (fun guarded held stepped =>
      ⟨base_of_step held.1 stepped, held.2.of_step held.1 guarded stepped⟩)
    ⟨base_empty, capacityInv_empty reconciler⟩ ran
  exact both.2.safe

/-- Bind one Run, and reconcile a second one while the first is Running. -/
def busyActions : List Action :=
  [.podWrite smallPod, .create (smallRun "first" ⟨true, none, none⟩),
    .deliver (smallKey "first")] ++ schedulingCycle (smallKey "first") 0 [smallPod] none ++
  [.lifecycle (smallKey "first") (smallRunAt "first" ⟨true, none, none⟩ 4 .running "runtime-0"),
    .create (smallRun "second" ⟨true, none, none⟩), .deliver (smallKey "second"),
    .fetch (smallKey "second"), .backfill false, .assess 0 false, .plan [smallPod] none 0]

theorem capacitySafe_busyActions :
    ∃ cluster, run (restrict (CapacityGuard smallReconciler) (step smallReconciler))
        busyActions Cluster.empty = some cluster ∧
      0 < assignedDemand cluster.core "default" "runtime-0" runtimeResourceRuns ∧
      CapacitySafe smallReconciler cluster.core := by
  apply exists_reached_and
  · decide +kernel
  · exact fun _ reached _ => capacitySafe_of_guarded_run reached

/-- Bind a session, let it become Finalizing, and bind a second Run to its Pod. -/
def finalizingActions : List Action :=
  let session : RunMode := ⟨false, none, some ⟨none⟩⟩
  [.podWrite smallPod, .create (smallRun "first" session), .deliver (smallKey "first")] ++
  schedulingCycle (smallKey "first") 0 [smallPod] none ++
  [.lifecycle (smallKey "first") (smallRunAt "first" session 4 .running "runtime-0"),
    .lifecycle (smallKey "first") (smallRunAt "first" session 5 .ready "runtime-0"),
    .lifecycle (smallKey "first") (smallRunAt "first" session 6 .finalizing "runtime-0"),
    .deliver (smallKey "first"), .deliver (smallKey "first"), .deliver (smallKey "first"),
    .deliver (smallKey "first"), .deliver (smallKey "first"),
    .create (smallRun "second" ⟨true, none, none⟩), .deliver (smallKey "second")] ++
  schedulingCycle (smallKey "second") 0 [smallPod] none

/-- Without the guard a Finalizing Run and a second one share a Pod for one. -/
theorem exists_not_capacitySafe :
    ∃ actions cluster, run (step smallReconciler) actions Cluster.empty = some cluster ∧
      ¬ CapacitySafe smallReconciler cluster.core := by
  refine ⟨finalizingActions, exists_reached (fun cluster =>
    cluster.core.pod "default" "runtime-0" = some smallPod ∧
    amount (advertised smallReconciler smallPod) runtimeResourceRuns <
      assignedDemand cluster.core "default" "runtime-0" runtimeResourceRuns)
    (by decide +kernel) ?_⟩
  rintro cluster _ ⟨current, more⟩ safe
  exact absurd (safe _ _ smallPod current runtimeResourceRuns) (not_le.mpr more)

end Kruntimes.Scheduler
