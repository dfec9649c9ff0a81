import Kruntimes.Scheduler.Changes

/-!
# The hand-off from reservations to observed assignments

A reservation is to stand in for an assignment only until the informer shows it.
It is removed by the first snapshot or `observe` that sees the Run assigned or not
Pending; if no cycle looks at the Run in that time and the Run returns to Pending,
the reservation of the previous attempt is counted again.  Runs of the cluster in
which the informer never shows a Run waiting again while its reservation is still
cached account exactly.
-/

namespace Kruntimes.Scheduler

open Api Data Transition

variable {key : ReservationKey} {worker : Worker}

/-- What the stored Runs in phase Scheduled, Running or Ready use on each Pod. -/
def servedUsage (core : Core) (nameSpace : String) : Usage := fun pod resource =>
  core.runs.total fun _ object => object.view.persisted.elim 0 fun run =>
    if run.nameSpace = nameSpace then usageOn run pod resource else 0

/-! ## The side condition -/

/-- The Run object and its next view, if the action is an informer event. -/
def delivery (action : Action) (core : Core) :
    Option (ReservationKey × RunObject × Watched (Option Run)) :=
  match action with
  | .deliver key =>
    (core.runs.lookup key).bind fun object =>
      object.view.deliver.map fun view => (key, object, view)
  | _ => none

/-- The condition on an informer event: it does not show a Run waiting again, after
it was shown assigned or not Pending, while a reservation of the Run is cached. -/
def HandoffGuard (action : Action) (cluster : Cluster) : Prop :=
  ∀ event ∈ delivery action cluster.core,
    showsPending event.2.1.view.cached = false → showsPending event.2.2.cached = true →
      (cluster.core.assumptions.lookup event.1).isNone = true

instance (action : Action) (cluster : Cluster) : Decidable (HandoffGuard action cluster) :=
  inferInstanceAs (Decidable (∀ event ∈ delivery action cluster.core, _))

/-! ## The invariant -/

/-- While the informer shows a Run waiting, a reservation of it belongs to a bind in
flight or announces an outstanding version that does not wait. -/
def HandoffInv (core : Core) : Prop :=
  ∀ key object reservation, core.runs.lookup key = some object →
    core.assumptions.lookup key = some reservation →
    showsPending object.view.cached = true →
      (∃ run pod, core.worker = .binding run pod ∧ reservationKeyFor run = key) ∨
        ∃ version ∈ object.view.undelivered, showsPending version = false

section Frames

variable {core : Core}

/-- A change that only removes reservations, those of a finished bind included. -/
theorem HandoffInv.of_reservations (inv : HandoffInv core) {assumptions : AssumedReservationCache}
    {pods : List Pod} (kept : ∀ key reservation, assumptions.lookup key = some reservation →
      core.assumptions.lookup key = some reservation)
    (bound : ∀ run pod, core.worker = .binding run pod →
      worker = core.worker ∨ assumptions.lookup (reservationKeyFor run) = none) :
    HandoffInv { core with assumptions, pods, worker } := by
  intro key object reservation found reserved shown
  rcases inv key object reservation found (kept key reservation reserved) shown with
    ⟨run, pod, binding, rfl⟩ | outstanding
  · rcases bound run pod binding with same | released
    · exact .inl ⟨run, pod, same.trans binding, rfl⟩
    · rw [show assumptions.lookup _ = some reservation from reserved] at released
      contradiction
  · exact .inr outstanding

/-- A change of one object, after which that object satisfies the condition. -/
theorem HandoffInv.of_object (inv : HandoffInv core) {next : RunObject}
    (changed : ∀ reservation, core.assumptions.lookup key = some reservation →
      showsPending next.view.cached = true →
        (∃ run pod, worker = .binding run pod ∧ reservationKeyFor run = key) ∨
          ∃ version ∈ next.view.undelivered, showsPending version = false)
    (bound : ∀ run pod, core.worker = .binding run pod →
      worker = core.worker ∨ reservationKeyFor run = key) :
    HandoffInv { core with runs := core.runs.insert key next, worker } := by
  intro other object reservation found reserved shown
  rcases Table.lookup_insert_cases found with ⟨rfl, rfl⟩ | ⟨same, found⟩
  · exact changed reservation reserved shown
  rcases inv other object reservation found reserved shown with
    ⟨run, pod, binding, rfl⟩ | outstanding
  · rcases bound run pod binding with sameWorker | own
    · exact .inl ⟨run, pod, sameWorker.trans binding, rfl⟩
    · exact absurd own same
  · exact .inr outstanding

/-- A new version leaves the outstanding ones outstanding. -/
theorem HandoffInv.write (inv : HandoffInv core) {object : RunObject}
    (found : core.runs.lookup key = some object) (version : Option Run)
    (stage : worker = core.worker ∨ ∀ run pod, core.worker ≠ .binding run pod) :
    HandoffInv { core with runs := core.runs.insert key (object.write version), worker } := by
  refine inv.of_object ?_ ?_
  · intro reservation reserved shown
    rcases inv key object reservation found reserved shown with
      ⟨run, pod, binding, sameKey⟩ | ⟨outstanding, mem, notWaiting⟩
    · rcases stage with same | other
      · exact .inl ⟨run, pod, same.trans binding, sameKey⟩
      · exact absurd binding (other run pod)
    · exact .inr ⟨outstanding, List.mem_append_left _ mem, notWaiting⟩
  · intro run pod binding
    rcases stage with same | other
    · exact .inl same
    · exact absurd binding (other run pod)

/-- The delivered version is not the one a reservation announces. -/
theorem HandoffInv.deliver (inv : HandoffInv core) {object : RunObject}
    (found : core.runs.lookup key = some object) {view : Watched (Option Run)}
    (delivered : object.view.deliver = some view)
    (allowed : showsPending object.view.cached = false → showsPending view.cached = true →
      (core.assumptions.lookup key).isNone = true) :
    HandoffInv { core with runs := core.runs.insert key { object with view } } := by
  refine inv.of_object ?_ (fun _ _ _ => .inl rfl)
  intro reservation reserved shown
  have outstanding := (Watched.deliver_eq_some_iff _ _).mp delivered
  cases before : showsPending object.view.cached with
  | false =>
    have unreserved := allowed before shown
    rw [reserved] at unreserved
    contradiction
  | true =>
    rcases inv key object reservation found reserved before with
      binding | ⟨version, mem, notWaiting⟩
    · exact .inl binding
    refine .inr ⟨version, ?_, notWaiting⟩
    rw [outstanding] at mem
    rcases List.mem_cons.mp mem with rfl | later
    · rw [show showsPending view.cached = true from shown] at notWaiting
      contradiction
    · exact later

end Frames

/-- A guarded action preserves the invariant. -/
theorem HandoffInv.of_change {reconciler : RunReconciler} {core next : Core}
    {action : Action} {added : List ReservationKey} (base : Base core)
    (inv : HandoffInv core)
    (allowed : ∀ event ∈ delivery action core,
      showsPending event.2.1.view.cached = false → showsPending event.2.2.cached = true →
        (core.assumptions.lookup event.1).isNone = true)
    (change : Change reconciler core action next added) : HandoffInv next := by
  cases change with
  | create run fresh =>
    refine inv.of_object ?_ (fun _ _ _ => .inl rfl)
    intro reservation reserved
    rcases base.reservations _ reservation reserved with ⟨_, found, _⟩
    rw [fresh] at found
    contradiction
  | write _ key object stored new worker _ _ found _ _ stage =>
    refine inv.write found (some new) ?_
    rcases stage with same | ⟨_, busy, _⟩
    · exact .inl same
    · exact .inr busy
  | remove key object stored found => exact inv.write found none (.inl rfl)
  | deliver key object view found delivered =>
    exact inv.deliver found delivered
      (allowed (key, object, view) (by simp [delivery, found, delivered]))
  | podWrite => exact inv.of_reservations (fun _ _ kept => kept) fun _ _ _ => .inl rfl
  | wake | absent => exact inv
  | fetch key object run idle =>
    exact inv.of_reservations (fun _ _ => lookup_of_lookup_observe) (by simp [idle])
  | backfill fault run new object worker found =>
    exact inv.write found (some new) (.inr (by simp [worker]))
  | proceed fault run worker | ignore now fault run worker
  | schedule now fault run request worker =>
    exact inv.of_reservations (fun _ _ kept => kept) (by simp [worker])
  | giveUp _ run _ _ busy =>
    exact inv.of_reservations (fun _ _ kept => kept) fun run pod binding =>
      absurd binding (busy run pod)
  | plan pods workspace now run request worker _ stage =>
    exact inv.of_reservations
      (fun _ _ kept => (lookup_syncLocked_eq_some_iff.mp kept).1) (by simp [stage])
  | reserve pods workspace now run request pod stage =>
    intro key object reservation found reserved shown
    by_cases own : key = reservationKeyFor run
    · exact .inl ⟨run, pod, rfl, own.symm⟩
    rw [show (assumeLocked _ run pod.name request).lookup key = _ from
      lookup_assumeLocked_of_ne own] at reserved
    rcases inv key object reservation found (lookup_syncLocked_eq_some_iff.mp reserved).1 shown with
      ⟨_, _, binding, _⟩ | outstanding
    · simp [stage] at binding
    · exact .inr outstanding
  | bind now fault run stored pod object worker =>
    refine inv.of_object ?_ ?_
    · intro reservation _ _
      refine .inr ⟨_, List.mem_append_right _ (.head _), ?_⟩
      simp [showsPending, Run.isUnassignedPending, bindStatus, RunPhase.isPending]
    · intro held heldPod binding
      rw [worker, Worker.binding.injEq] at binding
      exact .inr (by rw [binding.1])
  | refuse now fault run pod worker =>
    refine inv.of_reservations (fun _ _ kept => (lookup_of_lookup_erase kept).2) ?_
    intro held heldPod binding
    rw [worker, Worker.binding.injEq] at binding
    refine .inr ?_
    rw [release, binding.1]
    exact AList.lookup_erase _ _

theorem handoffInv_empty : HandoffInv Core.empty := by
  intro key object reservation found
  simp [Core.empty] at found

theorem HandoffInv.of_step {reconciler : RunReconciler} {action : Action}
    {cluster next : Cluster} (base : Base cluster.core) (inv : HandoffInv cluster.core)
    (guarded : HandoffGuard action cluster)
    (stepped : step reconciler action cluster = some next) : HandoffInv next.core := by
  rcases step_eq_some_iff.mp stepped with ⟨_, _, performed, _⟩
  exact inv.of_change base guarded (change_of_perform base performed)

/-! ## Exact accounting -/

/-- The informer shows the stored version, or every outstanding version waits like
the one it shows. -/
def Quiet (object : RunObject) : Prop :=
  object.view.UpToDate ∨ ∀ version ∈ object.view.versions, showsPending version = true

/-- A Run that waits uses nothing. -/
theorem usageOn_of_isUnassignedPending {run : Run} (waiting : run.isUnassignedPending = true)
    (pod resource : String) : usageOn run pod resource = 0 := by
  have unassigned := ((Run.isUnassignedPending_iff run).mp waiting).2
  refine if_neg ?_
  rintro ⟨same, named, _⟩
  exact named (same.symm.trans unassigned)

theorem servedWeight_of_showsPending {version : Option Run}
    (waiting : showsPending version = true) (nameSpace pod resource : String) :
    (version.elim 0 fun run =>
      if run.nameSpace = nameSpace then usageOn run pod resource else 0) = 0 := by
  cases version with
  | none => rfl
  | some run =>
    have unassigned : run.isUnassignedPending = true := by
      simpa [showsPending] using waiting
    simp [usageOn_of_isUnassignedPending unassigned]

section Accounting

variable {core : Core} (base : Base core) (inv : HandoffInv core)
  (idle : ∀ run pod, core.worker ≠ .binding run pod)
  (quiet : ∀ key object, core.runs.lookup key = some object → Quiet object)

include base inv idle quiet

/-- In a quiet core no reservation survives the synchronisation. -/
theorem syncLocked_entries_eq_nil (nameSpace : String) :
    (syncLocked core.assumptions (core.listRuns nameSpace)).entries = [] := by
  refine Table.keep_entries_eq_nil fun key reservation reserved => ?_
  by_contra kept
  rw [Bool.not_eq_false] at kept
  have synced := Table.lookup_keep_of_test reserved kept
  rcases (lookup_syncLocked_eq_some_iff.mp synced).2 with ⟨run, listed, waiting, _⟩
  rcases byKey_eq_some listed with ⟨mem, sameKey⟩
  rcases (mem_listRuns_iff.mp mem).1 with ⟨stored, object, found, cached⟩
  have storedKey : stored = key :=
    ((base.objects stored object found).sameKey run
      (Watched.mem_versions_of_cached cached)).symm.trans sameKey
  subst storedKey
  have shown : showsPending object.view.cached = true := by
    simpa [showsPending, cached] using waiting
  rcases inv stored object reservation found reserved shown with
    ⟨held, pod, binding, _⟩ | ⟨version, outstanding, notWaiting⟩
  · exact idle held pod binding
  rcases quiet stored object found with upToDate | allWaiting
  · rw [show object.view.undelivered = [] from upToDate] at outstanding
    contradiction
  · rw [allWaiting version (.tail _ outstanding)] at notWaiting
    contradiction

/-- In a quiet core the effective usage is what the served Runs use. -/
theorem effectiveUsage_eq_servedUsage (nameSpace : String) :
    mergeUsage (assignedRunUsage (core.listRuns nameSpace))
      (usageLocked (syncLocked core.assumptions (core.listRuns nameSpace))) =
        servedUsage core nameSpace := by
  funext pod resource
  have none := syncLocked_entries_eq_nil base inv idle quiet nameSpace
  rw [mergeUsage, assignedRunUsage_apply, usageLocked_apply,
    Table.total_eq_zero_of_entries_eq_nil none, add_zero, sum_listRuns]
  refine Table.total_congr fun key object found => ?_
  rcases quiet key object found with upToDate | allWaiting
  · rw [upToDate.persisted_eq]
  · rw [servedWeight_of_showsPending (allWaiting _ object.view.cached_mem_versions),
      servedWeight_of_showsPending (allWaiting _ object.view.persisted_mem_versions)]

end Accounting

end Kruntimes.Scheduler
