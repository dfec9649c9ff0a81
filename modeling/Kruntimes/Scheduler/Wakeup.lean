import Kruntimes.Scheduler.Changes

/-!
# No waiting Run is forgotten

A stored Run that waits for an assignment is always attended to: the informer has
not shown its newest version yet, or its key is in the workqueue, or the worker
holds it.  Every end of a cycle that leaves such a Run waiting puts its key back,
and every delivery of a Pending version enqueues it.
-/

namespace Kruntimes.Scheduler

open Api Data Transition

variable {key : ReservationKey} {worker : Worker} {action : Action} {core : Core}
  {queue : List ReservationKey} {run : Run}

/-- A Run that `Reconcile` does not ignore. -/
def Schedulable (run : Run) : Prop :=
  run.isUnassignedPending = true ∧ run.spec.runtime ≠ ""

/-- The worker holds the Run and will store it or put its key back. -/
def Worker.Attends (worker : Worker) (key : ReservationKey) : Prop :=
  ∃ run, worker.run = some run ∧ reservationKeyFor run = key ∧
    (Schedulable run ∨ ∃ again, worker = .reporting run again)

/-- Something will look at the newest version of the object. -/
def Attended (queue : List ReservationKey) (worker : Worker) (key : ReservationKey)
    (object : RunObject) : Prop :=
  object.view.undelivered ≠ [] ∨ key ∈ queue ∨ worker.Attends key

/-- Every stored Run that waits for an assignment is attended to. -/
def AllAttended (core : Core) (queue : List ReservationKey) : Prop :=
  ∀ key object stored, core.runs.lookup key = some object →
    object.view.persisted = some stored → Schedulable stored → Attended queue core.worker key object

theorem mem_nextQueue_of_mem {added : List ReservationKey} (queued : key ∈ queue)
    (kept : action.taken ≠ some key) :
    key ∈ nextQueue action queue added :=
  List.mem_union_iff.mpr (.inl (List.mem_filter.mpr ⟨queued, by simpa using kept⟩))

theorem mem_nextQueue_of_added {added : List ReservationKey} (new : key ∈ added) :
    key ∈ nextQueue action queue added :=
  List.mem_union_iff.mpr (.inr new)

theorem attended_write (object : RunObject) (version : Option Run) :
    Attended queue worker key (object.write version) :=
  .inl (by simp [RunObject.write, Watched.write])

/-- Attention stays unless the queue loses the key or the worker lets go of it. -/
theorem Attended.imp {later : List ReservationKey} {next : Worker} {object : RunObject}
    (attended : Attended queue worker key object) (queued : key ∈ queue → key ∈ later)
    (attends : worker.Attends key → next.Attends key ∨ key ∈ later) :
    Attended later next key object := by
  rcases attended with outstanding | waiting | held
  · exact .inl outstanding
  · exact .inr (.inl (queued waiting))
  · exact .inr (attends held).symm

/-- Only a Run that is not Pending or names no runtime is ignored. -/
theorem not_schedulable_of_ignore {platform : Platform} {now : Time}
    (ignored : admission platform run now = .ignore) : ¬ Schedulable run := by
  rintro ⟨waiting, named⟩
  have pending := ((Run.isUnassignedPending_iff run).mp waiting).1
  unfold admission at ignored
  rw [if_neg (by simp [pending]), if_neg named] at ignored
  split at ignored
  · contradiction
  split at ignored
  · contradiction
  · split at ignored <;> contradiction

section Frames

variable {core : Core} {queue : List ReservationKey} {action : Action}
  {added : List ReservationKey}

section Attendance

variable (all : AllAttended core queue)

include all

/-- A change that keeps the objects and the attention of the worker. -/
theorem AllAttended.of_worker {assumptions : AssumedReservationCache} {pods : List Pod}
    (taken : action.taken = none)
    (attends : ∀ key, core.worker.Attends key → worker.Attends key ∨ key ∈ added) :
    AllAttended { core with assumptions, pods, worker } (nextQueue action queue added) := by
  intro key object stored found latest schedulable
  refine (all key object stored found latest schedulable).imp ?_ fun attended => ?_
  · exact fun queued => mem_nextQueue_of_mem queued (by simp [taken])
  · exact (attends key attended).imp_right mem_nextQueue_of_added

/-- A change of one object, after which that object is attended to. -/
theorem AllAttended.of_object {next : RunObject} (taken : action.taken = none)
    (changed : ∀ stored, next.view.persisted = some stored → Schedulable stored →
      Attended (nextQueue action queue added) worker key next)
    (attends : ∀ other, other ≠ key → core.worker.Attends other → worker.Attends other) :
    AllAttended { core with runs := core.runs.insert key next, worker }
      (nextQueue action queue added) := by
  intro other object stored found latest schedulable
  rcases Table.lookup_insert_cases found with ⟨rfl, rfl⟩ | ⟨same, found⟩
  · exact changed stored latest schedulable
  refine (all other object stored found latest schedulable).imp ?_ fun attended => ?_
  · exact fun queued => mem_nextQueue_of_mem queued (by simp [taken])
  · exact .inl (attends other same attended)

/-- A write by the worker, which holds no other Run. -/
theorem AllAttended.of_own_write (object : RunObject) (version : Option Run)
    (taken : action.taken = none)
    (own : ∀ run, core.worker.run = some run → reservationKeyFor run = key) :
    AllAttended { core with runs := core.runs.insert key (object.write version), worker }
      (nextQueue action queue added) := by
  refine all.of_object taken (fun _ _ _ => attended_write object version) ?_
  rintro _ different ⟨run, held, rfl, _⟩
  exact absurd (own run held) different

/-- Taking a key from the workqueue while the worker is idle. -/
theorem AllAttended.of_fetch (idle : core.worker = .idle) {assumptions : AssumedReservationCache}
    (own : ∀ object stored, core.runs.lookup key = some object →
      object.view.persisted = some stored → Schedulable stored →
        object.view.undelivered ≠ [] ∨ worker.Attends key) :
    AllAttended { core with assumptions, worker } (nextQueue (.fetch key) queue added) := by
  intro other object stored found latest schedulable
  by_cases same : other = key
  · subst same
    exact (own object stored found latest schedulable).imp_right .inr
  · refine (all other object stored found latest schedulable).imp ?_ ?_
    · exact fun queued => mem_nextQueue_of_mem queued (by simpa [Action.taken] using Ne.symm same)
    · rintro ⟨_, held, _⟩
      simp [idle, Worker.run] at held

end Attendance

end Frames

/-- A worker that goes on with the same Run keeps attending to it. -/
theorem Worker.Attends.of_run {next : Worker} (attends : worker.Attends key)
    (before : worker.run = some run) (notReporting : ∀ run again, worker ≠ .reporting run again)
    (after : next.run = some run) : next.Attends key := by
  rcases attends with ⟨held, heldRun, sameKey, schedulable | ⟨again, reporting⟩⟩
  · cases before.symm.trans heldRun
    exact ⟨run, after, sameKey, .inl schedulable⟩
  · exact absurd reporting (notReporting held again)

/-- An informer event for a Pending Run enqueues it. -/
theorem mem_enqueuedBy {old : Option Run} (waiting : run.isUnassignedPending = true) :
    key ∈ core.enqueuedBy key old (some run) := by
  have pending := ((Run.isUnassignedPending_iff run).mp waiting).1
  simp [Core.enqueuedBy, pendingRunPredicate, pending]

/-- Every action keeps all waiting Runs attended to. -/
theorem AllAttended.of_change {reconciler : RunReconciler} {next : Core}
    {added : List ReservationKey} (base : Base core) (all : AllAttended core queue)
    (change : Change reconciler core action next added) :
    AllAttended next (nextQueue action queue added) := by
  cases change with
  | create =>
    exact all.of_object rfl (fun _ _ _ => .inl (by simp)) fun _ _ attends => attends
  | write _ key object stored new worker _ plain found latest advances stage =>
    have taken := Action.taken_eq_none plain
    rcases stage with rfl | ⟨rfl, _, own⟩
    · exact all.of_object taken (fun _ _ _ => attended_write object _) fun _ _ attends => attends
    · exact all.of_own_write object _ taken own
  | remove key object =>
    exact all.of_object rfl (fun _ _ _ => attended_write object _) fun _ _ attends => attends
  | deliver key object view =>
    refine all.of_object rfl ?_ fun _ _ attends => attends
    intro stored latest schedulable
    by_cases upToDate : view.undelivered = []
    · have shown : view.cached = some stored :=
        (Watched.UpToDate.persisted_eq upToDate).symm.trans latest
      refine .inr (.inl (mem_nextQueue_of_added ?_))
      rw [shown]
      exact mem_enqueuedBy schedulable.1
    · exact .inl upToDate
  | podWrite => exact all.of_worker rfl fun _ attends => .inl attends
  | wake _ _ plain =>
    exact all.of_worker (Action.taken_eq_none plain) fun _ attends => .inl attends
  | absent key idle missing =>
    refine all.of_fetch idle ?_
    intro object stored found latest _
    refine .inl fun upToDate => ?_
    have shown := (Watched.UpToDate.persisted_eq upToDate).symm.trans latest
    simp [Core.cachedRun, found, shown] at missing
  | fetch key object run idle found cached =>
    refine all.of_fetch idle ?_
    intro other stored lookup latest schedulable
    cases found.symm.trans lookup
    by_cases upToDate : object.view.undelivered = []
    · have shown := (Watched.UpToDate.persisted_eq upToDate).symm.trans latest
      cases cached.symm.trans shown
      have sameKey := (base.objects key object found).sameKey run
        (Watched.mem_versions_of_cached cached)
      exact .inr ⟨run, rfl, sameKey, .inl schedulable⟩
    · exact .inl upToDate
  | backfill fault run new object worker | bind now fault run stored pod object worker =>
    exact all.of_own_write object _ rfl (by simp [worker, Worker.run])
  | proceed fault run worker =>
    refine all.of_worker rfl fun key attends => .inl ?_
    exact attends.of_run (by simp [worker, Worker.run]) (by simp [worker]) rfl
  | ignore now fault run worker ignored =>
    refine all.of_worker rfl ?_
    rintro _ ⟨_, heldRun, _, schedulable | ⟨_, reporting⟩⟩
    · simp only [worker, Worker.run, Option.some.injEq] at heldRun
      subst heldRun
      exact absurd schedulable (not_schedulable_of_ignore ignored)
    · simp [worker] at reporting
  | schedule now fault run request worker | reserve pods workspace now run request pod worker =>
    refine all.of_worker rfl fun key attends => .inl ?_
    exact attends.of_run (by simp [worker, Worker.run]) (by simp [worker]) rfl
  | giveUp _ run plain held =>
    refine all.of_worker (Action.taken_eq_none plain) ?_
    rintro _ ⟨_, otherHeld, rfl, _⟩
    rw [held, Option.some.injEq] at otherHeld
    exact .inr (by simp [otherHeld])
  | plan pods workspace now run request worker _ stage result =>
    refine all.of_worker rfl ?_
    rintro _ ⟨_, heldRun, rfl, _⟩
    simp only [stage, Worker.run, Option.some.injEq] at heldRun
    subst heldRun
    rcases result with ⟨rfl, rfl⟩ | ⟨_, again, rfl, _⟩
    · exact .inr (.head _)
    · exact .inl ⟨_, rfl, rfl, .inr ⟨again, rfl⟩⟩
  | refuse now fault run pod worker =>
    refine all.of_worker rfl ?_
    rintro _ ⟨_, heldRun, rfl, _⟩
    simp only [worker, Worker.run, Option.some.injEq] at heldRun
    exact .inr (by simp [heldRun])

theorem allAttended_empty : AllAttended Core.empty [] := by
  intro key object stored found
  simp [Core.empty] at found

theorem AllAttended.of_step {reconciler : RunReconciler} {cluster next : Cluster}
    (base : Base cluster.core) (all : AllAttended cluster.core cluster.queue)
    (stepped : step reconciler action cluster = some next) :
    AllAttended next.core next.queue := by
  rcases step_eq_some_iff.mp stepped with ⟨_, _, performed, queue, _⟩
  rw [queue]
  exact all.of_change base (change_of_perform base performed)

/-- With an up-to-date informer and an idle worker every waiting Run is queued. -/
theorem AllAttended.mem_queue (all : AllAttended core queue) (idle : core.worker = .idle)
    {object : RunObject} {stored : Run} (found : core.runs.lookup key = some object)
    (upToDate : object.view.UpToDate) (latest : object.view.persisted = some stored)
    (schedulable : Schedulable stored) :
    key ∈ queue := by
  rcases all key object stored found latest schedulable with
    outstanding | queued | ⟨_, held, _⟩
  · exact absurd upToDate outstanding
  · exact queued
  · simp [idle, Worker.run] at held

end Kruntimes.Scheduler
