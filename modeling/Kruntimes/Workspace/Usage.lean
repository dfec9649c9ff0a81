import Kruntimes.Api.RuntimePod
import Kruntimes.Transition.Run

/-!
# Use and release of a PersistentWorkspace

The controller records in the status of a PersistentWorkspace whether Runs use it and since
when it is unused, and releases it when its TTL has passed since then.  The recorded time
stays as it is while the workspace is used again.
-/

namespace Kruntimes.Workspace

open Api Transition

/-- A `PersistentWorkspace`, as far as its controller decides by it. -/
structure Object where
  cleanupPolicyRetain : Bool
  ttlSecondsAfterUnused : Option Nat
  deleting : Bool
  cleanupFinalizer : Bool
  phase : PersistentWorkspacePhase
  boundPod : String
  boundPodUID : String
  /-- The status of the condition `InUse`. -/
  inUse : Option ConditionStatus
  lastUsedTime : Option Time

/-- What the controller reads besides the workspace and the Runs: whether the Runtime exists,
the UID of the bound Pod and whether it is being deleted, the ready Pod that is selected. -/
structure Answers where
  runtimeFound : Bool
  pod : Option (String × Bool)
  selected : Option (String × String)

namespace Object

def reconcileBoundWorkspace (workspace : Object) : Option (String × Bool) → Object
  | none => { workspace with phase := .lost }
  | some (uid, deleting) =>
    if workspace.boundPodUID = "" ∨ uid ≠ workspace.boundPodUID ∨ deleting = true then
      { workspace with phase := .lost }
    else { workspace with phase := .bound }

/-- `reconcileWorkspaceUsage`.  The status keeps whole seconds of `LastUsedTime`. -/
def reconcileWorkspaceUsage (workspace : Object) (active : Bool) (now : Time) : Object :=
  if active then { workspace with inUse := some .conditionTrue }
  else if workspace.inUse = some .conditionFalse then workspace
  else { workspace with
    inUse := some .conditionFalse
    lastUsedTime := some (storedTime now) }

/-- The deadline of the TTL has been reached. -/
def expired (workspace : Object) (now : Time) : Bool :=
  match workspace.ttlSecondsAfterUnused, workspace.lastUsedTime with
  | some seconds, some used => used + seconds * second ≤ now
  | _, _ => false

/-- The TTL runs, so that the workspace will be released. -/
def timed (workspace : Object) : Bool :=
  !workspace.cleanupPolicyRetain && workspace.ttlSecondsAfterUnused.isSome &&
    workspace.lastUsedTime.isSome

/-- `reconcilePersistentWorkspaceCleanup`: what it writes. -/
def reconcilePersistentWorkspaceCleanup (workspace : Object) (now : Time) : List Object :=
  if workspace.cleanupFinalizer = false then [{ workspace with cleanupFinalizer := true }]
  else if workspace.cleanupPolicyRetain = false ∧ workspace.expired now = true then
    [{ workspace with phase := .released }]
  else []

def bindPendingWorkspace (workspace : Object) : Option (String × String) → Object
  | none => { workspace with phase := .pending }
  | some (name, uid) => { workspace with phase := .bound, boundPod := name, boundPodUID := uid }

/-- The bound workspace with the Pod and the use that were found. -/
def observe (workspace : Object) (answers : Answers) (active : Bool) (now : Time) : Object :=
  let checked := workspace.reconcileBoundWorkspace answers.pod
  if checked.phase = .bound then checked.reconcileWorkspaceUsage active now else checked

/-- `Reconcile` of a workspace that is not being deleted: the workspace after each write.  A
write that changes nothing is left out in the source. -/
def reconcile (workspace : Object) (answers : Answers) (active : Bool) (now : Time) :
    List Object :=
  let named := { workspace with
    phase := if workspace.phase = .unset then .pending else workspace.phase }
  if answers.runtimeFound = false ∨ named.phase = .lost then [named]
  else if named.phase = .released then [named, { named with deleting := true }]
  else if named.boundPod ≠ "" then
    let observed := named.observe answers active now
    observed :: observed.reconcilePersistentWorkspaceCleanup now
  else [named.bindPendingWorkspace answers.selected]

end Object

/-- A workspace, the phases of the Runs that refer to it, and the last moment at which one
of them that had ended was not terminal. -/
structure World where
  workspace : Object
  runs : List RunPhase
  clock : Time
  lastReferenced : Option Time

/-- `workspaceHasActiveRuns` on an up-to-date list. -/
def World.active (world : World) : Bool :=
  world.runs.any fun phase => !phase.isTerminal

inductive Action where
  | tick (elapsed : Nat)
  | createRun
  /-- The status of a Run that is not terminal is written. -/
  | writeRun (index : Nat) (phase : RunPhase)
  /-- A reconcile of which this many writes succeed. -/
  | reconcile (answers : Answers) (written : Nat)

def step : Step Action World
  | .tick elapsed, world => some { world with clock := world.clock + elapsed }
  | .createRun, world => some { world with runs := world.runs ++ [.unset] }
  | .writeRun index phase, world =>
    match world.runs[index]? with
    | some before =>
      if before.isTerminal then none
      else some { world with
        runs := world.runs.set index phase
        lastReferenced := some world.clock }
    | none => none
  | .reconcile answers written, world =>
    if world.workspace.deleting then none
    else
      let writes := world.workspace.reconcile answers world.active world.clock
      some { world with
        workspace := (writes.take written).getLast?.getD world.workspace }

/-- If the step starts the release, no Run uses the workspace and the TTL has passed since
the last use. -/
def ReleasesUnused (world next : World) : Prop :=
  world.workspace.phase ≠ .released → next.workspace.phase = .released →
    world.active = false ∧ ∀ seconds, world.workspace.ttlSecondsAfterUnused = some seconds →
      ∀ last, world.lastReferenced = some last → last + seconds * second ≤ world.clock

/-- No use begins while the TTL runs, and the end of a use is recorded in a later second than
the one in which the use ended. -/
def Recorded (action : Action) (world : World) : Prop :=
  match action with
  | .createRun => world.active = true ∨ world.workspace.timed = false
  | .reconcile answers _ => world.active = false →
    world.workspace.inUse ≠ some .conditionFalse →
      (world.workspace.reconcileBoundWorkspace answers.pod).phase = .bound →
        ∀ last ∈ world.lastReferenced, last ≤ storedTime world.clock
  | _ => True

instance (action : Action) (world : World) : Decidable (Recorded action world) := by
  unfold Recorded
  split <;> infer_instance

/-- The TTL runs only for an unused workspace, since a time that covers every use. -/
structure Covered (world : World) : Prop where
  unused : world.workspace.timed = true → world.active = false
  past : world.workspace.timed = true → ∀ used, world.workspace.lastUsedTime = some used →
    ∀ last, world.lastReferenced = some last → last ≤ used

section Reconcile

variable {world next : World} {answers : Answers} {written : Nat} {workspace after : Object}

theorem Object.timed_of_expired {now : Time} (policy : workspace.cleanupPolicyRetain = false)
    (expired : workspace.expired now = true) : workspace.timed = true := by
  unfold Object.expired at expired
  split at expired
  next seconds used ttl known => simp [Object.timed, policy, ttl, known]
  · cases expired

/-- The TTL has passed since every use that the recorded time covers. -/
theorem Object.last_le_of_expired {seconds : Nat} {last now : Time}
    (expired : workspace.expired now = true)
    (ttl : workspace.ttlSecondsAfterUnused = some seconds)
    (before : ∀ used, workspace.lastUsedTime = some used → last ≤ used) :
    last + seconds * second ≤ now := by
  unfold Object.expired at expired
  rw [ttl] at expired
  split at expired
  next used same known =>
    cases same
    exact (Int.add_le_add_right (before used known) _).trans (of_decide_eq_true expired)
  · cases expired

/-- What is recorded when the Pod and the use have been looked at covers every use. -/
theorem covered_observe (covered : Covered world)
    (recorded : Recorded (.reconcile answers written) world) :
    Covered { world with
      workspace := world.workspace.observe answers world.active world.clock } := by
  have cases : world.workspace.reconcileBoundWorkspace answers.pod =
      { world.workspace with phase := .bound } ∨
      world.workspace.reconcileBoundWorkspace answers.pod =
      { world.workspace with phase := .lost } := by
    unfold Object.reconcileBoundWorkspace
    grind
  unfold Object.observe
  rcases cases with bound | lost
  · rw [Recorded, bound] at recorded
    rw [bound, if_pos rfl]
    unfold Object.reconcileWorkspaceUsage
    split
    next active => exact ⟨covered.unused, covered.past⟩
    next unused =>
      rw [Bool.not_eq_true] at unused
      split
      next => exact ⟨covered.unused, covered.past⟩
      rename_i unknown
      refine ⟨fun _ => unused, fun _ used same last known => ?_⟩
      cases same
      exact recorded unused unknown rfl last known
  · rw [lost, if_neg nofun]
    exact ⟨covered.unused, covered.past⟩

theorem Object.observe_spec (workspace : Object) (answers : Answers) (active : Bool) (now : Time) :
    (workspace.observe answers active now).phase ≠ .released ∧
      (workspace.observe answers active now).ttlSecondsAfterUnused =
        workspace.ttlSecondsAfterUnused := by
  unfold Object.observe Object.reconcileWorkspaceUsage Object.reconcileBoundWorkspace
  grind

theorem covered_of_mem_reconcile (covered : Covered world)
    (recorded : Recorded (.reconcile answers written) world)
    (mem : after ∈ world.workspace.reconcile answers world.active world.clock) :
    Covered { world with workspace := after } ∧
      ReleasesUnused world { world with workspace := after } := by
  have old : (if world.workspace.phase = .unset then .pending else world.workspace.phase) =
      PersistentWorkspacePhase.released → world.workspace.phase = .released := by grind
  unfold Object.reconcile at mem
  generalize (if world.workspace.phase = .unset then .pending else world.workspace.phase) = phase
    at mem old
  dsimp only at mem
  split at mem
  · cases List.mem_singleton.mp mem
    exact ⟨⟨covered.unused, covered.past⟩, fun before released => absurd (old released) before⟩
  split at mem
  next released =>
    refine ⟨?_, fun before => absurd (old released) before⟩
    rcases List.mem_pair.mp mem with rfl | rfl <;> exact ⟨covered.unused, covered.past⟩
  · split at mem
    · have observed :=
        @covered_observe { world with workspace := { world.workspace with phase } } answers
          written ⟨covered.unused, covered.past⟩ recorded
      have spec := Object.observe_spec { world.workspace with phase } answers world.active
        world.clock
      rcases List.mem_cons.mp mem with rfl | cleaned
      · exact ⟨observed, fun _ released => absurd released spec.1⟩
      unfold Object.reconcilePersistentWorkspaceCleanup at cleaned
      split at cleaned
      · cases List.mem_singleton.mp cleaned
        exact ⟨⟨observed.unused, observed.past⟩, fun _ released => absurd released spec.1⟩
      split at cleaned
      next expired =>
        cases List.mem_singleton.mp cleaned
        have timed := Object.timed_of_expired expired.1 expired.2
        refine ⟨⟨observed.unused, observed.past⟩, fun _ _ =>
          ⟨observed.unused timed, fun seconds ttl last known => ?_⟩⟩
        exact Object.last_le_of_expired expired.2 (spec.2.trans ttl)
          fun used recorded => observed.past timed used recorded last known
      · cases cleaned
    · cases List.mem_singleton.mp mem
      unfold Object.bindPendingWorkspace
      split <;> exact ⟨⟨covered.unused, covered.past⟩, fun _ released => nomatch released⟩

theorem Covered.step {action : Action} (covered : Covered world)
    (recorded : Recorded action world) (stepped : step action world = some next) :
    Covered next ∧ ReleasesUnused world next := by
  cases action with
  | tick =>
    cases stepped
    exact ⟨⟨covered.unused, covered.past⟩, fun before released => absurd released before⟩
  | createRun =>
    cases stepped
    refine ⟨⟨fun timed => ?_, covered.past⟩, fun before released => absurd released before⟩
    rcases recorded with active | untimed
    · cases active.symm.trans (covered.unused timed)
    · cases untimed.symm.trans timed
  | writeRun index phase =>
    simp only [Workspace.step] at stepped
    split at stepped
    next before found =>
      simp only [Option.ite_none_left_eq_some, Option.some.injEq] at stepped
      obtain ⟨running, rfl⟩ := stepped
      -- the Run has not ended, so the TTL does not run
      have active : world.active = true :=
        List.any_eq_true.mpr ⟨before, List.mem_of_getElem? found, by simpa using running⟩
      have untimed : world.workspace.timed ≠ true := fun timed => by
        cases active.symm.trans (covered.unused timed)
      exact ⟨⟨fun timed => absurd timed untimed, fun timed => absurd timed untimed⟩,
        fun before released => absurd released before⟩
    · cases stepped
  | reconcile answers written =>
    simp only [Workspace.step, Option.ite_none_left_eq_some, Option.some.injEq] at stepped
    obtain ⟨_, rfl⟩ := stepped
    cases chosen : ((world.workspace.reconcile answers world.active
      world.clock).take written).getLast? with
    | none => exact ⟨covered, fun before released => absurd released before⟩
    | some =>
      exact covered_of_mem_reconcile covered recorded
        (List.mem_of_mem_take (List.mem_of_getLast? chosen))

end Reconcile

/-- A new workspace, to which no Run refers. -/
def World.initial (workspace : Object) (clock : Time) : World :=
  { workspace, runs := [], clock, lastReferenced := none }

/-- If no use begins while the TTL runs, the controller releases no workspace that is used or
that was used less than its TTL ago. -/
theorem releasesUnused_of_guarded_run {workspace : Object} {clock : Time} {actions : List Action}
    {world next : World} {action : Action}
    (ran : run (restrict Recorded step) actions (World.initial workspace clock) = some world)
    (stepped : restrict Recorded step action world = some next) : ReleasesUnused world next := by
  obtain ⟨recorded, stepped⟩ := (restrict_eq_some_iff _ _ _ _ _).mp stepped
  have initial : Covered (World.initial workspace clock) :=
    ⟨fun _ => rfl, fun _ _ _ _ known => by cases known⟩
  have covered := invariant_of_guarded_run _ _ Covered
    (fun recorded covered stepped => (covered.step recorded stepped).1) initial ran
  exact (covered.step recorded stepped).2

/-- A bound workspace with a TTL of ten seconds, and what its controller finds. -/
def bound : Object :=
  { cleanupPolicyRetain := false, ttlSecondsAfterUnused := some 10, deleting := false,
    cleanupFinalizer := true, phase := .bound, boundPod := "pod", boundPodUID := "uid",
    inUse := none, lastUsedTime := none }

def found : Action :=
  .reconcile { runtimeFound := true, pod := some ("uid", false), selected := none } 2

/-- A Run uses the workspace for `used` seconds. -/
def usedFor (used : Nat) : List Action :=
  [.createRun, found, .tick (used * 1000000000)]

/-- The Run ends, and ten seconds pass from the next reconcile on. -/
def leftAlone : List Action :=
  usedFor 5 ++ [.writeRun 0 .succeeded, .tick 1000000000, found, .tick 10000000000]

theorem releasesUnused_leftAlone :
    ∃ world next, run step leftAlone (World.initial bound 0) = some world ∧
      next.workspace.phase = .released ∧ ReleasesUnused world next := by
  have evaluated : ((run (restrict Recorded step) leftAlone (World.initial bound 0)).any
      fun world => (restrict Recorded step found world).any fun next =>
        next.workspace.phase == .released) = true := by decide +kernel
  obtain ⟨world, ran, steps⟩ := (Option.any_eq_true _ _).mp evaluated
  obtain ⟨next, stepped, released⟩ := (Option.any_eq_true _ _).mp steps
  exact ⟨world, next, run_of_run_restrict _ _ ran, beq_iff_eq.mp released,
    releasesUnused_of_guarded_run ran stepped⟩

/-- A workspace is released while a Run uses it, ten seconds after it was first unused. -/
theorem exists_released_in_use :
    ∃ world next, run step (found :: usedFor 10) (World.initial bound 0) = some world ∧
      step found world = some next ∧ ¬ReleasesUnused world next := by
  have evaluated : ((run step (found :: usedFor 10) (World.initial bound 0)).any fun world =>
      world.active && world.workspace.phase != .released && (step found world).any fun next =>
        next.workspace.phase == .released) = true := by decide +kernel
  obtain ⟨world, ran, facts⟩ := (Option.any_eq_true _ _).mp evaluated
  rw [Bool.and_eq_true, Bool.and_eq_true, bne_iff_ne] at facts
  obtain ⟨next, stepped, released⟩ := (Option.any_eq_true _ _).mp facts.2
  refine ⟨world, next, ran, stepped, fun safe => ?_⟩
  cases facts.1.1.symm.trans (safe facts.1.2 (beq_iff_eq.mp released)).1

end Kruntimes.Workspace
