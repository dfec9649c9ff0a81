import Kruntimes.Workflow.Ordering

/-!
# Lookups that fail

The controller reads Actions when it accepts a WorkflowRun, and Workflows when it starts a
call: the called one, and those that its call graph reaches.  A `Get` may fail for other
reasons than the absence of the object.  Such a failure ends the reconcile when it is the
first `Get` of a call, and then a reconcile that follows at once makes up for it.
Everywhere else it is taken for an invalid WorkflowRun or an invalid call.
-/

namespace Kruntimes.Workflow

open Api Data Transition

/-- The messages of the requests that fail in one reconcile: of an Action, of the Workflow
that a job calls, and of a Workflow in the call graph of a job. -/
structure Faults where
  action : String → Option String := fun _ => none
  workflow : String → Option String := fun _ => none
  callGraph : String → String → Option String := fun _ _ => none

namespace Faults

/-- The answer to `Get` of an Action. -/
def findAction (faults : Faults) (definitions : Definitions) (name : String) :
    Except LookupFailure ActionSpec :=
  match faults.action name with
  | some message => .error (.failed message)
  | none => definitions.findAction name

/-- The answer to `Get` of a Workflow in `ValidateCallGraph`. -/
def lookup (faults : Faults) (definitions : Definitions) (jobName name : String) :
    Except String WorkflowSpec :=
  match faults.callGraph jobName name with
  | some message => .error message
  | none => lookupWorkflow definitions.findWorkflow name

/-- Only the first request of a call fails. -/
structure OnlyFirst (faults : Faults) : Prop where
  action : ∀ name, faults.action name = none
  callGraph : ∀ jobName name, faults.callGraph jobName name = none

end Faults

section

variable (platform : WorkflowPlatform) (faults : Faults) (definitions : Definitions)

/-- One pass of the loop of `applyStartRunnableTargets`; `none` is an error that ends the
reconcile. -/
def startTargetWith (resources : Resources) (snapshot : Snapshot)
    (state : World × WorkflowRunStatus) : Target → Option (World × WorkflowRunStatus)
  | .step target =>
    some (startTarget platform definitions resources snapshot state (.step target))
  | .workflowCall jobName =>
    let job := (snapshot.jobs.lookup jobName).getD {}
    match faults.workflow jobName with
    | some _ => none
    | none =>
      match workflowCallWith platform (definitions.findWorkflow job.uses)
          (faults.lookup definitions jobName) resources.workflowRun state.2.jobTable jobName
          job with
      | .error message =>
        some (state.1.record (.failedCall jobName state.2.jobTable message),
          recordWorkflowCallFailure state.2 jobName message)
      | .ok child =>
        some (state.1.createWorkflowRun jobName state.2.jobTable child,
          recordWorkflowCall state.2 jobName child.name)

/-- `applyStartRunnableTargets`: where it gets to, and whether it gets through. -/
def startTargetsWith (resources : Resources) (snapshot : Snapshot) :
    List Target → World × WorkflowRunStatus → (World × WorkflowRunStatus) × Bool
  | [], state => (state, true)
  | target :: rest, state =>
    match startTargetWith platform faults definitions resources snapshot state target with
    | none => (state, false)
    | some next => startTargetsWith resources snapshot rest next

/-- `Reconcile` with requests that fail. -/
def reconcileWith (fate : Fate) (world : World) : World :=
  if world.workflowRun.deleting then world
  else
    match world.plan platform, world.snapshot with
    | .startRunnableTargets targets, some snapshot =>
      let (final, through) := startTargetsWith platform faults definitions world.resources
        snapshot (fate.cut targets) (world, world.derivedStatus platform)
      if through then final.1.commit fate final.2 else final.1
    | _, _ =>
      reconcile platform { definitions with findAction := faults.findAction definitions } fate world

/-- One action, with the requests that fail if it is a reconcile. -/
def stepWith (platform : WorkflowPlatform) : Step (Action × Faults) World
  | (.reconcile definitions fate, faults), world =>
    some (reconcileWith platform faults definitions fate world)
  | (action, _), world => step platform action world

/-- Whether a failed request ends the reconcile. -/
def interrupts (platform : WorkflowPlatform) : Action × Faults → World → Bool
  | (.reconcile definitions fate, faults), world =>
    match world.workflowRun.deleting, world.plan platform, world.snapshot with
    | false, .startRunnableTargets targets, some snapshot =>
      !(startTargetsWith platform faults definitions world.resources snapshot
        (fate.cut targets) (world, world.derivedStatus platform)).2
    | _, _, _ => false
  | _, _ => false

end

/-! ## A failed request ends the reconcile -/

section Cut

variable {platform : WorkflowPlatform} {faults : Faults} {definitions : Definitions}
  {resources : Resources} {snapshot : Snapshot}

theorem Faults.OnlyFirst.definitions_eq (first : faults.OnlyFirst) :
    { definitions with findAction := faults.findAction definitions } = definitions := by
  have same : faults.findAction definitions = definitions.findAction := by
    funext name
    unfold Faults.findAction
    rw [first.action]
  rw [same]

/-- A target that is not cut off is handled as if nothing failed. -/
theorem startTargetWith_eq_some (first : faults.OnlyFirst) {state next : World × WorkflowRunStatus}
    {target : Target}
    (handled : startTargetWith platform faults definitions resources snapshot state target =
      some next) :
    startTarget platform definitions resources snapshot state target = next := by
  cases target with
  | step => exact Option.some.inj handled
  | workflowCall jobName =>
    have same : faults.lookup definitions jobName = lookupWorkflow definitions.findWorkflow := by
      funext name
      unfold Faults.lookup
      rw [first.callGraph]
    simp only [startTargetWith, same] at handled
    split at handled
    · cases handled
    rw [startTarget, workflowCallOf]
    generalize workflowCallWith platform _ _ _ _ _ _ = built at handled ⊢
    cases built with
    | error | ok => exact Option.some.inj handled

/-- The loop handles the first targets, and all of them if it gets through. -/
theorem startTargetsWith_eq (first : faults.OnlyFirst) (targets : List Target)
    (state : World × WorkflowRunStatus) :
    ∃ count, (startTargetsWith platform faults definitions resources snapshot targets state).1 =
        (targets.take count).foldl (startTarget platform definitions resources snapshot) state ∧
      ((startTargetsWith platform faults definitions resources snapshot targets state).2 = true →
        targets.length ≤ count) := by
  induction targets generalizing state with
  | nil => exact ⟨0, rfl, fun _ => Nat.le_refl 0⟩
  | cons target rest ih =>
    rw [startTargetsWith]
    split
    · exact ⟨0, rfl, nofun⟩
    rename_i next handled
    obtain ⟨count, reached, through⟩ := ih next
    refine ⟨count + 1, ?_, fun done => Nat.succ_le_succ (through done)⟩
    rw [List.take_succ_cons, List.foldl_cons, startTargetWith_eq_some first handled]
    exact reached

theorem Fate.take_cut {α : Type} (fate : Fate) (count : Nat) (writes : List α) :
    ∃ reached, (fate.cut writes).take count = (Fate.lost reached).cut writes := by
  cases fate with
  | patched => exact ⟨count, rfl⟩
  | lost limit => exact ⟨min count limit, List.take_take⟩

/-- A reconcile that starts targets. -/
theorem reconcile_of_started {world : World} {targets : List Target} (fate : Fate)
    (present : world.workflowRun.deleting = false)
    (planned : world.plan platform = .startRunnableTargets targets)
    (frozen : world.snapshot = some snapshot) :
    reconcile platform definitions fate world =
      ((fate.cut targets).foldl (startTarget platform definitions world.resources snapshot)
        (world, world.derivedStatus platform)).1.commit fate
      ((fate.cut targets).foldl (startTarget platform definitions world.resources snapshot)
        (world, world.derivedStatus platform)).2 := by
  have planned : calculateWorkflowRunPlan world.resources
      (world.resources.deriveWorkflowRunStatus platform) = .startRunnableTargets targets := planned
  unfold reconcile
  rw [present, if_neg (by decide), if_neg (by rw [frozen]; exact fun missing => nomatch missing.1)]
  simp only [planned, frozen]
  rfl

/-- A reconcile that no failed request ends is one without failed requests. -/
theorem stepWith_of_not_interrupts (first : faults.OnlyFirst) {action : Action} {world : World}
    (through : interrupts platform (action, faults) world = false) :
    stepWith platform (action, faults) world = step platform action world := by
  cases action with
  | reconcile definitions fate =>
    refine congrArg some ?_
    unfold reconcileWith
    split
    next deleting =>
      exact (if_pos deleting).symm
    rename_i present
    have present := Bool.eq_false_iff.mpr present
    split
    next targets snapshot planned frozen =>
      simp only [interrupts, present, planned, frozen, Bool.not_eq_false'] at through
      obtain ⟨count, reached, all⟩ :
          ∃ count, (startTargetsWith platform faults definitions world.resources snapshot
            (fate.cut targets) (world, world.derivedStatus platform)).1 = _ ∧ (_ → _) :=
        startTargetsWith_eq first _ _
      dsimp only
      rw [if_pos through, reconcile_of_started fate present planned frozen, reached,
        List.take_of_length_le (all through)]
    · rw [first.definitions_eq]
  | _ => rfl

end Cut

/-! ## The next reconcile makes up for it -/

/-- Two worlds that differ at most in the log. -/
structure SameObjects (world next : World) : Prop where
  workflowRun : next.workflowRun = world.workflowRun
  snapshot : next.snapshot = world.snapshot
  runs : next.runs = world.runs
  workflowRuns : next.workflowRuns = world.workflowRuns

/-- What the handling of a target does to the objects. -/
inductive Effect
  | nothing
  | failed (event : Event)
  | create (target : StepTarget) (statuses : JobStatuses) (run : ChildRun)
  | call (jobName : String) (statuses : JobStatuses) (child : WorkflowRun)

def Effect.apply (world : World) : Effect → World
  | nothing => world
  | failed event => world.record event
  | create target statuses run => world.createRun target statuses run
  | call jobName statuses child => world.createWorkflowRun jobName statuses child

section Absorb

variable {platform : WorkflowPlatform} {definitions : Definitions} {resources : Resources}
  {snapshot : Snapshot} {world next again : World}

/-- The effects of the targets do not depend on the objects. -/
theorem exists_effects (targets : List Target) (status : WorkflowRunStatus) :
    ∃ (effects : List Effect) (final : WorkflowRunStatus),
      (∀ world, targets.foldl (startTarget platform definitions resources snapshot)
        (world, status) = (effects.foldl Effect.apply world, final)) ∧
      ∀ count world, ((targets.take count).foldl
        (startTarget platform definitions resources snapshot) (world, status)).1 =
          (effects.take count).foldl Effect.apply world := by
  induction targets generalizing status with
  | nil =>
    refine ⟨[], status, fun _ => rfl, fun count world => ?_⟩
    rw [List.take_nil, List.take_nil]
    rfl
  | cons target rest ih =>
    obtain ⟨effect, after, handled⟩ : ∃ (effect : Effect) (after : WorkflowRunStatus),
        ∀ world, startTarget platform definitions resources snapshot (world, status) target =
          (effect.apply world, after) := by
      cases target with
      | step target =>
        simp only [startTarget]
        split
        · exact ⟨.failed _, _, fun _ => rfl⟩
        · exact ⟨.nothing, _, fun _ => rfl⟩
        · exact ⟨.create target _ _, _, fun _ => rfl⟩
      | workflowCall jobName =>
        simp only [startTarget]
        split
        · exact ⟨.failed _, _, fun _ => rfl⟩
        · exact ⟨.call jobName _ _, _, fun _ => rfl⟩
    obtain ⟨effects, final, all, some⟩ := ih after
    refine ⟨effect :: effects, final, fun world => ?_, fun count world => ?_⟩
    · rw [List.foldl_cons, handled]
      exact all _
    · cases count with
      | zero => rfl
      | succ count =>
        rw [List.take_succ_cons, List.take_succ_cons, List.foldl_cons, handled]
        exact some count _

theorem Effect.survives (effect : Effect) (world : World) :
    Survives world (effect.apply world) := by
  cases effect with
  | create target statuses run => exact .createRun world target statuses run
  | call jobName statuses child => exact .createWorkflowRun world jobName statuses child
  | _ => exact ⟨id, id⟩

theorem SameObjects.trans (first : SameObjects world next) (second : SameObjects next again) :
    SameObjects world again :=
  ⟨second.workflowRun.trans first.workflowRun, second.snapshot.trans first.snapshot,
    second.runs.trans first.runs, second.workflowRuns.trans first.workflowRuns⟩

theorem SameObjects.survives (same : SameObjects world next) : Survives world next := by
  constructor
  · rw [same.runs]
    exact id
  · rw [same.workflowRuns]
    exact id

theorem SameObjects.read (same : SameObjects world next) :
    next.resources = world.resources := by
  unfold World.resources
  rw [same.workflowRun, same.snapshot, same.runs, same.workflowRuns]

theorem SameObjects.commit (same : SameObjects world next) (fate : Fate)
    (status : WorkflowRunStatus) :
    SameObjects (world.commit fate status) (next.commit fate status) := by
  cases fate with
  | patched =>
    refine ⟨?_, same.snapshot, same.runs, same.workflowRuns⟩
    unfold World.commit
    rw [same.workflowRun]
  | lost => exact same

/-- What a step does to the objects it does along a list. -/
theorem SameObjects.foldl {α : Type} {f : World → α → World}
    (keeps : ∀ {world next}, SameObjects world next → ∀ item,
      SameObjects (f world item) (f next item))
    (same : SameObjects world next) (items : List α) :
    SameObjects (items.foldl f world) (items.foldl f next) := by
  induction items generalizing world next with
  | nil => exact same
  | cons item rest ih => exact ih (keeps same item)

theorem SameObjects.requestCancellation (same : SameObjects world next) (request : Cancellation) :
    SameObjects (world.requestCancellation request) (next.requestCancellation request) := by
  cases request with
  | run name =>
    refine ⟨same.workflowRun, same.snapshot, ?_, same.workflowRuns⟩
    simp only [World.requestCancellation, same.runs]
  | workflowRun name =>
    refine ⟨same.workflowRun, same.snapshot, same.runs, ?_⟩
    simp only [World.requestCancellation, same.workflowRuns]

theorem SameObjects.stores (same : SameObjects world next) : next.stores = world.stores := by
  funext request
  cases request with
  | run name => exact congrArg (fun runs => (stored runs name).isSome) same.runs
  | workflowRun name =>
    exact congrArg (fun children => (stored children name).isSome) same.workflowRuns

theorem SameObjects.cancelChildren (same : SameObjects world next) (fate : Fate)
    (requests : List Cancellation) (derived : WorkflowRunStatus) :
    SameObjects (world.cancelChildren fate requests derived)
      (next.cancelChildren fate requests derived) := by
  have requested := same.foldl SameObjects.requestCancellation
    ((fate.cut requests).takeWhile world.stores)
  unfold World.cancelChildren
  rw [same.stores]
  dsimp only
  split
  · exact requested.commit fate derived
  · exact requested

theorem SameObjects.apply (same : SameObjects world next) (effect : Effect) :
    SameObjects (effect.apply world) (effect.apply next) := by
  obtain ⟨workflowRun, frozen, runs, workflowRuns⟩ := same
  cases effect with
  | create =>
    simp only [Effect.apply, World.createRun, runs]
    split
    · exact ⟨workflowRun, frozen, runs, workflowRuns⟩
    · exact ⟨workflowRun, frozen, rfl, workflowRuns⟩
  | call =>
    simp only [Effect.apply, World.createWorkflowRun, workflowRuns]
    split
    · exact ⟨workflowRun, frozen, runs, workflowRuns⟩
    · exact ⟨workflowRun, frozen, runs, rfl⟩
  | _ => exact ⟨workflowRun, frozen, runs, workflowRuns⟩

/-- A creation is done once. -/
theorem Effect.apply_again {effect : Effect} (survives : Survives (effect.apply world) again) :
    SameObjects again (effect.apply again) := by
  cases effect with
  | create target statuses run =>
    have present : (stored again.runs run.name).isSome = true := by
      apply survives.runs
      simp only [Effect.apply, World.createRun]
      split
      next used =>
        rw [used]
        rfl
      · exact (congrArg Option.isSome (stored_storeVersion_self _ _ _)).trans rfl
    obtain ⟨_, used⟩ := Option.isSome_iff_exists.mp present
    simp only [Effect.apply, World.createRun, used]
    exact ⟨rfl, rfl, rfl, rfl⟩
  | call jobName statuses child =>
    have present : (stored again.workflowRuns child.name).isSome = true := by
      apply survives.workflowRuns
      simp only [Effect.apply, World.createWorkflowRun]
      split
      next used =>
        rw [used]
        rfl
      · exact (congrArg Option.isSome (stored_storeVersion_self _ _ _)).trans rfl
    obtain ⟨_, used⟩ := Option.isSome_iff_exists.mp present
    simp only [Effect.apply, World.createWorkflowRun, used]
    exact ⟨rfl, rfl, rfl, rfl⟩
  | _ => exact ⟨rfl, rfl, rfl, rfl⟩

theorem foldl_apply_again {effects : List Effect}
    (survives : Survives (effects.foldl Effect.apply world) again) :
    SameObjects again (effects.foldl Effect.apply again) := by
  induction effects generalizing world again with
  | nil => exact ⟨rfl, rfl, rfl, rfl⟩
  | cons effect rest ih =>
    have once : SameObjects again (effect.apply again) :=
      Effect.apply_again ((Survives.foldl (fun world effect => effect.survives world) rest
        (effect.apply world)).trans survives)
    exact once.trans (ih (survives.trans once.survives))

/-- Effects that are partly done and then done as a whole are done once. -/
theorem sameObjects_resumed (effects : List Effect) (count : Nat) (world : World) :
    SameObjects (effects.foldl Effect.apply world)
      (effects.foldl Effect.apply ((effects.take count).foldl Effect.apply world)) := by
  have split := effects.take_append_drop count
  have again := foldl_apply_again (Survives.refl ((effects.take count).foldl Effect.apply world))
  have later := again.foldl SameObjects.apply (effects.drop count)
  rwa [← List.foldl_append, ← List.foldl_append, split] at later

end Absorb

section Again

variable {platform : WorkflowPlatform} {definitions : Definitions} {world next after : World}

/-- The reconcile after an interrupted one that reads the same ends where the interrupted
one would have ended. -/
theorem sameObjects_of_interrupts {faults : Faults} {fate : Fate} (first : faults.OnlyFirst)
    (interrupted : interrupts platform (.reconcile definitions fate, faults) world = true)
    (left : reconcileWith platform faults definitions fate world = next)
    (read : next.resources = world.resources) :
    SameObjects (reconcile platform definitions .patched world)
      (reconcile platform definitions .patched next) := by
  simp only [interrupts] at interrupted
  split at interrupted
  next targets snapshot present planned frozen =>
    rw [Bool.not_eq_true'] at interrupted
    obtain ⟨count, reached, _⟩ : ∃ count, (startTargetsWith platform faults definitions
        world.resources snapshot (fate.cut targets) (world, world.derivedStatus platform)).1 =
          _ ∧ (_ → _) := startTargetsWith_eq first _ _
    obtain ⟨writes, same⟩ := fate.take_cut count targets
    obtain ⟨effects, final, all, some⟩ : ∃ (effects : List Effect) (final : WorkflowRunStatus),
        (∀ other, targets.foldl (startTarget platform definitions world.resources snapshot)
          (other, world.derivedStatus platform) = _) ∧ (∀ count other, _ = _) :=
      exists_effects targets _
    have left : next = (effects.take writes).foldl Effect.apply world := by
      rw [← left]
      unfold reconcileWith
      rw [present, if_neg (by decide), planned, frozen]
      dsimp only
      rw [if_neg (Bool.eq_false_iff.mp interrupted), reached, same]
      exact some writes world
    have owner := congrArg Resources.workflowRun read
    have status : next.derivedStatus platform = world.derivedStatus platform :=
      congrArg (Resources.deriveWorkflowRunStatus platform) read
    have replanned : next.plan platform = .startRunnableTargets targets := by
      unfold World.plan
      rw [status, read]
      exact planned
    rw [reconcile_of_started .patched present planned frozen,
      reconcile_of_started .patched ((congrArg WorkflowRun.deleting owner).trans present)
        replanned ((congrArg Resources.snapshot read).trans frozen),
      show Fate.patched.cut targets = targets from rfl, read, status, all, all, left]
    exact (sameObjects_resumed effects writes world).commit .patched final
  · cases interrupted

/-- What a reconcile does to the objects does not depend on the log. -/
theorem SameObjects.reconcile (same : SameObjects world next) (fate : Fate) :
    SameObjects (reconcile platform definitions fate world)
      (reconcile platform definitions fate next) := by
  have read := same.read
  unfold Workflow.reconcile
  rw [read, same.workflowRun, same.snapshot]
  split
  · exact same
  split
  · exact same
  dsimp only
  generalize calculateWorkflowRunPlan _ _ = plan
  cases plan with
  | none => exact same.commit fate _
  | initializeWorkflowRun =>
    generalize world.snapshot = frozen
    cases frozen with
    | some snapshot => exact same.commit fate _
    | none =>
      dsimp only
      split
      · exact same.commit fate _
      next snapshot _ =>
        split
        · exact same
        · refine SameObjects.commit ?_ fate _
          exact ⟨rfl, rfl, same.runs, same.workflowRuns⟩
  | startRunnableTargets targets =>
    generalize world.snapshot = frozen
    cases frozen with
    | none => exact same
    | some snapshot =>
      obtain ⟨effects, final, all, _⟩ : ∃ (effects : List Effect) (final : WorkflowRunStatus),
          (∀ other, (fate.cut targets).foldl
            (startTarget platform definitions world.resources snapshot)
            (other, world.resources.deriveWorkflowRunStatus platform) = _) ∧ _ :=
        exists_effects (fate.cut targets) _
      dsimp only
      rw [all, all]
      exact (same.foldl SameObjects.apply effects).commit fate final
  | requestChildCancellation => exact same.cancelChildren fate _ _

/-- What can happen does not depend on the log. -/
theorem SameObjects.step (same : SameObjects world next) {action : Action}
    (stepped : step platform action next = some after) :
    ∃ other, Workflow.step platform action world = some other ∧ SameObjects other after := by
  cases action with
  | reconcile definitions fate =>
    cases stepped
    exact ⟨_, rfl, same.reconcile fate⟩
  | _ =>
    have erased : world = { next with log := world.log } := by
      rw [same.workflowRun, same.snapshot, same.runs, same.workflowRuns]
    rw [erased]
    refine ⟨{ after with log := world.log }, ?_, ⟨rfl, rfl, rfl, rfl⟩⟩
    simp only [Workflow.step, Option.bind_eq_some_iff, Option.map_eq_some_iff] at stepped ⊢
    grind

end Again

/-- Only the first request of a call fails, and a reconcile that such a failure ends is
retried at once: the next action is a reconcile of the same definitions that reads the same
objects and, unless a failure ends it too, stores its status. -/
def RetriedAtOnce (platform : WorkflowPlatform) : List (Action × Faults) → World → Prop
  | [], _ => True
  | entry :: rest, world =>
    entry.2.OnlyFirst ∧ ∀ next ∈ stepWith platform entry world,
      (interrupts platform entry world = true → next.resources = world.resources ∧
        ∃ definitions fate faults others, entry.1 = .reconcile definitions fate ∧
          rest = (.reconcile definitions .patched, faults) :: others) ∧
      RetriedAtOnce platform rest next

/-- The schedule without the reconciles that a failed request ends. -/
def uninterrupted (platform : WorkflowPlatform) : List (Action × Faults) → World → List Action
  | [], _ => []
  | entry :: rest, world =>
    let later := (stepWith platform entry world).elim [] (uninterrupted platform rest)
    if interrupts platform entry world then later else entry.1 :: later

/-- The state with failures and the one without: they have the same objects, or will
have them after the reconcile that comes next. -/
def Agrees (platform : WorkflowPlatform) (schedule : List (Action × Faults))
    (same world : World) : Prop :=
  SameObjects same world ∨ ∃ definitions faults others,
    schedule = (.reconcile definitions .patched, faults) :: others ∧
      SameObjects (reconcile platform definitions .patched same)
        (reconcile platform definitions .patched world)

section Retry

variable {platform : WorkflowPlatform} {entry : Action × Faults}
  {rest : List (Action × Faults)} {same world next : World}

/-- A reconcile that a failure ends has no counterpart. -/
theorem Agrees.interrupted (agrees : Agrees platform (entry :: rest) same world)
    (retried : RetriedAtOnce platform (entry :: rest) world)
    (interrupted : interrupts platform entry world = true)
    (stepped : stepWith platform entry world = some next) : Agrees platform rest same next := by
  obtain ⟨⟨read, definitions, fate, faults, others, isReconcile, again⟩, _⟩ :=
    (retried.2 next stepped).imp_left fun resumes => resumes interrupted
  obtain ⟨_, failures⟩ := entry
  cases isReconcile
  have ends : SameObjects (reconcile platform definitions .patched world)
      (reconcile platform definitions .patched next) :=
    sameObjects_of_interrupts retried.1 interrupted (Option.some.inj stepped) read
  refine .inr ⟨definitions, faults, others, again, ?_⟩
  rcases agrees with objects | ⟨_, _, _, opens, objects⟩
  · exact (objects.reconcile .patched).trans ends
  · cases opens
    exact objects.trans ends

/-- Every other action has the same effect on both. -/
theorem Agrees.kept (agrees : Agrees platform (entry :: rest) same world)
    (first : entry.2.OnlyFirst) (through : interrupts platform entry world = false)
    (stepped : stepWith platform entry world = some next) :
    ∃ after, step platform entry.1 same = some after ∧ SameObjects after next := by
  have stepped := (stepWith_of_not_interrupts first through).symm.trans stepped
  rcases agrees with objects | ⟨_, _, _, opens, objects⟩
  · exact objects.step stepped
  · cases opens
    cases stepped
    exact ⟨_, rfl, objects⟩

theorem Agrees.run {schedule : List (Action × Faults)}
    (agrees : Agrees platform schedule same world)
    (retried : RetriedAtOnce platform schedule world)
    (ran : run (stepWith platform) schedule world = some next) :
    ∃ after, Transition.run (step platform) (uninterrupted platform schedule world) same =
      some after ∧ SameObjects after next := by
  induction schedule generalizing same world with
  | nil =>
    rcases agrees with objects | ⟨_, _, _, opens, _⟩
    · cases ran
      exact ⟨same, rfl, objects⟩
    · cases opens
  | cons entry rest ih =>
    obtain ⟨middle, stepped, ran⟩ := (run_cons_eq_some_iff _ _ _ _ _).mp ran
    have later := (retried.2 middle stepped).2
    rw [uninterrupted, stepped, Option.elim_some]
    cases interrupted : interrupts platform entry world with
    | true => exact ih (agrees.interrupted retried interrupted stepped) later ran
    | false =>
      obtain ⟨between, moved, objects⟩ := agrees.kept retried.1 interrupted stepped
      obtain ⟨after, reached, final⟩ := ih (.inl objects) later ran
      exact ⟨after, (run_cons_eq_some_iff _ _ _ _ _).mpr ⟨between, moved, reached⟩, final⟩

end Retry

/-- If only first requests of calls fail and a reconcile that one ends is retried at once,
then the same schedule without those reconciles leads to the same status of the
WorkflowRun (its acceptance, its phase, its jobs and steps) and to the same children. -/
theorem retried_of_run {platform : WorkflowPlatform} {workflowRun : WorkflowRun}
    {schedule : List (Action × Faults)} {world : World}
    (retried : RetriedAtOnce platform schedule (World.initial workflowRun))
    (ran : run (stepWith platform) schedule (World.initial workflowRun) = some world) :
    ∃ same, run (step platform) (uninterrupted platform schedule (World.initial workflowRun))
        (World.initial workflowRun) = some same ∧
      same.workflowRun.status = world.workflowRun.status ∧ SameObjects same world := by
  have agrees : Agrees platform schedule (World.initial workflowRun) (World.initial workflowRun) :=
    .inl ⟨rfl, rfl, rfl, rfl⟩
  obtain ⟨same, reached, objects⟩ := agrees.run retried ran
  exact ⟨same, reached, congrArg WorkflowRun.status objects.workflowRun.symm, objects⟩

/-- A job that calls the Workflow `shared`, and a job with a step that calls the Action
`tool`. -/
def callingRun : WorkflowRun where
  name := "ci"
  uid := "uid-1"
  jobs := ((∅ : JobSpecs).insert "deploy" { uses := "shared" }).insert "lint"
    { runsOn := "bash", steps := [{ name := "run", uses := "tool" }] }

/-- The Action and the Workflow are stored. -/
def sharedDefinitions : Definitions where
  findAction _ := .ok { steps := [inlineStep "only" "lint"] }
  findWorkflow _ := some
    { jobs := (∅ : JobSpecs).insert "push"
        { runsOn := "bash", steps := [inlineStep "all" "push"] } }

/-- The first request of the call fails once. -/
def interruptedCall : List (Action × Faults) :=
  let reconciled := Action.reconcile sharedDefinitions .patched
  [(reconciled, {}), (reconciled, { workflow := fun _ => some "etcdserver: request timed out" }),
    (reconciled, {})]

theorem retried_interruptedCall :
    RetriedAtOnce samplePlatform interruptedCall (World.initial callingRun) ∧
      ∃ world, run (stepWith samplePlatform) interruptedCall (World.initial callingRun) =
          some world ∧
        ((world.workflowRun.status.job? "deploy").map JobStatus.phase = some .running ∧
          (uninterrupted samplePlatform interruptedCall (World.initial callingRun)).length = 2) ∧
        ∃ same, run (step samplePlatform)
            (uninterrupted samplePlatform interruptedCall (World.initial callingRun))
            (World.initial callingRun) = some same ∧
          same.workflowRun.status = world.workflowRun.status ∧ SameObjects same world := by
  have first (message : Option String) : Faults.OnlyFirst { workflow := fun _ => message } :=
    ⟨fun _ => rfl, fun _ _ => rfl⟩
  have retried : RetriedAtOnce samplePlatform interruptedCall (World.initial callingRun) := by
    refine ⟨first none, fun accepted moved => ?_⟩
    cases moved
    refine ⟨fun interrupted => absurd interrupted (by decide +kernel), first _,
      fun left moved => ?_⟩
    cases moved
    refine ⟨fun _ => ⟨rfl, _, _, _, _, rfl, rfl⟩, first none, fun last moved => ?_⟩
    cases moved
    exact ⟨fun interrupted => absurd interrupted (by decide +kernel), trivial⟩
  refine ⟨retried, ?_⟩
  apply exists_reached_and
  · decide +kernel
  exact fun world ran _ => retried_of_run retried ran

/-- Without failures the WorkflowRun is accepted and its call is started.  When the first
`Get` of the Action fails it is rejected for good, and when a `Get` in the call graph fails
the job is Failed. -/
theorem exists_decided_by_failure : let reconciled := Action.reconcile sharedDefinitions .patched
    let verdict (faults : List Faults) :=
      (run (stepWith samplePlatform) (faults.map (reconciled, ·)) (World.initial callingRun)).map
        fun world => (world.workflowRun.status.phase,
          world.workflowRun.status.acceptance.map Acceptance.accepted,
          (world.workflowRun.status.job? "deploy").map JobStatus.phase)
    verdict [{}, {}] = some (.running, some true, some .running) ∧
      verdict [{ action := fun _ => some "timeout" }, {}] = some (.failed, some false, none) ∧
      verdict [{}, { callGraph := fun _ _ => some "timeout" }] =
        some (.running, some true, some .failed) := by
  decide +kernel

end Kruntimes.Workflow
