import Kruntimes.Workflow.Ordering

/-!
# The environment of a step

A step exports a variable as an output under a reserved key.  When an Action call has
succeeded, the reserved outputs of its inner steps are stored among those that the Action
declares.  Read back for the next child Run this is the last export of every variable, as
long as no output that an Action declares has a reserved key itself.
-/

namespace Kruntimes.Workflow

open Api Data

variable {platform : WorkflowPlatform} {outputs environment result : Labels} {name : String}
  {exports : List Labels}

/-! ## Exports -/

/-- The reserved key of a variable. -/
def exportKey (name : String) : String := workflowEnvironmentOutputPrefix ++ name

theorem cutLeading_eq_some_iff {key : String} :
    cutLeading workflowEnvironmentOutputPrefix key = some name ↔ key = exportKey name := by
  rw [cutLeading, Option.ite_none_right_eq_some, List.isPrefixOf_iff_prefix, ← String.toList_inj,
    exportKey, String.toList_append]
  constructor
  · rintro ⟨⟨rest, split⟩, same⟩
    rw [← split, ← String.length_toList, List.drop_left, Option.some.injEq] at same
    rw [← split, ← same, String.toList_ofList]
  · intro split
    rw [split, ← String.length_toList, List.drop_left, String.ofList_toList]
    exact ⟨List.prefix_append _ _, rfl⟩

theorem cutLeading_exportKey (name : String) :
    cutLeading workflowEnvironmentOutputPrefix (exportKey name) = some name :=
  cutLeading_eq_some_iff.mpr rfl

theorem exportKey_injective : Function.Injective exportKey := by
  intro name other same
  have cut := cutLeading_exportKey name
  rw [same, cutLeading_exportKey] at cut
  exact (Option.some.inj cut).symm

/-- The last-wins fold over outputs in the order of execution. -/
def lastExport (exports : List Labels) (name : String) : Option String :=
  exports.reverse.findSome? fun outputs => outputs.lookup (exportKey name)

theorem lastExport_append (first second : List Labels) (name : String) :
    lastExport (first ++ second) name = (lastExport second name).or (lastExport first name) := by
  rw [lastExport, List.reverse_append, List.findSome?_append]
  rfl

theorem lastExport_singleton (outputs : Labels) (name : String) :
    lastExport [outputs] name = outputs.lookup (exportKey name) := by
  simp [lastExport]

theorem lastExport_cons (outputs : Labels) (rest : List Labels) (name : String) :
    lastExport (outputs :: rest) name =
      (lastExport rest name).or (outputs.lookup (exportKey name)) := by
  rw [← List.singleton_append, lastExport_append, lastExport_singleton]

theorem lastExport_eq_none_iff : lastExport exports name = none ↔
    ∀ outputs ∈ exports, outputs.lookup (exportKey name) = none := by
  simp [lastExport]

/-- Every exported variable has a name that the controller accepts. -/
def Readable (exports : List Labels) : Prop :=
  ∀ name, lastExport exports name ≠ none → isCIdentifier name = true

/-! ## Reading them back -/

theorem lookup_of_workflowEnvironmentOutputs
    (read : workflowEnvironmentOutputs platform outputs = .ok environment) (name : String) :
    environment.lookup name = outputs.lookup (exportKey name) := by
  have loop : environment.lookup name = if exportKey name ∈ outputs.sortedKeys then
      some (label outputs (exportKey name)) else (∅ : Labels).lookup name := by
    rw [workflowEnvironmentOutputs] at read
    generalize (∅ : Labels) = start at read ⊢
    generalize outputs.sortedKeys = keys at read ⊢
    induction keys generalizing start with
    | nil => cases read; rfl
    | cons key rest ih =>
      obtain ⟨next, stepped, others⟩ := foldlM_cons_eq_ok read
      rw [ih _ others]
      split at stepped
      · rename_i plain
        cases stepped
        have unlike : exportKey name ≠ key := by
          rintro rfl
          cases plain.symm.trans (cutLeading_exportKey name)
        simp [unlike]
      · rename_i written cut
        obtain rfl := cutLeading_eq_some_iff.mp cut
        split at stepped
        · cases stepped
          by_cases same : name = written
          · subst same
            simp
          · simp [exportKey_injective.ne same, AList.lookup_insert_ne same]
        · cases stepped
  simp only [loop, Table.mem_sortedKeys, ← AList.lookup_isSome, label]
  cases outputs.lookup (exportKey name) <;> rfl

/-- Later exports replace earlier ones. -/
theorem lookup_of_mergeEnvironments
    (merged : mergeEnvironments platform environment exports = .ok result) (name : String) :
    result.lookup name = (lastExport exports name).or (environment.lookup name) := by
  induction exports generalizing environment with
  | nil => cases merged; rfl
  | cons outputs rest ih =>
    obtain ⟨next, first, others⟩ := foldlM_cons_eq_ok merged
    cases read : workflowEnvironmentOutputs platform outputs with
    | error => rw [read] at first; cases first
    | ok updates =>
      rw [read] at first
      cases first
      rw [ih others, lastExport_cons, Option.or_assoc, Table.lookup_foldl_insert,
        lookup_of_workflowEnvironmentOutputs read]

theorem exists_mergeEnvironments (readable : Readable exports) :
    ∃ result, mergeEnvironments platform environment exports = .ok result := by
  cases merged : mergeEnvironments platform environment exports with
  | ok result => exact ⟨result, rfl⟩
  | error =>
    obtain ⟨outputs, listed, _, failed⟩ := exists_of_foldlM_eq_error merged
    cases read : workflowEnvironmentOutputs platform outputs with
    | ok => rw [read] at failed; cases failed
    | error =>
      obtain ⟨key, stored, _, failed⟩ := exists_of_foldlM_eq_error read
      split at failed
      · cases failed
      · rename_i name cut
        obtain rfl := cutLeading_eq_some_iff.mp cut
        rw [if_pos (readable name ?_)] at failed
        · cases failed
        · intro none
          exact AList.lookup_eq_none.mp (lastExport_eq_none_iff.mp none outputs listed)
            (Table.mem_sortedKeys.mp stored)

/-! ## Action calls -/

/-- What the succeeded ones of the inner steps of an Action have written. -/
def succeededOutputs (steps : List ActionStepStatus) : List Labels :=
  (steps.filter fun step => step.phase == .succeeded).map ActionStepStatus.outputs

theorem lookup_withEnvironmentOutputs (declared : Labels) (steps : List ActionStepStatus)
    (name : String) : (withEnvironmentOutputs declared steps).lookup (exportKey name) =
      (lastExport (succeededOutputs steps) name).or (declared.lookup (exportKey name)) := by
  rw [withEnvironmentOutputs, succeededOutputs]
  generalize steps.filter _ = succeeded
  induction succeeded generalizing declared with
  | nil => rfl
  | cons step rest ih =>
    have kept : (step.outputs.keep fun key _ => isEnvironmentKey key).lookup (exportKey name) =
        step.outputs.lookup (exportKey name) := by
      ext value
      simp [Table.lookup_keep_eq_some_iff, isEnvironmentKey, cutLeading_exportKey]
    rw [List.foldl_cons, ih, List.map_cons, lastExport_cons, Option.or_assoc,
      Table.lookup_foldl_insert, kept]

/-- A call of the Action has succeeded: `deriveActionCallStatus` has decided it. -/
def CallSucceeded (action : ActionSpec) (step : StepStatus) : Prop :=
  ∃ actions jobName spec before ctx, before.phase ≠ .succeeded ∧
    ((actions.lookup (workflowActionSnapshotKey jobName spec.name)).map ActionSnapshot.spec =
      some action) ∧
    (deriveActionCallStatus actions jobName spec before ctx).1 = step ∧ step.phase = .succeeded

theorem lookup_of_resolveOutputs {ctx : ResolveContext} {declared : Labels} {key : String}
    (resolved : resolveOutputs outputs ctx = .ok declared) (absent : outputs.lookup key = none) :
    declared.lookup key = none := by
  unfold resolveOutputs Table.traverse at resolved
  split at resolved
  · cases resolved
  · cases resolved
    rw [Table.lookup_mapValues, absent]
    rfl

/-- It stores what the Action declares and the exports of its steps. -/
theorem CallSucceeded.exists_declared {action : ActionSpec} {step : StepStatus}
    (succeeded : CallSucceeded action step) :
    ∃ declared ctx, resolveOutputs action.outputs ctx = .ok declared ∧
      step.outputs = withEnvironmentOutputs declared step.actionSteps := by
  obtain ⟨actions, jobName, spec, before, ctx, undecided, called, rfl, phase⟩ := succeeded
  obtain ⟨snapshot, found, rfl⟩ := Option.map_eq_some_iff.mp called
  revert phase
  unfold deriveActionCallStatus
  split
  next decided =>
    exact fun phase => absurd phase undecided
  dsimp only
  rw [found]
  dsimp only
  split
  · rintro ⟨⟩
  split
  · rintro ⟨⟩
  · exact fun phase => absurd phase undecided
  · exact fun phase => absurd phase undecided
  split
  · rintro ⟨⟩
  next declared resolved =>
    unfold resolveActionOutputs at resolved
    split at resolved
    · cases resolved
    · exact fun _ => ⟨declared, _, resolved, rfl⟩

theorem CallSucceeded.lookup {action : ActionSpec} {step : StepStatus}
    (succeeded : CallSucceeded action step)
    (plain : action.outputs.lookup (exportKey name) = none) :
    step.outputs.lookup (exportKey name) =
      lastExport (succeededOutputs step.actionSteps) name := by
  obtain ⟨declared, ctx, resolved, stored⟩ := succeeded.exists_declared
  rw [stored, lookup_withEnvironmentOutputs, lookup_of_resolveOutputs resolved plain,
    Option.or_none]

/-! ## The inherited environment -/

/-- The completed steps before a target. -/
def completedSteps (status : JobStatus) (target : StepTarget) : List StepStatus :=
  (status.steps.take target.stepIndex).filter fun step => step.phase == .succeeded

/-- The inner steps before a target inside an Action. -/
def earlierInnerSteps (status : JobStatus) (target : StepTarget) : List ActionStepStatus :=
  ((status.steps[target.stepIndex]?).elim [] StepStatus.actionSteps).take
    (target.actionStepIndex - 1)

theorem workflowStepEnvironment_eq (status : JobStatus) (target : StepTarget) :
    workflowStepEnvironment platform status target = mergeEnvironments platform ∅
      ((completedSteps status target).map StepStatus.outputs ++
        succeededOutputs (earlierInnerSteps status target)) := by
  rw [workflowStepEnvironment, succeededOutputs, earlierInnerSteps]
  split
  · rename_i inline
    rw [inline]
    rfl
  · rfl

/-- Completed steps, each with the Action that it calls, if any. -/
abbrev Steps := List (StepStatus × Option ActionSpec)

/-- The outputs that an inline step or the inner steps of a call have written, in the order of
execution. -/
def exportsOf : StepStatus × Option ActionSpec → List Labels
  | (step, none) => [step.outputs]
  | (step, some _) => succeededOutputs step.actionSteps

def exportsBefore (steps : Steps) (status : JobStatus) (target : StepTarget) : List Labels :=
  steps.flatMap exportsOf ++ succeededOutputs (earlierInnerSteps status target)

/-- The calls among the steps have succeeded, and their Actions declare no reserved outputs. -/
structure Unreserved (steps : Steps) : Prop where
  succeeded : ∀ step action, (step, some action) ∈ steps → CallSucceeded action step
  plain : ∀ step action, (step, some action) ∈ steps → ∀ key ∈ action.outputs,
    isEnvironmentKey key = false

/-- The last export that is stored is the last one made. -/
theorem Unreserved.lastExport {steps : Steps} (unreserved : Unreserved steps) (name : String) :
    lastExport ((steps.map Prod.fst).map StepStatus.outputs) name =
      Workflow.lastExport (steps.flatMap exportsOf) name := by
  induction steps with
  | nil => rfl
  | cons entry rest ih =>
    have later : Unreserved rest :=
      ⟨fun step action mem => unreserved.succeeded step action (.tail _ mem),
        fun step action mem => unreserved.plain step action (.tail _ mem)⟩
    rw [List.map_cons, List.map_cons, lastExport_cons, List.flatMap_cons, lastExport_append,
      ih later]
    obtain ⟨step, _ | action⟩ := entry
    · rw [exportsOf, lastExport_singleton]
    · rw [exportsOf, (unreserved.succeeded step action (.head _)).lookup]
      rw [AList.lookup_eq_none]
      intro declared
      have reserved := unreserved.plain step action (.head _) _ declared
      rw [isEnvironmentKey, cutLeading_exportKey] at reserved
      cases reserved

/-- An Action that declares the output `key`. -/
def toolsAction (key : String) : ActionSpec where
  outputs := AList.singleton key "/tools"
  steps := [{ name := "print", run := "true" }]

/-- A call of it, whose inner step has written these outputs. -/
def toolsCall (key : String) (outputs : Labels) : StepStatus :=
  (deriveActionCallStatus
    (AList.singleton (workflowActionSnapshotKey "build" "setup") ⟨"tools", toolsAction key⟩) "build"
    { name := "setup", uses := "tools" }
    { name := "setup", actionSteps := [{ name := "print", phase := .succeeded, outputs }] } {}).1

/-- A job whose first steps are completed. -/
def jobBehind (steps : Steps) : JobStatus :=
  { phase := .running, steps := steps.map Prod.fst }

/-- A step has exported `PATH`, and so has the inner step of the call behind it. -/
def setupSteps : Steps :=
  [({ name := "get", phase := .succeeded, outputs := AList.singleton (exportKey "PATH") "/bin" },
      none),
    (toolsCall "dir" (AList.singleton (exportKey "PATH") "/opt"), some (toolsAction "dir"))]

/-- A call of an Action that declares an output under a reserved key. -/
def reservedSteps : Steps :=
  [(toolsCall (exportKey "PATH") ∅, some (toolsAction (exportKey "PATH")))]

end Kruntimes.Workflow
