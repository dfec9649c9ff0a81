import Kruntimes.Workflow.Derivation

/-!
# Other Runs and a recorded step

A step whose Run is recorded is to change only with the Run of that name.  Two kinds
of other Runs interfere.  A Run with the same step labels and a smaller name takes
the place of the recorded one in the table of children, so that the recorded Run is
never looked at.  A terminal Run with unreadable environment outputs fails the step
its labels name, because that branch comes before the comparison of names.

Nothing else interferes, whatever labels other Runs carry.
-/

namespace Kruntimes.Workflow

open Api Data Transition

variable {runs : List ChildRun} {names : List String} {i j : Nat}
  {first second step : StepStatus} {jobName : String} {run : ChildRun}

variable {platform : WorkflowPlatform} {snapshot : Snapshot}

/-! ## What a status shows of a step -/

/-- What a status shows of a step or an inner step. -/
structure StepView where
  stepName : String
  actionStepName : String
  runName : String
  phase : StepPhase
  outputs : Labels
  deriving DecidableEq

/-- The view of a step, or of an inner step counted from one. -/
def StepStatus.view (step : StepStatus) : Nat → Option StepView
  | 0 => some ⟨step.name, "", step.runName, step.phase, step.outputs⟩
  | position + 1 => (step.actionSteps[position]?).map fun inner =>
    ⟨step.name, inner.name, inner.runName, inner.phase, inner.outputs⟩

/-- The view at the position of a target. -/
def viewAt (jobs : JobStatuses) (target : StepTarget) : Option StepView :=
  (jobs.lookup target.jobName).bind fun job =>
    (job.steps[target.stepIndex]?).bind fun step => step.view target.actionStepIndex

/-! ## One Run and one step -/

/-- A Run with another name than the recorded one can only fail the step. -/
theorem view_projectAt_of_ne {view : StepView} (shown : step.view j = some view)
    (recorded : view.runName ≠ "") (other : run.name ≠ view.runName) :
    (projectAt platform jobName names i step run).view j =
      some (if j = 0 ∧ spoils platform jobName names i run = true then
        { view with phase := .failed } else view) := by
  unfold projectAt
  cases terminal : terminalRunStepPhase run.phase with
  | none => simp [spoils, terminal, shown]
  | some phase =>
    dsimp only
    split
    next hit =>
      unfold projectEnd
      cases environment : workflowEnvironmentOutputs platform run.outputs with
      | error =>
        cases j with
        | zero =>
          cases shown
          simp [spoils, terminal, hit, environment, StepStatus.view]
        | succ => simpa [StepStatus.view] using shown
      | ok =>
        rw [if_neg (by simp [spoils, environment]), ← shown]
        dsimp only
        unfold projectOntoStep
        split
        · cases j with
          | zero => rfl
          | succ =>
            obtain ⟨inner, here, rfl⟩ := Option.map_eq_some_iff.mp shown
            have same : recordTerminalActionRunStatus run.name phase run.outputs inner =
                inner := if_pos ⟨recorded, other.symm⟩
            unfold StepStatus.onActionStep StepStatus.view
            dsimp only
            rw [getElem?_modifyFirst, here, Option.map_some, same, ite_self]
        · cases j with
          | zero =>
            cases shown
            rw [recordTerminalRunStatus, if_pos ⟨recorded, other.symm⟩]
          | succ =>
            unfold recordTerminalRunStatus
            split <;> rfl
    next missed =>
      rw [if_neg, shown]
      rintro ⟨_, spoiled⟩
      simp only [spoils, Bool.and_eq_true, beq_iff_eq] at spoiled
      exact missed ⟨spoiled.1.1.2, spoiled.1.2⟩

/-- Runs with other names than the recorded one can only fail the step. -/
theorem view_foldl_of_ne {view : StepView} (shown : step.view j = some view)
    (recorded : view.runName ≠ "") (others : ∀ run ∈ runs, run.name ≠ view.runName) :
    (runs.foldl (projectAt platform jobName names i) step).view j =
      some (if j = 0 ∧ runs.any (spoils platform jobName names i) = true then
        { view with phase := .failed } else view) := by
  induction runs generalizing step view with
  | nil => simpa using shown
  | cons run rest ih =>
    have first : (projectAt platform jobName names i step run).view j = some _ :=
      view_projectAt_of_ne shown recorded (others run (.head _))
    rw [List.foldl_cons]
    by_cases spoiled : j = 0 ∧ spoils platform jobName names i run = true
    · rw [if_pos spoiled] at first
      rw [ih first recorded fun other mem => others other (.tail _ mem)]
      simp [spoiled]
    · rw [if_neg spoiled] at first
      rw [ih first recorded fun other mem => others other (.tail _ mem), List.any_cons]
      congr 2
      rw [not_and] at spoiled
      simp only [Bool.or_eq_true, eq_iff_iff, and_congr_right_iff]
      intro outer
      simp [spoiled outer]

/-- A Run with another name that does not spoil the step. -/
def Spares (platform : WorkflowPlatform) (jobName : String) (names : List String) (i j : Nat)
    (view : StepView) (run : ChildRun) : Prop :=
  run.name ≠ view.runName ∧ (j = 0 → spoils platform jobName names i run = false)

theorem view_foldl_of_spares {view : StepView} (shown : step.view j = some view)
    (recorded : view.runName ≠ "")
    (spares : ∀ run ∈ runs, Spares platform jobName names i j view run) :
    (runs.foldl (projectAt platform jobName names i) step).view j = some view := by
  rw [view_foldl_of_ne shown recorded fun run mem => (spares run mem).1, if_neg]
  rintro ⟨outer, spoiled⟩
  obtain ⟨run, mem, bad⟩ := List.any_eq_true.mp spoiled
  rw [(spares run mem).2 outer] at bad
  cases bad

/-- The view of a step consists of its name, its Run and its result. -/
theorem view_zero_eq_iff :
    first.view 0 = second.view 0 ↔ first.name = second.name ∧
      first.runName = second.runName ∧ first.phase = second.phase ∧
      first.outputs = second.outputs := by
  simp [StepStatus.view]

/-- The view of an inner step is its status and the name of the step. -/
theorem view_succ_eq_iff (name : first.name = second.name) :
    first.view (j + 1) = second.view (j + 1) ↔
      first.actionSteps[j]? = second.actionSteps[j]? := by
  simp only [StepStatus.view, name]
  constructor
  · intro shown
    refine Option.map_injective (fun inner other same => ?_) shown
    rcases inner with ⟨_, _⟩
    rcases other with ⟨_, _⟩
    simp only [StepView.mk.injEq, true_and] at same
    obtain ⟨rfl, rfl, rfl, rfl⟩ := same
    rfl
  · intro same
    rw [same]

/-- What a Run makes of a step depends only on what is shown of it. -/
theorem view_projectEnd_congr (frames : first.frame = second.frame)
    (shown : first.view j = second.view j) (run : ChildRun) (phase : StepPhase) :
    (projectEnd platform run phase first).view j =
      (projectEnd platform run phase second).view j := by
  have name : first.name = second.name := congrArg Prod.fst frames
  have inner : first.actionSteps.map ActionStepStatus.name =
      second.actionSteps.map ActionStepStatus.name := congrArg Prod.snd frames
  have renamed : (projectEnd platform run phase first).name =
      (projectEnd platform run phase second).name :=
    (congrArg Prod.fst (frame_projectEnd run phase first)).trans
      (name.trans (congrArg Prod.fst (frame_projectEnd run phase second)).symm)
  cases j with
  | zero =>
    rw [view_zero_eq_iff] at shown ⊢
    obtain ⟨_, recorded, phases, outputs⟩ := shown
    refine ⟨renamed, ?_⟩
    unfold projectEnd projectOntoStep recordTerminalRunStatus
    split
    · exact ⟨recorded, rfl, outputs⟩
    split
    · exact ⟨recorded, phases, outputs⟩
    rw [recorded]
    split
    · exact ⟨recorded, phases, outputs⟩
    · exact ⟨rfl, rfl, rfl⟩
  | succ =>
    rw [view_succ_eq_iff name] at shown
    rw [view_succ_eq_iff renamed]
    unfold projectEnd projectOntoStep recordTerminalRunStatus
    split
    · exact shown
    split
    · have first : ∀ steps : List ActionStepStatus,
          steps.findIdx? (fun other => other.name == run.actionStepName) =
            (steps.map ActionStepStatus.name).findIdx? (· == run.actionStepName) := by
        intro steps
        rw [List.findIdx?_map]
        rfl
      unfold StepStatus.onActionStep
      dsimp only
      rw [getElem?_modifyFirst, getElem?_modifyFirst, first, first, inner, shown]
    · split <;> split <;> exact shown

theorem view_projectAt_congr (frames : first.frame = second.frame)
    (shown : first.view j = second.view j) (run : ChildRun) :
    (projectAt platform jobName names i first run).view j =
      (projectAt platform jobName names i second run).view j := by
  unfold projectAt
  split
  · exact shown
  split
  · exact view_projectEnd_congr frames shown run _
  · exact shown

/-- The name of a recorded Run stays. -/
theorem runName_projectAt {view : StepView} (shown : step.view j = some view)
    (recorded : view.runName ≠ "") (run : ChildRun) :
    ∃ next, (projectAt platform jobName names i step run).view j = some next ∧
      next.runName = view.runName := by
  unfold projectAt projectEnd projectOntoStep
  split
  · exact ⟨view, shown, rfl⟩
  split
  · cases j with
    | zero =>
      cases shown
      split
      · exact ⟨_, rfl, rfl⟩
      split
      · exact ⟨_, rfl, rfl⟩
      unfold recordTerminalRunStatus
      split
      · exact ⟨_, rfl, rfl⟩
      rename_i same
      rw [not_and, not_not] at same
      exact ⟨_, rfl, (same recorded).symm⟩
    | succ =>
      obtain ⟨_, here, rfl⟩ := Option.map_eq_some_iff.mp shown
      split
      · exact ⟨_, shown, rfl⟩
      split
      · simp only [StepStatus.onActionStep, StepStatus.view, getElem?_modifyFirst, here,
          Option.map_some]
        split
        · refine ⟨_, rfl, ?_⟩
          unfold recordTerminalActionRunStatus
          split
          · rfl
          rename_i same
          rw [not_and, not_not] at same
          exact (same recorded).symm
        · exact ⟨_, rfl, rfl⟩
      · unfold recordTerminalRunStatus
        split <;> exact ⟨_, shown, rfl⟩
  · exact ⟨view, shown, rfl⟩

theorem frame_foldl_projectAt (jobName : String) (names : List String) (i : Nat)
    (runs : List ChildRun) (step : StepStatus) :
    (runs.foldl (projectAt platform jobName names i) step).frame = step.frame :=
  foldl_keeps StepStatus.frame step fun run _ step => frame_projectAt _ _ _ step run

/-- Among harmless Runs with other names the recorded Run alone decides. -/
theorem view_foldl_own {view : StepView} {own : ChildRun} (distinct : runs.Nodup)
    (mem : own ∈ runs) (shown : step.view j = some view) (recorded : view.runName ≠ "")
    (others : ∀ run ∈ runs, run ≠ own → Spares platform jobName names i j view run) :
    (runs.foldl (projectAt platform jobName names i) step).view j =
      (projectAt platform jobName names i step own).view j := by
  obtain ⟨earlier, later, rfl⟩ := List.append_of_mem mem
  rw [List.nodup_append, List.nodup_cons] at distinct
  -- the Runs in front leave the view, the own Run acts on it, the Runs behind leave it
  have before : (earlier.foldl (projectAt platform jobName names i) step).view j =
      some view := by
    apply view_foldl_of_spares shown recorded
    intro run inside
    exact others run (List.mem_append_left _ inside)
      (distinct.2.2 run inside own (.head _))
  obtain ⟨next, after, kept⟩ : ∃ next, (projectAt platform jobName names i
      (earlier.foldl (projectAt platform jobName names i) step) own).view j =
        some next ∧ next.runName = view.runName := runName_projectAt before recorded own
  rw [List.foldl_append, List.foldl_cons, view_foldl_of_spares after (kept ▸ recorded), ← after]
  · exact view_projectAt_congr (frame_foldl_projectAt jobName names i earlier step)
      (before.trans shown.symm) own
  · intro run inside
    rw [Spares, kept]
    exact others run (List.mem_append_right _ (.tail _ inside))
      fun same => distinct.2.1.1 (same ▸ inside)

/-! ## The derived view -/

theorem steps_decidedJob (resources : Resources) (jobName : String) (job : JobStatus) :
    (decidedJob platform resources jobName job).steps = job.steps := by
  have called : (decideCall platform resources.childWorkflows jobName job).1.steps = job.steps := by
    rcases decideCall_cases resources.childWorkflows jobName job with
      same | ⟨_, _, _, _, _, failed | ⟨_, _, succeeded⟩⟩
    · rw [same]
    · rw [failed]
    · rw [succeeded]
  unfold decidedJob
  rcases decideJob_cases resources.jobs resources.childRuns jobName
    (decideCall platform resources.childWorkflows jobName job).1 with
    same | ⟨_, failed | ⟨_, _, _, succeeded⟩⟩
  · rw [same, called]
  · rw [failed, called]
  · rw [succeeded, called]

theorem SkippedFrom.steps {job next : JobStatus} (skipped : SkippedFrom job next) :
    next.steps = job.steps := by
  rcases skipped with rfl | ⟨_, rfl⟩ <;> rfl

theorem stepName_of_view {view : StepView} (shown : step.view j = some view) :
    view.stepName = step.name := by
  cases j with
  | zero => cases shown; rfl
  | succ =>
    obtain ⟨_, _, rfl⟩ := Option.map_eq_some_iff.mp shown
    rfl

/-- The derived view of a step or inner step is what the listed Runs make of it; the
passes behind do not touch it. -/
theorem viewAt_deriveWorkflowRunStatus {resources : Resources} {target : StepTarget}
    {job : JobStatus} (frozen : resources.snapshot = some snapshot)
    (found : resources.workflowRun.status.jobTable.lookup target.jobName = some job)
    (listed : job.steps[target.stepIndex]? = some step)
    (inline : target.actionStepIndex = 0 → ∀ {jobSpec spec},
      snapshot.jobs.lookup target.jobName = some jobSpec →
      jobSpec.steps[target.stepIndex]? = some spec → spec.uses = "") :
    viewAt (resources.deriveWorkflowRunStatus platform).jobTable target =
      ((orderedRuns resources.childRuns).foldl (projectAt platform target.jobName
        (job.steps.map StepStatus.name) target.stepIndex) step).view target.actionStepIndex := by
  obtain ⟨_, derived, ⟨actions, skipped, _⟩⟩ := exists_derivedJob platform frozen found
  have projected : (projectRuns platform target.jobName (orderedRuns resources.childRuns)
      job).steps[target.stepIndex]? = some ((orderedRuns resources.childRuns).foldl
        (projectAt platform target.jobName (job.steps.map StepStatus.name) target.stepIndex)
        step) := by
    unfold projectRuns
    rw [List.getElem?_mapIdx, listed, Option.map_some]
  unfold viewAt
  rw [derived, Option.bind_some, skipped.steps, steps_decidedJob]
  dsimp only
  by_cases calls : ∃ spec, ((snapshot.jobs.lookup target.jobName).elim []
      JobSpec.steps)[target.stepIndex]? = some spec ∧ spec.uses ≠ ""
  · obtain ⟨spec, specified, uses⟩ := calls
    obtain ⟨ctx, acted⟩ := actions.call specified uses
    rw [acted, projected, Option.map_some, Option.bind_some]
    cases inner : target.actionStepIndex with
    | zero =>
      cases stored : snapshot.jobs.lookup target.jobName with
      | none => rw [stored] at specified; cases specified
      | some =>
        rw [stored] at specified
        exact absurd (inline inner stored specified) uses
    | succ =>
      obtain ⟨_, _, same⟩ := deriveActionCallStatus_eq snapshot.actions target.jobName spec _ ctx
      rw [same]
      rfl
  · rw [actions.inline, projected, Option.bind_some]
    intro spec specified
    by_contra uses
    exact calls ⟨spec, specified, uses⟩

/-! ## Interference -/

/-- The identity of a recorded step or inner step, and the name of its Run. -/
structure RecordedStep where
  uid : String
  jobName : String
  stepName : String
  actionStepName : String
  runName : String
  deriving DecidableEq

namespace RecordedStep

/-- A status of an initialized WorkflowRun shows the step at a position.  A step that
calls an Action has no Run of its own. -/
structure ShownAt (step : RecordedStep) (resources : Resources) (target : StepTarget)
    (view : StepView) : Prop where
  uid : resources.workflowRun.uid = step.uid
  jobName : target.jobName = step.jobName
  shown : viewAt resources.workflowRun.status.jobTable target = some view
  stepName : view.stepName = step.stepName
  actionStepName : view.actionStepName = step.actionStepName
  runName : view.runName = step.runName
  frozen : resources.snapshot.isSome = true
  inline : target.actionStepIndex = 0 → ∀ {snapshot : Snapshot} {job : JobSpec} {spec : StepSpec},
    resources.snapshot = some snapshot → snapshot.jobs.lookup target.jobName = some job →
    job.steps[target.stepIndex]? = some spec → spec.uses = ""

end RecordedStep

/-- The same WorkflowRun in a namespace with other Runs. -/
def Resources.withRuns (resources : Resources) (runs : List ChildRun) : Resources :=
  { resources with childRuns := childRunsOf resources.workflowRun.uid runs }

/-- Whatever the status and whatever the recorded Run, the other Runs make no
difference to a recorded step. -/
def OwnRunOnly (platform : WorkflowPlatform) (step : RecordedStep)
    (others : List ChildRun) : Prop :=
  ∀ (resources : Resources) (target : StepTarget) (view : StepView),
    step.ShownAt resources target view → ∀ own : Option ChildRun,
      (∀ run ∈ own, run.name = step.runName) →
      viewAt ((resources.withRuns (own.toList ++ others)).deriveWorkflowRunStatus
          platform).jobTable target =
        viewAt ((resources.withRuns own.toList).deriveWorkflowRunStatus platform).jobTable target

/-- No listed Run with the labels of an inline step has ended with unreadable outputs. -/
def Harmless (platform : WorkflowPlatform) (step : RecordedStep) (others : List ChildRun) :
    Prop :=
  step.actionStepName = "" → ∀ {key : String} {run : ChildRun},
    (childRunsOf step.uid others).lookup key = some run → run.jobName = step.jobName →
      run.stepName = step.stepName → (terminalRunStepPhase run.phase).isSome = true →
      ∃ environment, workflowEnvironmentOutputs platform run.outputs = .ok environment

/-- No other child with the key of the step has a smaller name, and the other Runs are
harmless.  A Run labelled with an inner step of an inline step counts for the inline
step, since unreadable outputs fail that one. -/
structure NotInterfering (platform : WorkflowPlatform) (step : RecordedStep)
    (others : List ChildRun) : Prop where
  unhidden : ∀ other ∈ others, label other.labels workflowRunUIDLabel = step.uid →
    ∀ inner, step.actionStepName = "" ∨ inner = step.actionStepName →
      other.stepKey = workflowStepKey step.jobName step.stepName inner → ¬ other.name < step.runName
  harmless : Harmless platform step others

theorem nodup_orderedRuns (uid : String) (runs : List ChildRun) :
    (orderedRuns (childRunsOf uid runs)).Nodup := by
  unfold orderedRuns
  apply (Table.nodup_sortedKeys _).filterMap
  intro key other run found otherFound
  exact (lookup_childRunsOf found).2.2.1.symm.trans (lookup_childRunsOf otherFound).2.2.1

/-- In a namespace a child with its key's smallest name is the one listed. -/
theorem eq_of_lookup_childRunsOf {uid key : String} {first second : ChildRun}
    (distinct : (runs.map ChildRun.name).Nodup)
    (found : (childRunsOf uid runs).lookup key = some first) (mem : second ∈ runs)
    (labelled : label second.labels workflowRunUIDLabel = uid) (keyed : second.stepKey = key)
    (least : ¬ first.name < second.name) : first = second := by
  obtain ⟨firstMember, _, _, smallest⟩ := lookup_childRunsOf found
  have names : first.name = second.name :=
    le_antisymm (not_lt.mp (smallest second mem labelled keyed)) (not_lt.mp least)
  exact List.inj_on_of_nodup_map distinct firstMember mem names

/-- A Run that changes the view of a step is labelled with it. -/
theorem labelled_of_view_projectAt_ne {view : StepView}
    (named : names[i]? = some view.stepName) (shown : step.view j = some view)
    (changed : (projectAt platform jobName names i step run).view j ≠ some view) :
    run.jobName = jobName ∧ run.stepName = view.stepName ∧
      (view.actionStepName = "" ∨ run.actionStepName = view.actionStepName) := by
  unfold projectAt at changed
  split at changed
  · exact absurd shown changed
  split at changed
  next hit =>
    obtain ⟨_, here, _⟩ := List.findIdx?_eq_some_iff_getElem.mp hit.2
    obtain ⟨_, same⟩ := List.getElem?_eq_some_iff.mp named
    refine ⟨hit.1, (beq_iff_eq.mp here).symm.trans same, ?_⟩
    cases j with
    | zero =>
      cases shown
      exact .inl rfl
    | succ =>
      right
      obtain ⟨_, innerListed, rfl⟩ := Option.map_eq_some_iff.mp shown
      by_contra other
      apply changed
      rw [← shown]
      unfold projectEnd projectOntoStep recordTerminalRunStatus
      split
      · rfl
      split
      · simp only [StepStatus.onActionStep, StepStatus.view]
        rw [getElem?_modifyFirst, if_neg]
        intro first
        obtain ⟨_, found, _⟩ := List.findIdx?_eq_some_iff_getElem.mp first
        obtain ⟨_, rfl⟩ := List.getElem?_eq_some_iff.mp innerListed
        exact other (beq_iff_eq.mp found).symm
      · split <;> rfl
  · exact absurd shown changed

/-- A Run by itself is listed when it is a child. -/
theorem orderedRuns_singleton (uid : String) (run : ChildRun) :
    orderedRuns (childRunsOf uid [run]) =
      if label run.labels workflowRunUIDLabel = uid then [run] else [] := by
  unfold childRunsOf
  split
  next labelled =>
    have kept : [run].filter (fun run => label run.labels workflowRunUIDLabel == uid) = [run] :=
      List.filter_cons_of_pos (beq_iff_eq.mpr labelled)
    rw [kept, List.foldl_cons, List.foldl_nil]
    have added : addChildRun ∅ run = (∅ : Table String ChildRun).insert run.stepKey run := rfl
    have keys : Table.sortedKeys ((∅ : Table String ChildRun).insert run.stepKey run) =
        [run.stepKey] := rfl
    unfold orderedRuns
    rw [added, keys]
    simp only [List.filterMap_cons, List.filterMap_nil, AList.lookup_insert]
  next unlabelled =>
    have dropped : [run].filter (fun run => label run.labels workflowRunUIDLabel == uid) = [] :=
      List.filter_cons_of_neg (mt beq_iff_eq.mp unlabelled)
    rw [dropped]
    rfl

section Listed

variable {step : RecordedStep} {others : List ChildRun} {own : Option ChildRun}

/-- Besides the recorded Run only the other Runs are listed. -/
theorem mem_others_of_mem_orderedRuns (own : Option ChildRun)
    (inTable : run ∈ orderedRuns (childRunsOf step.uid (own.toList ++ others)))
    (different : own ≠ some run) : run ∈ others := by
  obtain ⟨_, listed⟩ := mem_orderedRuns.mp inTable
  rcases List.mem_append.mp (lookup_childRunsOf listed).1 with here | mem
  · exact absurd (Option.mem_toList.mp here) different
  · exact mem

/-- An other Run that is listed beside the recorded one is listed without it, so it does
not spoil the step. -/
theorem Harmless.spoils_eq_false (distinct : (others.map ChildRun.name).Nodup)
    (quiet : Harmless platform step others) (inline : step.actionStepName = "")
    (named : names[i]? = some step.stepName) (mem : run ∈ others)
    (inTable : run ∈ orderedRuns (childRunsOf step.uid (own.toList ++ others))) :
    spoils platform step.jobName names i run = false := by
  rw [← Bool.not_eq_true]
  intro spoiled
  obtain ⟨job, name, terminal, unreadable⟩ := stepName_of_spoils named spoiled
  obtain ⟨_, listed⟩ := mem_orderedRuns.mp inTable
  obtain ⟨_, labelled, keyed, least⟩ := lookup_childRunsOf listed
  obtain ⟨other, otherListed⟩ := exists_lookup_childRunsOf mem labelled
  obtain ⟨otherMember, otherLabelled, otherKeyed, _⟩ := lookup_childRunsOf otherListed
  have same : other = run := eq_of_lookup_childRunsOf distinct otherListed mem labelled rfl
    (least other (List.mem_append_right _ otherMember) otherLabelled (otherKeyed.trans keyed))
  obtain ⟨environment, readable⟩ := quiet inline (same ▸ otherListed) job name terminal
  exact unreadable environment readable

/-- A child that is not listed has a listed one with its key and a smaller name. -/
theorem exists_smaller_of_not_mem (labelled : label run.labels workflowRunUIDLabel = step.uid)
    (distinct : ((run :: others).map ChildRun.name).Nodup)
    (hidden : run ∉ orderedRuns (childRunsOf step.uid (run :: others))) :
    ∃ other ∈ others, label other.labels workflowRunUIDLabel = step.uid ∧
      other.stepKey = run.stepKey ∧ other.name < run.name := by
  obtain ⟨other, listed⟩ := exists_lookup_childRunsOf
    (.head _ : run ∈ run :: others) labelled
  have inTable := mem_orderedRuns.mpr ⟨_, listed⟩
  obtain ⟨mem, otherLabelled, keyed, _⟩ := lookup_childRunsOf listed
  refine ⟨other, ?_, otherLabelled, keyed, ?_⟩
  · rcases List.mem_cons.mp mem with rfl | mem
    · exact absurd inTable hidden
    · exact mem
  · by_contra notLess
    have same := eq_of_lookup_childRunsOf distinct listed (.head _) labelled rfl notLess
    exact hidden (same ▸ inTable)

end Listed

/-- The derived view of a recorded step, for any Runs in the namespace. -/
theorem RecordedStep.ShownAt.exists_status (platform : WorkflowPlatform) {step : RecordedStep}
    {resources : Resources} {target : StepTarget} {view : StepView}
    (shownAt : step.ShownAt resources target view) :
    ∃ names status, names[target.stepIndex]? = some view.stepName ∧
      status.view target.actionStepIndex = some view ∧
      ∀ runs, viewAt ((resources.withRuns runs).deriveWorkflowRunStatus platform).jobTable
          target = ((orderedRuns (childRunsOf step.uid runs)).foldl
            (projectAt platform step.jobName names target.stepIndex) status).view
              target.actionStepIndex := by
  obtain ⟨job, found, inJob⟩ := Option.bind_eq_some_iff.mp shownAt.shown
  obtain ⟨status, listed, shown⟩ := Option.bind_eq_some_iff.mp inJob
  obtain ⟨snapshot, frozen⟩ := Option.isSome_iff_exists.mp shownAt.frozen
  refine ⟨job.steps.map StepStatus.name, status, ?_, shown, fun runs => ?_⟩
  · rw [List.getElem?_map, listed, Option.map_some, stepName_of_view shown]
  · have frozenWith : (resources.withRuns runs).snapshot = some snapshot := frozen
    rw [← shownAt.uid, ← shownAt.jobName]
    exact viewAt_deriveWorkflowRunStatus frozenWith found listed fun outer =>
      shownAt.inline outer frozen

theorem NotInterfering.ownRunOnly {step : RecordedStep} {others : List ChildRun}
    (recorded : step.runName ≠ "") (distinct : (others.map ChildRun.name).Nodup)
    (foreign : ∀ other ∈ others, other.name ≠ step.runName)
    (quiet : NotInterfering platform step others) : OwnRunOnly platform step others := by
  intro resources target view shownAt own ownRun
  obtain ⟨names, status, named, shown, derived⟩ := shownAt.exists_status platform
  have recordedView : view.runName ≠ "" := shownAt.runName ▸ recorded
  have spares : ∀ run ∈ orderedRuns (childRunsOf step.uid (own.toList ++ others)),
      own ≠ some run → Spares platform step.jobName names target.stepIndex
        target.actionStepIndex view run := by
    intro run inTable different
    have mem := mem_others_of_mem_orderedRuns own inTable different
    refine ⟨shownAt.runName ▸ foreign run mem, fun outer => ?_⟩
    rw [outer] at shown
    have inline : step.actionStepName = "" := by
      rw [← shownAt.actionStepName]
      cases shown
      rfl
    rw [shownAt.stepName] at named
    exact quiet.harmless.spoils_eq_false distinct inline named mem inTable
  rw [derived, derived]
  cases own with
  | none =>
    refine (view_foldl_of_spares shown recordedView fun run inTable => ?_).trans shown.symm
    exact spares run inTable (by simp)
  | some run =>
    have runNamed : run.name = step.runName := ownRun run rfl
    rw [show (some run).toList = [run] from rfl, orderedRuns_singleton]
    by_cases inTable : run ∈ orderedRuns (childRunsOf step.uid (run :: others))
    · obtain ⟨_, listed⟩ := mem_orderedRuns.mp inTable
      rw [if_pos (lookup_childRunsOf listed).2.1]
      apply view_foldl_own (nodup_orderedRuns _ _) inTable shown recordedView
      intro other otherListed different
      exact spares other otherListed fun same => different (Option.some.inj same).symm
    · -- without the recorded Run in the table the step stays as it is shown
      have unlisted := view_foldl_of_spares shown recordedView fun other otherListed =>
        spares other otherListed fun same => inTable (Option.some.inj same ▸ otherListed)
      refine unlisted.trans ?_
      by_cases labelled : label run.labels workflowRunUIDLabel = step.uid
      · -- a Run with its key and a smaller name is listed, so it is no Run of this step
        have namesDistinct : ((run :: others).map ChildRun.name).Nodup := by
          rw [List.map_cons, List.nodup_cons]
          refine ⟨fun mem => ?_, distinct⟩
          obtain ⟨other, otherMember, same⟩ := List.mem_map.mp mem
          exact foreign other otherMember (same.trans runNamed)
        obtain ⟨other, mem, otherLabelled, keyed, smaller⟩ :=
          exists_smaller_of_not_mem labelled namesDistinct inTable
        rw [if_pos labelled]
        by_contra changed
        obtain ⟨job, name, inner⟩ := labelled_of_view_projectAt_ne named shown (Ne.symm changed)
        rw [shownAt.stepName] at name
        rw [shownAt.actionStepName] at inner
        refine quiet.unhidden other mem otherLabelled run.actionStepName inner ?_
          (runNamed ▸ smaller)
        rw [keyed, ChildRun.stepKey, job, name]
      · rw [if_neg labelled, List.foldl_nil, shown]

/-! ## Every interference shows -/

/-- A status that shows nothing but the recorded step, as running. -/
def RecordedStep.probe (step : RecordedStep) : Resources where
  workflowRun :=
    { name := "", uid := step.uid, jobs := ∅
      status :=
        { jobs := some ((∅ : JobStatuses).insert step.jobName
            { phase := .running
              steps :=
                [{ name := step.stepName, phase := .running, runName := step.runName
                   actionSteps := [{ name := step.actionStepName, phase := .running,
                                     runName := step.runName }] }] }) } }
  childRuns := ∅
  childWorkflows := ∅
  snapshot := some ⟨∅, ∅⟩

/-- Where the probe shows the step. -/
def RecordedStep.probeTarget (step : RecordedStep) : StepTarget :=
  ⟨step.jobName, 0, if step.actionStepName = "" then 0 else 1⟩

/-- What the probe shows. -/
def RecordedStep.probeView (step : RecordedStep) : StepView :=
  ⟨step.stepName, step.actionStepName, step.runName, .running, ∅⟩

theorem RecordedStep.shownAt_probe (step : RecordedStep) :
    step.ShownAt step.probe step.probeTarget step.probeView where
  uid := rfl
  jobName := rfl
  shown := by
    have found : step.probe.workflowRun.status.jobTable.lookup step.probeTarget.jobName =
        some _ := AList.lookup_insert _
    unfold viewAt
    rw [found]
    unfold probeTarget probeView
    dsimp only [Option.bind_some, List.getElem?_cons_zero]
    split
    next inline =>
      rw [inline]
      rfl
    · rfl
  stepName := rfl
  actionStepName := rfl
  runName := rfl
  frozen := rfl
  inline := by
    intro _ snapshot job spec frozen found
    cases frozen
    cases found

/-- The first of some names is found at the first position. -/
theorem findIdx?_eq_zero {name : String} (first : names[0]? = some name) :
    names.findIdx? (· == name) = some 0 := by
  cases names with
  | nil => cases first
  | cons =>
    cases first
    rw [List.findIdx?_cons, beq_self_eq_true, if_pos rfl]

section Necessity

variable {step : RecordedStep} {others : List ChildRun}

theorem OwnRunOnly.harmless (recorded : step.runName ≠ "")
    (foreign : ∀ other ∈ others, other.name ≠ step.runName)
    (only : OwnRunOnly platform step others) : Harmless platform step others := by
  intro inline key run listed job name terminal
  obtain ⟨names, _, named, shown, derived⟩ := step.shownAt_probe.exists_status platform
  have same := only step.probe step.probeTarget step.probeView step.shownAt_probe none
    (fun _ mem => (by cases mem))
  have outer : step.probeTarget.actionStepIndex = 0 := if_pos inline
  have inOthers : ∀ other ∈ orderedRuns (childRunsOf step.uid others),
      other.name ≠ step.probeView.runName := by
    intro other inTable
    obtain ⟨_, otherListed⟩ := mem_orderedRuns.mp inTable
    exact foreign other (lookup_childRunsOf otherListed).1
  cases readable : workflowEnvironmentOutputs platform run.outputs with
  | ok environment => exact ⟨environment, rfl⟩
  | error =>
    -- the Run fails the step that would go on running without it
    have spoiled : spoils platform step.jobName names step.probeTarget.stepIndex run = true := by
      simp only [spoils, terminal, job, name, readable, Bool.true_and, Bool.and_true,
        beq_self_eq_true]
      exact beq_iff_eq.mpr (findIdx?_eq_zero named)
    have all : (orderedRuns (childRunsOf step.uid others)).any
        (spoils platform step.jobName names step.probeTarget.stepIndex) = true :=
      List.any_eq_true.mpr ⟨run, mem_orderedRuns.mpr ⟨key, listed⟩, spoiled⟩
    have empty : orderedRuns (childRunsOf step.uid (none : Option ChildRun).toList) = [] := rfl
    rw [derived, derived, Option.toList_none, List.nil_append,
      view_foldl_of_ne shown recorded inOthers, if_pos ⟨outer, all⟩] at same
    rw [Option.toList_none] at empty
    rw [empty, List.foldl_nil, shown] at same
    cases same

/-- A Run with the recorded name and the labels of the step or, for an inline step, of
an inner step: it fails an inline step and lets an inner step succeed. -/
def RecordedStep.probeRun (step : RecordedStep) (inner : String) : ChildRun :=
  { name := step.runName
    labels := workflowStepLabels step.uid step.jobName step.stepName inner
    controller := none
    spec := { runtime := "", inline := "" }
    phase := .succeeded
    outputs := if step.actionStepName = "" then
        (∅ : Labels).insert workflowEnvironmentOutputPrefix ""
      else ∅ }

theorem view_projectAt_probeRun {status : StepStatus} {inner : String}
    (named : names[0]? = some step.stepName)
    (shown : status.view step.probeTarget.actionStepIndex = some step.probeView)
    (concerned : step.actionStepName = "" ∨ inner = step.actionStepName) :
    (projectAt platform step.jobName names 0 status (step.probeRun inner)).view
      step.probeTarget.actionStepIndex ≠ some step.probeView := by
  have hit : (step.probeRun inner).jobName = step.jobName ∧
      names.findIdx? (· == (step.probeRun inner).stepName) = some 0 := by
    rw [jobName_of_labels rfl, stepName_of_labels rfl]
    exact ⟨rfl, findIdx?_eq_zero named⟩
  have projected : projectAt platform step.jobName names 0 status (step.probeRun inner) =
      projectEnd platform (step.probeRun inner) .succeeded status := if_pos hit
  rw [projected]
  by_cases inline : step.actionStepName = ""
  · have outer : step.probeTarget.actionStepIndex = 0 := if_pos inline
    have outputs : (step.probeRun inner).outputs =
        (∅ : Labels).insert workflowEnvironmentOutputPrefix "" := if_pos inline
    obtain ⟨message, unreadable⟩ : ∃ message, workflowEnvironmentOutputs platform
      ((∅ : Labels).insert workflowEnvironmentOutputPrefix "") = .error message := ⟨_, rfl⟩
    rw [projectEnd, outputs, unreadable, outer]
    intro same
    cases congrArg (Option.map StepView.phase) same
  · have inside : step.probeTarget.actionStepIndex = 1 := if_neg inline
    have outputs : (step.probeRun inner).outputs = ∅ := if_neg inline
    obtain ⟨environment, readable⟩ : ∃ environment, workflowEnvironmentOutputs platform
      ∅ = .ok environment := ⟨_, rfl⟩
    have innerName : inner = step.actionStepName := concerned.resolve_left inline
    rw [inside] at shown ⊢
    obtain ⟨innerStatus, innerListed, innerView⟩ := Option.map_eq_some_iff.mp shown
    have innerRun : innerStatus.runName = step.runName := congrArg StepView.runName innerView
    have innerFirst : status.actionSteps.findIdx?
        (fun other => other.name == (step.probeRun inner).actionStepName) = some 0 := by
      rw [actionStepName_of_labels rfl, innerName]
      have firstName : (status.actionSteps.map ActionStepStatus.name)[0]? =
          some step.actionStepName := by
        rw [List.getElem?_map, innerListed]
        exact congrArg some (congrArg StepView.actionStepName innerView)
      have found := findIdx?_eq_zero firstName
      rwa [List.findIdx?_map] at found
    have calls : (step.probeRun inner).actionStepName ≠ "" := by
      rw [actionStepName_of_labels rfl, innerName]
      exact inline
    rw [projectEnd, outputs, readable]
    dsimp only
    rw [projectOntoStep, if_pos calls]
    unfold StepStatus.onActionStep
    simp only [StepStatus.view]
    rw [getElem?_modifyFirst, if_pos innerFirst, innerListed, Option.map_some, Option.map_some]
    unfold recordTerminalActionRunStatus
    rw [if_neg fun other => other.2 innerRun]
    intro same
    cases congrArg (Option.map StepView.phase) same

theorem OwnRunOnly.unhidden (recorded : step.runName ≠ "")
    (distinct : (others.map ChildRun.name).Nodup)
    (foreign : ∀ other ∈ others, other.name ≠ step.runName)
    (only : OwnRunOnly platform step others) {other : ChildRun} (mem : other ∈ others)
    (labelled : label other.labels workflowRunUIDLabel = step.uid) {inner : String}
    (concerned : step.actionStepName = "" ∨ inner = step.actionStepName)
    (keyed : other.stepKey = workflowStepKey step.jobName step.stepName inner) :
    ¬ other.name < step.runName := by
  intro smaller
  obtain ⟨names, _, named, shown, derived⟩ := step.shownAt_probe.exists_status platform
  have same := only step.probe step.probeTarget step.probeView step.shownAt_probe
    (some (step.probeRun inner)) (fun _ mem => (by cases mem; rfl))
  have ownKey : (step.probeRun inner).stepKey =
      workflowStepKey step.jobName step.stepName inner := by
    rw [ChildRun.stepKey, jobName_of_labels rfl, stepName_of_labels rfl,
      actionStepName_of_labels rfl]
  -- the recorded Run is hidden, so that the other Runs leave the step as it was
  have inOthers : ∀ run ∈ orderedRuns (childRunsOf step.uid
      ((some (step.probeRun inner)).toList ++ others)), run ∈ others := by
    intro run inTable
    apply mem_others_of_mem_orderedRuns _ inTable
    rintro ⟨⟩
    obtain ⟨_, listed⟩ := mem_orderedRuns.mp inTable
    obtain ⟨_, _, ownKeyed, least⟩ := lookup_childRunsOf listed
    exact least other (List.mem_append_right _ mem) labelled
      (keyed.trans (ownKey.symm.trans ownKeyed)) smaller
  have spares : ∀ run ∈ orderedRuns (childRunsOf step.uid
      ((some (step.probeRun inner)).toList ++ others)), Spares platform step.jobName names
        step.probeTarget.stepIndex step.probeTarget.actionStepIndex step.probeView run := by
    intro run inTable
    refine ⟨foreign run (inOthers run inTable), fun outer => ?_⟩
    have inline : step.actionStepName = "" := by
      by_contra inner
      rw [RecordedStep.probeTarget, if_neg inner] at outer
      cases outer
    exact (only.harmless recorded foreign).spoils_eq_false distinct inline named
      (inOthers run inTable) inTable
  have own : label (step.probeRun inner).labels workflowRunUIDLabel = step.uid :=
    label_workflowStepLabels.1
  rw [derived, derived, view_foldl_of_spares shown recorded spares,
    show (some (step.probeRun inner)).toList = [step.probeRun inner] from rfl,
    orderedRuns_singleton, if_pos own] at same
  exact view_projectAt_probeRun named shown concerned same.symm

end Necessity

/-- A recorded step is left to its own Run exactly when the other Runs of the namespace
neither hide that Run nor spoil the step. -/
theorem ownRunOnly_iff {step : RecordedStep} {others : List ChildRun}
    (recorded : step.runName ≠ "") (distinct : (others.map ChildRun.name).Nodup)
    (foreign : ∀ other ∈ others, other.name ≠ step.runName) :
    OwnRunOnly platform step others ↔ NotInterfering platform step others := by
  constructor
  · intro only
    exact ⟨fun other member labelled inner concerned keyed =>
      only.unhidden recorded distinct foreign member labelled concerned keyed,
      only.harmless recorded foreign⟩
  · exact NotInterfering.ownRunOnly recorded distinct foreign

/-- A step that has its Run. -/
def compileStep : RecordedStep := ⟨"uid", "build", "compile", "", "run-1"⟩

/-- A Run that somebody else has labelled with the step. -/
def intruder (name : String) (phase : RunPhase) (outputs : Labels) : ChildRun :=
  { name := name, labels := workflowStepLabels "uid" "build" "compile" "", controller := none
    spec := { runtime := "bash", inline := "true" }, phase := phase, outputs := outputs }

theorem ownRunOnly_compileStep :
    compileStep.runName ≠ "" ∧
      OwnRunOnly samplePlatform compileStep [intruder "run-2" .failed ∅] := by
  refine ⟨by decide, (ownRunOnly_iff (by decide) (by decide) (by decide)).mpr ⟨?_, ?_⟩⟩
  · intro other member _ _ _ _
    rw [List.mem_singleton.mp member]
    decide
  · intro _ key run listed _ _ _
    rw [List.mem_singleton.mp (lookup_childRunsOf listed).1]
    exact ⟨_, rfl⟩

/-- A Run with unreadable outputs fails the step of another, and a Run with a smaller name
hides the one that is recorded. -/
theorem exists_not_ownRunOnly :
    (∃ others : List ChildRun, (others.map ChildRun.name).Nodup ∧
      (∀ other ∈ others, other.name = "run-2") ∧ ¬ OwnRunOnly samplePlatform compileStep others) ∧
    ∃ others : List ChildRun, (others.map ChildRun.name).Nodup ∧
      (∀ other ∈ others, other.name = "run-0" ∧ other.phase = .running) ∧
      ¬ OwnRunOnly samplePlatform compileStep others := by
  constructor
  · refine ⟨[intruder "run-2" .succeeded
      ((∅ : Labels).insert (workflowEnvironmentOutputPrefix ++ "1X") "")], by decide, by decide,
      fun only => ?_⟩
    have same := only compileStep.probe compileStep.probeTarget compileStep.probeView
      compileStep.shownAt_probe none (fun _ member => (by cases member))
    revert same
    decide +kernel
  · refine ⟨[intruder "run-0" .running ∅], by decide, by decide, fun only => ?_⟩
    have same := only compileStep.probe compileStep.probeTarget compileStep.probeView
      compileStep.shownAt_probe (some (intruder "run-1" .succeeded ∅))
      (fun _ member => (by cases member; rfl))
    revert same
    decide +kernel

end Kruntimes.Workflow
