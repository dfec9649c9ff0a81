import Kruntimes.Workflow.Derivation

/-!
# Finished workflows stay finished

A finished job keeps its phase, and a WorkflowRun that has succeeded or failed keeps
its phase, its jobs and its outputs, whatever its children do.  A cancelled one may
have running jobs left.  It stays as it is when all its children were loaded by the
reconcile that stored the cancellation: they had all ended, and what a derivation makes
of ended children it makes of them only once.

The last part is carried by `SettledJob`: no loaded child, and no part of the loaded
children, changes a running job any further.
-/

namespace Kruntimes.Workflow

open Api Data Transition

variable {action : Action} {job : JobStatus} {after before : JobStatuses} {runs : List ChildRun}
  {workflowRun : WorkflowRun} {next world : World} {childWorkflows : Table String WorkflowRun}
  {jobName : String} {resources : Resources} {actions : Table String ActionSnapshot}

variable {platform : WorkflowPlatform} {snapshot : Snapshot}

/-! ## The order of the listed Runs -/

/-- The key of a step comes before the keys of its inner steps. -/
theorem workflowStepKey_le (jobName stepName inner : String) :
    workflowStepKey jobName stepName "" ≤ workflowStepKey jobName stepName inner := by
  unfold workflowStepKey
  rw [String.append_empty, ← not_lt, String.lt_iff_toList_lt, String.toList_append]
  exact List.not_lt.mpr List.le_append_left

/-- The listed children of one WorkflowRun stand in the order of their keys. -/
theorem pairwise_orderedRuns (uid : String) (runs : List ChildRun) :
    (orderedRuns (childRunsOf uid runs)).Pairwise fun first second =>
      first.stepKey < second.stepKey := by
  have sorted : (childRunsOf uid runs).sortedKeys.Pairwise (· < ·) := by
    have weakly : (childRunsOf uid runs).sortedKeys.Pairwise (· ≤ ·) :=
      List.pairwise_insertionSort _ _
    exact (weakly.and (Table.nodup_sortedKeys _)).imp fun both => lt_of_le_of_ne both.1 both.2
  unfold orderedRuns
  rw [List.pairwise_filterMap]
  apply sorted.imp
  intro first second below run found other otherFound
  rw [(lookup_childRunsOf found).2.2.1, (lookup_childRunsOf otherFound).2.2.1]
  exact below

/-! ## Runs that have had their effect -/

section Records

variable (runName : String) (phase : StepPhase) (outputs : Labels)

include runName phase outputs

theorem recordTerminalRunStatus_twice (step : StepStatus) :
    recordTerminalRunStatus runName phase outputs
        (recordTerminalRunStatus runName phase outputs step) =
      recordTerminalRunStatus runName phase outputs step := by
  unfold recordTerminalRunStatus
  by_cases other : step.runName ≠ "" ∧ step.runName ≠ runName
  · simp only [if_pos other]
  · simp [if_neg other]

theorem recordTerminalActionRunStatus_twice (step : ActionStepStatus) :
    recordTerminalActionRunStatus runName phase outputs
        (recordTerminalActionRunStatus runName phase outputs step) =
      recordTerminalActionRunStatus runName phase outputs step := by
  unfold recordTerminalActionRunStatus
  by_cases other : step.runName ≠ "" ∧ step.runName ≠ runName
  · simp only [if_pos other]
  · simp [if_neg other]

theorem name_recordTerminalActionRunStatus (step : ActionStepStatus) :
    (recordTerminalActionRunStatus runName phase outputs step).name = step.name := by
  unfold recordTerminalActionRunStatus
  split <;> rfl

end Records

theorem projectOntoStep_twice (run : ChildRun) (phase : StepPhase) (step : StepStatus) :
    projectOntoStep run phase (projectOntoStep run phase step) =
      projectOntoStep run phase step := by
  unfold projectOntoStep
  split
  · unfold StepStatus.onActionStep
    dsimp only
    rw [modifyFirst_modifyFirst]
    · intro inner
      rw [name_recordTerminalActionRunStatus]
    · exact recordTerminalActionRunStatus_twice _ _ _
  · exact recordTerminalRunStatus_twice _ _ _ step

/-- Two Runs for different positions of a step do not get in each other's way. -/
theorem projectOntoStep_of_apart {run other : ChildRun} {phase otherPhase : StepPhase}
    {step : StepStatus} (apart : run.actionStepName ≠ other.actionStepName)
    (idle : projectOntoStep run phase step = step) :
    projectOntoStep run phase (projectOntoStep other otherPhase step) =
      projectOntoStep other otherPhase step := by
  unfold projectOntoStep at idle ⊢
  by_cases inner : run.actionStepName ≠ ""
  · rw [if_pos inner] at idle ⊢
    have unchanged := congrArg StepStatus.actionSteps idle
    unfold StepStatus.onActionStep at unchanged ⊢
    dsimp only at unchanged
    split
    · dsimp only
      rw [modifyFirst_modifyFirst_of_apart _ _ unchanged]
      · intro item named
        rw [beq_eq_false_iff_ne, beq_iff_eq.mp named]
        exact apart
      · intro item
        rw [name_recordTerminalActionRunStatus]
    · unfold recordTerminalRunStatus
      split
      · rw [unchanged]
      · dsimp only
        rw [unchanged]
  · rw [if_neg inner] at idle ⊢
    have otherInner : other.actionStepName ≠ "" := by
      rw [not_not.mp inner] at apart
      exact apart.symm
    rw [if_pos otherInner]
    unfold StepStatus.onActionStep recordTerminalRunStatus at *
    dsimp only
    split at idle
    next recorded =>
      rw [if_pos recorded]
    rename_i free
    rw [if_neg free]
    rw [StepStatus.mk.injEq] at idle
    rw [StepStatus.mk.injEq]
    exact ⟨rfl, idle.2.1, idle.2.2.1, idle.2.2.2.1, rfl⟩

section Settling

variable {jobName : String} {names : List String} {i : Nat}

section Unspoiled

variable {run : ChildRun} (unspoiled : spoils platform jobName names i run = false)

include unspoiled

/-- What a Run does to a step, unless it spoils it. -/
theorem projectAt_eq :
    (∀ step, projectAt platform jobName names i step run = step) ∨
      (run.jobName = jobName ∧ names.findIdx? (· == run.stepName) = some i ∧ ∃ phase,
        terminalRunStepPhase run.phase = some phase ∧
        ∀ step, projectAt platform jobName names i step run = projectOntoStep run phase step) := by
  unfold projectAt
  cases terminal : terminalRunStepPhase run.phase with
  | none => exact .inl fun _ => rfl
  | some phase =>
    by_cases hit : run.jobName = jobName ∧ names.findIdx? (· == run.stepName) = some i
    · refine .inr ⟨hit.1, hit.2, phase, rfl, fun step => ?_⟩
      dsimp only
      rw [if_pos hit, projectEnd]
      split
      next unreadable =>
        simp [spoils, terminal, hit, unreadable] at unspoiled
      · rfl
    · exact .inl fun step => if_neg hit

theorem projectAt_twice (step : StepStatus) :
    projectAt platform jobName names i (projectAt platform jobName names i step run) run =
      projectAt platform jobName names i step run := by
  rcases projectAt_eq unspoiled with same | ⟨_, _, _, _, effect⟩
  · rw [same, same]
  · rw [effect, effect, projectOntoStep_twice]

/-- A Run without effect stays without effect when a Run with another key acts. -/
theorem projectAt_of_apart {other : ChildRun} {step : StepStatus}
    (otherUnspoiled : spoils platform jobName names i other = false)
    (apart : run.stepKey ≠ other.stepKey)
    (idle : projectAt platform jobName names i step run = step) :
    projectAt platform jobName names i (projectAt platform jobName names i step other) run =
      projectAt platform jobName names i step other := by
  rcases projectAt_eq unspoiled with same | ⟨job, position, _, _, effect⟩
  · rw [same]
  rcases projectAt_eq otherUnspoiled with same | ⟨otherJob, otherPosition, _, _, otherEffect⟩
  · rw [same, idle]
  rw [effect] at idle
  rw [otherEffect, effect]
  refine projectOntoStep_of_apart (fun sameInner => apart ?_) idle
  obtain ⟨_, here, _⟩ := List.findIdx?_eq_some_iff_getElem.mp position
  obtain ⟨_, otherHere, _⟩ := List.findIdx?_eq_some_iff_getElem.mp otherPosition
  rw [ChildRun.stepKey, ChildRun.stepKey, job, otherJob, sameInner, ← beq_iff_eq.mp here,
    ← beq_iff_eq.mp otherHere]

end Unspoiled

/-- After Runs with different keys have acted none of them has an effect any more. -/
theorem projectAt_foldl (apart : runs.Pairwise fun first second =>
      first.stepKey ≠ second.stepKey)
    (unspoiled : ∀ run ∈ runs, spoils platform jobName names i run = false)
    (step : StepStatus) {run : ChildRun} (mem : run ∈ runs) :
    projectAt platform jobName names i
        (runs.foldl (projectAt platform jobName names i) step) run =
      runs.foldl (projectAt platform jobName names i) step := by
  induction runs generalizing step with
  | nil => cases mem
  | cons first rest ih =>
    rw [List.pairwise_cons] at apart
    rw [List.foldl_cons]
    rcases List.mem_cons.mp mem with rfl | mem
    · -- an idle Run stays idle while the rest acts
      have mine := unspoiled _ (.head _)
      refine List.foldlRecOn (motive := fun step => projectAt platform jobName names i step _ =
        step) rest _ (projectAt_twice mine step) fun step idle other inside => ?_
      exact projectAt_of_apart mine (unspoiled other (.tail _ inside))
        (apart.1 other inside) idle
    · exact ih apart.2 (fun other inside => unspoiled other (.tail _ inside))
        _ mem

/-- A failed step stays failed while only inner Runs act. -/
theorem phase_foldl_of_failed {step : StepStatus} (failed : step.phase = .failed)
    (inner : ∀ run ∈ runs, run.jobName = jobName →
      names.findIdx? (· == run.stepName) = some i → run.actionStepName ≠ "") :
    (runs.foldl (projectAt platform jobName names i) step).phase = .failed := by
  refine List.foldlRecOn (motive := fun step : StepStatus => step.phase = .failed) runs _ failed ?_
  intro step failed run mem
  unfold projectAt
  split
  · exact failed
  split
  · rename_i hit
    unfold projectEnd
    split
    · rfl
    · rw [projectOntoStep, if_pos (inner run mem hit.1 hit.2)]
      exact failed
  · exact failed

/-- A step that does not fail is spoiled by no Run: the Run that could still record a
success comes before the Runs of inner steps. -/
theorem spoils_eq_false_of_foldl
    (sorted : runs.Pairwise fun first second => first.stepKey < second.stepKey)
    {step : StepStatus}
    (unfailed : (runs.foldl (projectAt platform jobName names i) step).phase ≠ .failed) :
    ∀ run ∈ runs, spoils platform jobName names i run = false := by
  intro run mem
  rw [← Bool.not_eq_true]
  intro spoiled
  obtain ⟨_, _, rfl⟩ := List.append_of_mem mem
  rw [List.pairwise_append, List.pairwise_cons] at sorted
  rw [List.foldl_append, List.foldl_cons] at unfailed
  apply unfailed
  simp only [spoils, Bool.and_eq_true, beq_iff_eq] at spoiled
  obtain ⟨⟨⟨terminal, job⟩, position⟩, unreadable⟩ := spoiled
  obtain ⟨_, terminal⟩ := Option.isSome_iff_exists.mp terminal
  apply phase_foldl_of_failed
  · unfold projectAt
    rw [terminal]
    dsimp only
    rw [if_pos ⟨job, position⟩, projectEnd]
    split
    · rfl
    rename_i readable
    rw [readable] at unreadable
    cases unreadable
  · intro other behind otherJob otherPosition outer
    obtain ⟨_, here, _⟩ := List.findIdx?_eq_some_iff_getElem.mp position
    obtain ⟨_, otherHere, _⟩ := List.findIdx?_eq_some_iff_getElem.mp otherPosition
    have below := sorted.2.1.1 other behind
    rw [ChildRun.stepKey, ChildRun.stepKey, job, otherJob, outer, ← beq_iff_eq.mp here,
      ← beq_iff_eq.mp otherHere] at below
    exact absurd below (not_lt.mpr (workflowStepKey_le _ _ _))

/-- An Action call that does not fail is decided once. -/
theorem deriveActionCallStatus_twice {spec : StepSpec} {step : StepStatus} {ctx : ResolveContext}
    (unfailed : (deriveActionCallStatus actions jobName spec step ctx).1.phase ≠ .failed)
    (other : ResolveContext) :
    (deriveActionCallStatus actions jobName spec
        (deriveActionCallStatus actions jobName spec step ctx).1 other).1 =
      (deriveActionCallStatus actions jobName spec step ctx).1 := by
  rcases deriveActionCallStatus_cases actions jobName spec step with same | failed | ⟨_, decided⟩
  · rw [same, same]
  · exact absurd (by rw [failed]) unfailed
  have succeeded : (deriveActionCallStatus actions jobName spec step ctx).1.phase = .succeeded := by
    rw [decided] at unfailed ⊢
    split at unfailed
    · exact absurd rfl unfailed
    · rfl
  rw [deriveActionCallStatus, if_pos (.inl succeeded)]

/-- A Run without effect on an Action call has none after the call is decided. -/
theorem projectAt_deriveActionCallStatus {spec : StepSpec} {step : StepStatus} {run : ChildRun}
    (unspoiled : spoils platform jobName names i run = false)
    (idle : projectAt platform jobName names i step run = step) (ctx : ResolveContext) :
    projectAt platform jobName names i
        (deriveActionCallStatus actions jobName spec step ctx).1 run =
      (deriveActionCallStatus actions jobName spec step ctx).1 := by
  rcases projectAt_eq unspoiled with same | ⟨_, _, phase, terminal, effect⟩
  · exact same _
  rw [effect] at idle ⊢
  obtain ⟨_, _, derived⟩ := deriveActionCallStatus_eq actions jobName spec step ctx
  by_cases inner : run.actionStepName ≠ ""
  · rw [projectOntoStep, if_pos inner] at idle ⊢
    have unchanged := congrArg StepStatus.actionSteps idle
    unfold StepStatus.onActionStep at unchanged ⊢
    dsimp only at unchanged
    rw [derived]
    dsimp only
    rw [unchanged]
  · rw [projectOntoStep, if_neg inner] at idle ⊢
    by_cases recorded : step.runName ≠ "" ∧ step.runName ≠ run.name
    · rw [derived]
      exact if_pos recorded
    -- the step shows the end of the Run, so the call is left alone
    have shown : step.phase = phase := by
      rw [recordTerminalRunStatus, if_neg recorded] at idle
      exact (congrArg StepStatus.phase idle).symm
    have ended : step.phase = .succeeded ∨ step.phase = .failed := by
      rw [shown]
      unfold terminalRunStepPhase at terminal
      split at terminal <;> cases terminal
      · exact .inl rfl
      all_goals exact .inr rfl
    rw [deriveActionCallStatus, if_pos ended]
    exact idle

end Settling

/-! ## Settled jobs -/

/-- At each position the pass over the Action calls decides a call or does nothing. -/
theorem ActionsDerived.cases {specs : List StepSpec} {before after : List StepStatus}
    (derived : ActionsDerived actions jobName specs before after) (i : Nat) :
    (∀ {spec}, specs[i]? = some spec → spec.uses = "") ∧ after[i]? = before[i]? ∨
      ∃ spec ctx, specs[i]? = some spec ∧ spec.uses ≠ "" ∧ after[i]? =
        before[i]?.map fun step => (deriveActionCallStatus actions jobName spec step ctx).1 := by
  by_cases calls : ∃ spec, specs[i]? = some spec ∧ spec.uses ≠ ""
  · obtain ⟨spec, specified, uses⟩ := calls
    obtain ⟨ctx, acted⟩ := derived.call specified uses
    exact .inr ⟨spec, ctx, specified, uses, acted⟩
  · have plain : ∀ {spec}, specs[i]? = some spec → spec.uses = "" := by
      intro spec specified
      by_contra uses
      exact calls ⟨spec, specified, uses⟩
    exact .inl ⟨plain, derived.inline plain⟩

/-- A job that neither the given Runs nor the given child WorkflowRuns change any
more. -/
structure SettledJob (platform : WorkflowPlatform) (snapshot : Snapshot)
    (runs : List ChildRun) (childWorkflows : Table String WorkflowRun) (jobName : String)
    (job : JobStatus) : Prop where
  projected : ∀ run ∈ runs, ∀ {index : Nat} {step : StepStatus}, job.steps[index]? = some step →
    projectAt platform jobName (job.steps.map StepStatus.name) index step run = step
  called : ∀ {index : Nat} {spec : StepSpec} {step : StepStatus},
    ((snapshot.jobs.lookup jobName).elim [] JobSpec.steps)[index]? = some spec →
    spec.uses ≠ "" → job.steps[index]? = some step →
    ∀ ctx, (deriveActionCallStatus snapshot.actions jobName spec step ctx).1 = step
  undecided : terminalJobPhase job = none
  uncalled : job.workflowRunName = "" ∨ childWorkflows.lookup job.workflowRunName = none

/-- A running job without a result is left alone. -/
theorem decideJob_of_undecided {jobs : JobSpecs} {childRuns : Table String ChildRun}
    (undecided : terminalJobPhase job = none) :
    (decideJob jobs childRuns jobName job).1 = job := by
  unfold decideJob
  rw [undecided]
  split <;> rfl

theorem decideCall_of_uncalled
    (uncalled : job.workflowRunName = "" ∨ childWorkflows.lookup job.workflowRunName = none) :
    (decideCall platform childWorkflows jobName job).1 = job := by
  unfold decideCall
  split
  · rfl
  rename_i running
  rw [not_or] at running
  rw [uncalled.resolve_left running.1]

/-- A derivation over some of the children leaves a settled job as it is. -/
theorem SettledJob.eq_of_derivedJob {next : JobStatus}
    (settled : SettledJob platform snapshot runs childWorkflows jobName job)
    (cancelled : resources.workflowRun.cancelRequested = true)
    (someRuns : ∀ run ∈ orderedRuns resources.childRuns, run ∈ runs)
    (someChildren : ∀ name, childWorkflows.lookup name = none →
      resources.childWorkflows.lookup name = none)
    (derived : DerivedJob platform resources snapshot jobName job next) : next = job := by
  rcases derived with @⟨steps, actions, _, last⟩
  have projected : projectRuns platform jobName (orderedRuns resources.childRuns) job = job := by
    apply projectRuns_eq_self
    intro i step listed
    refine List.foldlRecOn (motive := (· = step)) _ _ rfl ?_
    rintro _ rfl run mem
    exact settled.projected run (someRuns run mem) listed
  have same : steps = job.steps := by
    rw [projected] at actions
    apply List.ext_getElem?
    intro i
    rcases actions.cases i with ⟨_, inline⟩ | ⟨_, _, specified, uses, acted⟩
    · exact inline
    rw [acted]
    cases listed : job.steps[i]? with
    | none => rfl
    | some => rw [Option.map_some, settled.called specified uses listed]
  rw [last cancelled, same]
  change decidedJob platform resources jobName job = job
  rw [decidedJob, decideCall_of_uncalled (settled.uncalled.imp_right (someChildren _)),
    decideJob_of_undecided settled.undecided]

/-- A step of a job without a result has not failed. -/
theorem phase_ne_failed_of_undecided (undecided : terminalJobPhase job = none) {i : Nat}
    {step : StepStatus} (listed : job.steps[i]? = some step) :
    step.phase ≠ .failed := by
  intro failed
  have mem := List.mem_of_getElem? listed
  have fails : (job.steps.any fun step => step.phase == .failed) = true :=
    List.any_eq_true.mpr ⟨step, mem, beq_iff_eq.mpr failed⟩
  rw [terminalJobPhase, if_neg (List.ne_nil_of_mem mem), if_pos fails] at undecided
  cases undecided

/-- A job that is still running after both decisions has no result and no ended call. -/
theorem undecided_of_running (ended : ∀ {name child},
      resources.childWorkflows.lookup name = some child → child.status.phase.isTerminal = true)
    (running : (decidedJob platform resources jobName job).phase = .running) :
    decidedJob platform resources jobName job = job ∧ terminalJobPhase job = none ∧
      (job.workflowRunName = "" ∨ resources.childWorkflows.lookup job.workflowRunName = none) := by
  have called : (decideCall platform resources.childWorkflows jobName job).1 = job := by
    rcases decideCall_cases resources.childWorkflows jobName job with
      same | ⟨_, _, _, _, _, failed | ⟨_, _, succeeded⟩⟩
    · exact same
    · rw [decidedJob, failed, decideJob,
        if_pos (show JobPhase.failed ≠ .running by decide)] at running
      cases running
    rw [decidedJob, succeeded, decideJob,
      if_pos (show JobPhase.succeeded ≠ .running by decide)] at running
    cases running
  rw [decidedJob, called] at running
  have undecided : terminalJobPhase job = none := by
    cases terminal : terminalJobPhase job with
    | none => rfl
    | some =>
      unfold decideJob at running
      split at running
      next idle =>
        exact absurd running idle
      rw [terminal] at running
      dsimp only at running
      rcases terminalJobPhase_eq_some terminal with rfl | rfl
      · cases running
      · rw [if_neg (not_not.mpr rfl)] at running
        split at running <;> cases running
  have same : decidedJob platform resources jobName job = job := by
    rw [decidedJob, called, decideJob_of_undecided undecided]
  refine ⟨same, undecided, ?_⟩
  rw [decideJob_of_undecided undecided] at running
  by_contra pending
  rw [not_or] at pending
  obtain ⟨child, found⟩ := Option.ne_none_iff_exists'.mp pending.2
  have terminal := ended found
  unfold decideCall at called
  rw [if_neg (not_or.mpr ⟨pending.1, not_not.mpr running⟩), found] at called
  dsimp only at called
  split at called
  · split at called <;> exact absurd ((congrArg JobStatus.phase called).trans running) (by nofun)
  · exact absurd ((congrArg JobStatus.phase called).trans running) (by nofun)
  · exact absurd ((congrArg JobStatus.phase called).trans running) (by nofun)
  rename_i succeeded failed cancelled
  cases phase : child.status.phase with
  | succeeded => exact succeeded phase
  | failed => exact failed phase
  | cancelled => exact cancelled phase
  | unset | pending | running => rw [phase] at terminal; cases terminal

section Positions

variable {specs : List StepSpec} {after : List StepStatus} {before : List StepStatus}
  (derived : ActionsDerived actions jobName specs before after)

include derived

/-- The steps of a derived job: what the listed Runs make of a step, and for a call what
is then decided about it. -/
theorem ActionsDerived.getElem?_eq_some {i : Nat} {step : StepStatus}
    (listed : after[i]? = some step) :
    ∃ source, before[i]? = some source ∧
      (step = source ∧ (∀ {spec}, specs[i]? = some spec → spec.uses = "") ∨
        ∃ spec ctx, specs[i]? = some spec ∧
          step = (deriveActionCallStatus actions jobName spec source ctx).1) := by
  rcases derived.cases i with ⟨plain, inline⟩ | ⟨spec, ctx, specified, _, acted⟩
  · exact ⟨step, inline ▸ listed, .inl ⟨rfl, plain⟩⟩
  rw [acted] at listed
  obtain ⟨source, found, rfl⟩ := Option.map_eq_some_iff.mp listed
  exact ⟨source, found, .inr ⟨spec, ctx, specified, rfl⟩⟩

theorem ActionsDerived.names :
    after.map StepStatus.name = before.map StepStatus.name := by
  apply List.ext_getElem?
  intro i
  rw [List.getElem?_map, List.getElem?_map]
  rcases derived.cases i with ⟨_, inline⟩ | ⟨spec, ctx, _, _, acted⟩
  · rw [inline]
  rw [acted]
  cases before[i]? with
  | none => rfl
  | some source =>
    obtain ⟨_, _, same⟩ := deriveActionCallStatus_eq actions jobName spec source ctx
    rw [Option.map_some, Option.map_some, Option.map_some, same]

end Positions

/-- A job that is still running after a derivation over ended children is settled with
respect to them. -/
theorem DerivedJob.settledJob {next : JobStatus}
    (derived : DerivedJob platform resources snapshot jobName job next)
    (cancelled : resources.workflowRun.cancelRequested = true) (running : next.phase = .running)
    (sorted : (orderedRuns resources.childRuns).Pairwise fun first second =>
      first.stepKey < second.stepKey) (ended : ∀ {name child},
      resources.childWorkflows.lookup name = some child → child.status.phase.isTerminal = true) :
    SettledJob platform snapshot (orderedRuns resources.childRuns) resources.childWorkflows
      jobName next := by
  rcases derived with @⟨steps, actions, _, last⟩
  rw [last cancelled] at running ⊢
  obtain ⟨same, undecided, uncalled⟩ := undecided_of_running ended running
  rw [same]
  have names : steps.map StepStatus.name = job.steps.map StepStatus.name :=
    actions.names.trans (names_projectRuns _ _ _)
  -- a step that has not failed is what the Runs have made of it, none of them spoils it
  have source : ∀ {i step}, steps[i]? = some step →
      ∃ folded, (∀ run ∈ orderedRuns resources.childRuns,
          spoils platform jobName (steps.map StepStatus.name) i run = false ∧
          projectAt platform jobName (steps.map StepStatus.name) i folded run = folded) ∧
        (step = folded ∧ (∀ {spec},
            ((snapshot.jobs.lookup jobName).elim [] JobSpec.steps)[i]? = some spec →
              spec.uses = "") ∨
          ∃ spec ctx, ((snapshot.jobs.lookup jobName).elim [] JobSpec.steps)[i]? = some spec ∧
            step = (deriveActionCallStatus snapshot.actions jobName spec folded ctx).1) := by
    intro i step listed
    obtain ⟨folded, found, origin⟩ := actions.getElem?_eq_some listed
    refine ⟨folded, ?_, origin⟩
    have unfailed : step.phase ≠ .failed := phase_ne_failed_of_undecided undecided listed
    have foldedUnfailed : folded.phase ≠ .failed := by
      rcases origin with ⟨rfl, _⟩ | ⟨_, _, _, rfl⟩
      · exact unfailed
      intro failed
      rw [deriveActionCallStatus, if_pos (.inr failed)] at unfailed
      exact unfailed failed
    unfold projectRuns at found
    dsimp only at found
    rw [List.getElem?_mapIdx] at found
    obtain ⟨original, _, rfl⟩ := Option.map_eq_some_iff.mp found
    rw [← names] at foldedUnfailed ⊢
    have unspoiled := spoils_eq_false_of_foldl sorted foldedUnfailed
    intro run mem
    exact ⟨unspoiled run mem, projectAt_foldl (sorted.imp fun below => ne_of_lt below)
      unspoiled original mem⟩
  refine ⟨?_, ?_, undecided, uncalled⟩
  · intro run mem i step listed
    obtain ⟨_, idle, ⟨rfl, _⟩ | ⟨_, ctx, _, rfl⟩⟩ := source listed
    · exact (idle run mem).2
    · exact projectAt_deriveActionCallStatus (idle run mem).1 (idle run mem).2 ctx
  · intro i spec step specified uses listed other
    obtain ⟨_, _, ⟨_, inline⟩ | ⟨_, _, otherSpecified, rfl⟩⟩ := source listed
    · exact absurd (inline specified) uses
    · cases specified.symm.trans otherSpecified
      exact deriveActionCallStatus_twice (phase_ne_failed_of_undecided undecided listed) other

/-! ## Kept jobs -/

/-- A job that no pass decides: it is finished, or it waits and the cancellation is
requested. -/
def JobPhase.isIdle (phase : JobPhase) (cancelRequested : Bool) : Bool :=
  phase.isTerminal || phase.isWaiting && cancelRequested

theorem JobChange.of_isIdle {jobs : JobStatuses} {next : JobStatus}
    (change : JobChange platform resources jobs jobName job next)
    (idle : job.phase.isIdle resources.workflowRun.cancelRequested = true) :
    next.phase = job.phase ∧ next.outputs = job.outputs := by
  rcases change.phase with same | ⟨running, _⟩ | ⟨running, _⟩ | ⟨live, waits, _⟩
  · exact ⟨same.1, same.2.1⟩
  · rw [running] at idle; cases idle
  · rw [running] at idle; cases idle
  · rw [JobPhase.isIdle, live, JobPhase.isTerminal_of_isWaiting waits, Bool.and_false] at idle
    cases idle

/-- Two tables with the same jobs in the same phases and with the same outputs. -/
structure KeptJobs (before after : JobStatuses) : Prop where
  keys : after.keys = before.keys
  kept : ∀ {jobName : String} {job : JobStatus}, before.lookup jobName = some job →
    ∃ next, after.lookup jobName = some next ∧ next.phase = job.phase ∧ next.outputs = job.outputs

theorem KeptJobs.refl (jobs : JobStatuses) : KeptJobs jobs jobs :=
  ⟨rfl, fun found => ⟨_, found, rfl, rfl⟩⟩

theorem KeptJobs.trans {middle : JobStatuses} (first : KeptJobs before middle)
    (second : KeptJobs middle after) : KeptJobs before after := by
  refine ⟨second.keys.trans first.keys, fun found => ?_⟩
  obtain ⟨_, between, phase, outputs⟩ := first.kept found
  obtain ⟨next, last, lastPhase, lastOutputs⟩ := second.kept between
  exact ⟨next, last, lastPhase.trans phase, lastOutputs.trans outputs⟩

theorem exists_lookup_of_keys (keys : after.keys = before.keys) {next : JobStatus}
    (found : after.lookup jobName = some next) :
    ∃ job, before.lookup jobName = some job := by
  apply Option.isSome_iff_exists.mp
  rw [AList.lookup_isSome, AList.mem_keys, ← keys, ← AList.mem_keys, ← AList.lookup_isSome, found]
  rfl

/-- Every job afterwards was there before. -/
theorem KeptJobs.backward (jobs : KeptJobs before after) {next : JobStatus}
    (found : after.lookup jobName = some next) :
    ∃ job, before.lookup jobName = some job ∧ next.phase = job.phase := by
  obtain ⟨job, source⟩ := exists_lookup_of_keys jobs.keys found
  obtain ⟨_, last, phase, _⟩ := jobs.kept source
  cases found.symm.trans last
  exact ⟨job, source, phase⟩

section Passes

variable (passes : Relation.ReflTransGen (Pass platform resources) before after)

include passes

theorem keys_of_passes : after.keys = before.keys := by
  induction passes with
  | refl => rfl
  | tail _ pass ih => exact pass.keys.trans ih

/-- The passes leave idle jobs alone. -/
theorem exists_kept_of_passes (found : before.lookup jobName = some job)
    (idle : job.phase.isIdle resources.workflowRun.cancelRequested = true) :
    ∃ next, after.lookup jobName = some next ∧ next.phase = job.phase ∧
      next.outputs = job.outputs := by
  induction passes with
  | refl => exact ⟨job, found, rfl, rfl⟩
  | tail _ pass ih =>
    obtain ⟨_, between, phase, outputs⟩ := ih
    obtain ⟨next, last, rfl | change⟩ := pass.forward between
    · exact ⟨_, last, phase, outputs⟩
    · obtain ⟨samePhase, sameOutputs⟩ := change.of_isIdle (phase ▸ idle)
      exact ⟨next, last, samePhase.trans phase, sameOutputs.trans outputs⟩

theorem keptJobs_of_passes
    (idle : ∀ {jobName job}, before.lookup jobName = some job →
      job.phase.isIdle resources.workflowRun.cancelRequested = true) : KeptJobs before after :=
  ⟨keys_of_passes passes, fun found => exists_kept_of_passes passes found (idle found)⟩

end Passes

/-! ## The verdict -/

/-- The phase of a finished WorkflowRun agrees with its jobs. -/
structure Verdict (workflowRun : WorkflowRun) : Prop where
  finished : workflowRun.status.phase = .succeeded ∨ workflowRun.status.phase = .failed →
    ∀ {jobName : String} {job : JobStatus},
      workflowRun.status.jobTable.lookup jobName = some job → job.phase.isTerminal = true
  succeeded : workflowRun.status.phase = .succeeded → ∀ {jobName : String} {job : JobStatus},
    workflowRun.status.jobTable.lookup jobName = some job → job.phase ≠ .failed
  failed : workflowRun.status.phase = .failed → ∀ {jobName : String} {job : JobStatus},
    workflowRun.status.jobTable.lookup jobName = some job →
    ∃ name other, workflowRun.status.jobTable.lookup name = some other ∧ other.phase = .failed
  cancelled : workflowRun.status.phase = .cancelled → workflowRun.cancelRequested = true

/-- The last pass keeps the phase, or finds that all jobs are finished. -/
theorem deriveTerminalWorkflowRunStatus_cases (status : WorkflowRunStatus) :
    (deriveTerminalWorkflowRunStatus status).phase = status.phase ∨
      (∃ jobName job, status.jobTable.lookup jobName = some job) ∧
        (∀ {jobName job}, status.jobTable.lookup jobName = some job → job.phase.isTerminal = true) ∧
        ((deriveTerminalWorkflowRunStatus status).phase = .failed ∧
            (∃ jobName job, status.jobTable.lookup jobName = some job ∧ job.phase = .failed) ∨
          (deriveTerminalWorkflowRunStatus status).phase = .succeeded ∧
            ∀ {jobName job}, status.jobTable.lookup jobName = some job →
              job.phase ≠ .failed) := by
  unfold deriveTerminalWorkflowRunStatus
  split
  · exact .inl rfl
  rename_i present
  split
  next all =>
    obtain ⟨entry, mem⟩ := List.exists_mem_of_ne_nil _ present
    refine .inr ⟨⟨entry.1, entry.2, Table.mem_entries_iff.mp mem⟩,
      fun found => List.all_eq_true.mp all _ (Table.mem_entries_iff.mpr found), ?_⟩
    dsimp only
    split
    next some =>
      obtain ⟨entry, mem, failed⟩ := List.any_eq_true.mp some
      exact .inl ⟨rfl, entry.1, entry.2, Table.mem_entries_iff.mp mem, beq_iff_eq.mp failed⟩
    next none =>
      refine .inr ⟨rfl, fun found failed => none ?_⟩
      exact List.any_eq_true.mpr ⟨_, Table.mem_entries_iff.mpr found, beq_iff_eq.mpr failed⟩
  · exact .inl rfl

namespace Verdict

variable {resources : Resources}

section Derivations

variable (verdict : Verdict resources.workflowRun)

include verdict

theorem keptJobs (finished : resources.workflowRun.status.phase = .succeeded ∨
      resources.workflowRun.status.phase = .failed) :
    KeptJobs resources.workflowRun.status.jobTable
      (resources.deriveWorkflowRunStatus platform).jobTable := by
  refine keptJobs_of_passes pass_deriveWorkflowRunStatus fun found => ?_
  rw [JobPhase.isIdle, verdict.finished finished found, Bool.true_or]

/-- A verdict that stands still agrees with the jobs. -/
theorem of_phase_eq (same : (resources.deriveWorkflowRunStatus platform).phase =
      resources.workflowRun.status.phase) :
    Verdict { resources.workflowRun with
      status := resources.deriveWorkflowRunStatus platform } := by
  constructor
  · intro finished jobName job found
    rw [same] at finished
    obtain ⟨_, source, phase⟩ := (verdict.keptJobs finished).backward found
    rw [phase]
    exact verdict.finished finished source
  · intro succeeded jobName job found
    rw [same] at succeeded
    obtain ⟨_, source, phase⟩ := (verdict.keptJobs (.inl succeeded)).backward found
    rw [phase]
    exact verdict.succeeded succeeded source
  · intro failed jobName job found
    rw [same] at failed
    obtain ⟨_, source, _⟩ := (verdict.keptJobs (.inr failed)).backward found
    obtain ⟨name, _, stored, otherFailed⟩ := verdict.failed failed source
    obtain ⟨next, last, phase, _⟩ := (verdict.keptJobs (.inr failed)).kept stored
    exact ⟨name, next, last, phase.trans otherFailed⟩
  · intro cancelled
    rw [same] at cancelled
    exact verdict.cancelled cancelled

/-- A derivation gives a verdict that agrees with the jobs and keeps the one there is. -/
theorem derived :
    (resources.workflowRun.status.phase.isTerminal = true →
      (resources.deriveWorkflowRunStatus platform).phase = resources.workflowRun.status.phase) ∧
    Verdict { resources.workflowRun with
      status := resources.deriveWorkflowRunStatus platform } := by
  have same : (resources.deriveWorkflowRunStatus platform).phase =
      resources.workflowRun.status.phase →
      Verdict { resources.workflowRun with
        status := resources.deriveWorkflowRunStatus platform } := verdict.of_phase_eq
  have projected : (resources.projectedStatus platform).phase =
      resources.workflowRun.status.phase := passes_projectedStatus.phase
  by_cases cancelled : resources.workflowRun.cancelRequested = true
  · have derived : resources.deriveWorkflowRunStatus platform =
        deriveCancelledWorkflowRunStatus resources.childRuns resources.childWorkflows
          (resources.projectedStatus platform) := if_pos cancelled
    rw [derived] at same ⊢
    unfold deriveCancelledWorkflowRunStatus at same ⊢
    split
    next terminal =>
      rw [if_pos terminal] at same
      exact ⟨fun _ => projected, same projected⟩
    next live =>
      rw [if_neg live] at same
      split
      · refine ⟨fun terminal => ?_, ?_⟩
        · rw [projected] at live
          exact absurd terminal live
        · constructor
          · rintro (other | other) <;> cases other
          · nofun
          · nofun
          · exact fun _ => cancelled
      next active =>
        rw [if_neg active] at same
        exact ⟨fun _ => projected, same projected⟩
  · have derived : resources.deriveWorkflowRunStatus platform = deriveTerminalWorkflowRunStatus
          ((resources.projectedStatus platform).mapJobs deriveSkippedJobStatuses) :=
      if_neg cancelled
    have jobs : (resources.deriveWorkflowRunStatus platform).jobTable =
        ((resources.projectedStatus platform).mapJobs deriveSkippedJobStatuses).jobTable := by
      refine congrArg (Option.getD · ∅) (Resources.jobs_deriveWorkflowRunStatus.trans ?_)
      rw [Resources.decidedStatus, if_neg cancelled]
    rcases deriveTerminalWorkflowRunStatus_cases
      ((resources.projectedStatus platform).mapJobs deriveSkippedJobStatuses) with
      unchanged | ⟨⟨_, _, present⟩, finished, outcome⟩
    · rw [← derived] at unchanged
      have stays := unchanged.trans projected
      exact ⟨fun _ => stays, same stays⟩
    · rw [← jobs] at finished outcome present
      rw [← derived] at outcome
      refine ⟨fun terminal => ?_, ?_⟩
      · -- the jobs are those of the stored verdict
        cases phase : resources.workflowRun.status.phase with
        | succeeded =>
          rcases outcome with ⟨_, _, _, found, failed⟩ | ⟨succeeded, _⟩
          · obtain ⟨_, source, samePhase⟩ := (verdict.keptJobs (.inl phase)).backward found
            exact absurd (samePhase.symm.trans failed) (verdict.succeeded phase source)
          · exact succeeded
        | failed =>
          rcases outcome with ⟨failed, _⟩ | ⟨_, unfailed⟩
          · exact failed
          obtain ⟨_, source, _⟩ := (verdict.keptJobs (.inr phase)).backward present
          obtain ⟨_, _, stored, failed⟩ := verdict.failed phase source
          obtain ⟨_, last, samePhase, _⟩ := (verdict.keptJobs (.inr phase)).kept stored
          exact absurd (samePhase.trans failed) (unfailed last)
        | cancelled => exact absurd (verdict.cancelled phase) cancelled
        | unset | pending | running => rw [phase] at terminal; cases terminal
      · constructor
        · exact fun _ _ _ found => finished found
        · intro succeeded name other found
          rcases outcome with ⟨failed, _⟩ | ⟨_, unfailed⟩
          · exact absurd (succeeded.symm.trans failed) (by nofun)
          · exact unfailed found
        · intro failed _ _ _
          rcases outcome with ⟨_, some⟩ | ⟨succeeded, _⟩
          · exact some
          · exact absurd (failed.symm.trans succeeded) (by nofun)
        · intro phase
          rcases outcome with ⟨failed, _⟩ | ⟨succeeded, _⟩
          · exact absurd (phase.symm.trans failed) (by nofun)
          · exact absurd (phase.symm.trans succeeded) (by nofun)

end Derivations

end Verdict

/-! ## Verdicts of a run -/

theorem Verdict.of_live (live : workflowRun.status.phase.isTerminal = false) :
    Verdict workflowRun := by
  constructor
  · rintro (phase | phase) <;> rw [phase] at live <;> cases live
  · intro phase; rw [phase] at live; cases live
  · intro phase; rw [phase] at live; cases live
  · intro phase; rw [phase] at live; cases live

/-- A WorkflowRun without jobs has any verdict but a cancellation. -/
theorem Verdict.of_jobs_eq_none (empty : workflowRun.status.jobs = none)
    (phase : workflowRun.status.phase ≠ .cancelled) :
    Verdict workflowRun := by
  have none : ∀ {jobName job},
      workflowRun.status.jobTable.lookup jobName ≠ some job := by
    intro jobName job found
    rw [WorkflowRunStatus.jobTable, empty] at found
    cases found
  exact ⟨fun _ _ _ found => absurd found none, fun _ _ _ found => absurd found none,
    fun _ _ _ found => absurd found none, fun cancelled => absurd cancelled phase⟩

/-- A WorkflowRun whose targets are started goes on. -/
theorem isTerminal_foldl_startTarget {definitions : Definitions} (targets : List Target)
    {state : World × WorkflowRunStatus} (live : state.2.phase.isTerminal = false) :
    (targets.foldl (startTarget platform definitions resources snapshot)
      state).2.phase.isTerminal = false := by
  refine List.foldlRecOn (motive := fun state : World × WorkflowRunStatus =>
    state.2.phase.isTerminal = false) targets _ live ?_
  rintro state _ (_ | _) _ <;>
  · rw [startTarget]
    split <;> rfl

/-- A verdict stands, or that of the stored status does. -/
theorem Verdict.commit {other : World} {status : WorkflowRunStatus}
    (verdict : Verdict world.workflowRun) (same : SameOwner world other)
    (stored : Verdict { world.workflowRun with status := status }) (fate : Fate) :
    Verdict (other.commit fate status).workflowRun := by
  rw [← same.workflowRun] at verdict stored
  cases fate with
  | patched => exact stored
  | lost => exact verdict

theorem Verdict.reconciled (verdict : Verdict world.workflowRun)
    (outcome : Reconciled platform world next) : Verdict next.workflowRun := by
  have derived : Verdict { world.workflowRun with status := world.derivedStatus platform } :=
    (show Verdict world.resources.workflowRun from verdict).derived.2
  cases outcome with
  | unchanged | frozen => exact verdict
  | derived => exact derived
  | rejected fresh planned =>
    refine .of_jobs_eq_none ?_ (by nofun)
    exact World.jobs_derivedStatus_eq_none_iff.mpr
      (World.jobs_eq_none_of_initializeWorkflowRun planned)
  | initialized => exact .of_live rfl
  | @started definitions fate snapshot targets frozen planned =>
    refine verdict.commit (sameOwner_foldl_startTarget (fate.cut targets)
      (world, world.derivedStatus platform)) (.of_live ?_) fate
    exact isTerminal_foldl_startTarget _ (World.jobs_of_startRunnableTargets planned).1
  | @cancelled fate loaded planned =>
    obtain ⟨_, reached, same, _, outcome⟩ := exists_cancelChildren_eq platform world fate
    rw [outcome]
    exact verdict.commit same derived reached

theorem Verdict.step (verdict : Verdict world.workflowRun)
    (stepped : Workflow.step platform action world = some next) : Verdict next.workflowRun := by
  rcases untouched_of_step stepped with ⟨definitions, fate, _, rfl⟩ | untouched
  · exact verdict.reconciled (reconciled_reconcile platform definitions fate world)
  have status := untouched.status
  constructor
  · rw [status]; exact verdict.finished
  · rw [status]; exact verdict.succeeded
  · rw [status]; exact verdict.failed
  · intro cancelled
    rw [status] at cancelled
    exact untouched.cancelRequested (verdict.cancelled cancelled)

/-! ## What is kept -/

/-- Finished jobs keep their phases and outputs. -/
structure FinishedJobsKept (world next : World) : Prop where
  kept : ∀ {jobName : String} {job : JobStatus},
    world.workflowRun.status.jobTable.lookup jobName = some job → job.phase.isTerminal = true →
    ∃ after, next.workflowRun.status.jobTable.lookup jobName = some after ∧
      after.phase = job.phase ∧ after.outputs = job.outputs

/-- The phase, the jobs and their outputs stay as they are, and nothing is created. -/
structure Kept (world next : World) : Prop where
  phase : next.workflowRun.status.phase = world.workflowRun.status.phase
  jobs : KeptJobs world.workflowRun.status.jobTable next.workflowRun.status.jobTable
  log : next.log = world.log

theorem Kept.refl (world : World) : Kept world world := ⟨rfl, KeptJobs.refl _, rfl⟩

theorem Kept.trans {middle : World} (first : Kept world middle) (second : Kept middle next) :
    Kept world next :=
  ⟨second.phase.trans first.phase, first.jobs.trans second.jobs, second.log.trans first.log⟩

theorem FinishedJobsKept.of_status_eq (same : next.workflowRun.status = world.workflowRun.status) :
    FinishedJobsKept world next := by
  constructor
  intro jobName job found _
  rw [same]
  exact ⟨job, found, rfl, rfl⟩

theorem FinishedJobsKept.commit {other : World} {status : WorkflowRunStatus}
    (same : SameOwner world other) (stored : ∀ {jobName job},
      world.workflowRun.status.jobTable.lookup jobName = some job → job.phase.isTerminal = true →
      ∃ after, status.jobTable.lookup jobName = some after ∧ after.phase = job.phase ∧
        after.outputs = job.outputs) (fate : Fate) :
    FinishedJobsKept world (other.commit fate status) := by
  cases fate with
  | patched => exact ⟨stored⟩
  | lost => exact .of_status_eq (congrArg WorkflowRun.status same.workflowRun)

theorem FinishedJobsKept.reconciled (outcome : Reconciled platform world next) :
    FinishedJobsKept world next := by
  have derived : ∀ {jobName job},
      world.workflowRun.status.jobTable.lookup jobName = some job → job.phase.isTerminal = true →
      ∃ after, (world.derivedStatus platform).jobTable.lookup jobName = some after ∧
        after.phase = job.phase ∧ after.outputs = job.outputs := by
    intro jobName job found terminal
    apply exists_kept_of_passes (world.pass_derivedStatus platform) found
    rw [JobPhase.isIdle, terminal, Bool.true_or]
  have empty : world.plan platform = .initializeWorkflowRun → ∀ {jobName job},
      world.workflowRun.status.jobTable.lookup jobName ≠ some job := by
    intro planned jobName job found
    rw [WorkflowRunStatus.jobTable, World.jobs_eq_none_of_initializeWorkflowRun planned] at found
    cases found
  cases outcome with
  | unchanged | frozen => exact .of_status_eq rfl
  | derived => exact ⟨derived⟩
  | rejected fresh planned | initialized accepted planned =>
    exact ⟨fun found _ => absurd found (empty planned)⟩
  | @started definitions fate snapshot targets frozen planned =>
    obtain ⟨apart, runnable⟩ := World.cut_targets frozen planned fate
    refine .commit (sameOwner_foldl_startTarget (fate.cut targets)
      (world, world.derivedStatus platform)) ?_ fate
    intro jobName job found terminal
    apply foldl_startTarget (fun state => ∃ after, state.2.jobTable.lookup jobName =
      some after ∧ after.phase = job.phase ∧ after.outputs = job.outputs) _ apart runnable
    · exact derived found terminal
    · rintro state target ⟨after, here, phase, outputs⟩ ready
      obtain ⟨f, changed, _⟩ : ∃ f, (startTarget platform definitions world.resources snapshot
          state target).2.jobTable = state.2.jobTable.modify target.jobName f ∧ _ :=
        exists_modify_startTarget state target
      have other : jobName ≠ target.jobName := by
        rintro rfl
        have unfinished := ready.isTerminal here
        rw [phase, terminal] at unfinished
        cases unfinished
      exact ⟨after, by rw [changed, Table.lookup_modify_ne other, here], phase, outputs⟩
  | @cancelled fate loaded planned =>
    obtain ⟨_, reached, same, _, outcome⟩ := exists_cancelChildren_eq platform world fate
    rw [outcome]
    exact .commit same derived reached

theorem FinishedJobsKept.step (stepped : Workflow.step platform action world = some next) :
    FinishedJobsKept world next := by
  rcases untouched_of_step stepped with ⟨definitions, fate, _, rfl⟩ | untouched
  · exact .reconciled (reconciled_reconcile platform definitions fate world)
  · exact .of_status_eq untouched.status

/-- What a reconcile of a finished WorkflowRun does to its status: nothing, or it stores
what is derived. -/
theorem Reconciled.of_isTerminal (verdict : Verdict world.workflowRun)
    (terminal : world.workflowRun.status.phase.isTerminal = true)
    (outcome : Reconciled platform world next) :
    next.log = world.log ∧ (next.workflowRun.status = world.workflowRun.status ∨
        next.workflowRun.status = world.derivedStatus platform) := by
  have stays : (world.derivedStatus platform).phase.isTerminal = true := by
    have same : (world.derivedStatus platform).phase = world.workflowRun.status.phase :=
      (show Verdict world.resources.workflowRun from verdict).derived.1 terminal
    rw [same]
    exact terminal
  have initialized : world.plan platform ≠ .initializeWorkflowRun := by
    intro planned
    rw [(facts_of_plan planned).1] at stays
    cases stays
  cases outcome with
  | unchanged | frozen => exact ⟨rfl, .inl rfl⟩
  | derived => exact ⟨rfl, .inr rfl⟩
  | rejected fresh planned | initialized accepted planned => exact absurd planned initialized
  | started frozen planned =>
    rw [(World.jobs_of_startRunnableTargets planned).1] at stays
    cases stays
  | @cancelled fate loaded planned =>
    obtain ⟨patched, reached, same, log, outcome⟩ := exists_cancelChildren_eq platform world fate
    rw [outcome, patched.log_commit]
    cases reached with
    | patched => exact ⟨log, .inr rfl⟩
    | lost => exact ⟨log, .inl (congrArg WorkflowRun.status same.workflowRun)⟩

/-- A step keeps a finished WorkflowRun if the derivation keeps its jobs. -/
theorem Kept.step (verdict : Verdict world.workflowRun)
    (terminal : world.workflowRun.status.phase.isTerminal = true)
    (jobs : KeptJobs world.workflowRun.status.jobTable (world.derivedStatus platform).jobTable)
    (stepped : Workflow.step platform action world = some next) : Kept world next := by
  rcases untouched_of_step stepped with ⟨definitions, fate, _, rfl⟩ | untouched
  · obtain ⟨log, same | derived⟩ :=
      (reconciled_reconcile platform definitions fate world).of_isTerminal verdict terminal
    · exact ⟨by rw [same], by rw [same]; exact KeptJobs.refl _, log⟩
    refine ⟨?_, by rw [derived]; exact jobs, log⟩
    rw [derived]
    exact (show Verdict world.resources.workflowRun from verdict).derived.1 terminal
  · exact ⟨by rw [untouched.status], by rw [untouched.status]; exact KeptJobs.refl _, untouched.log⟩

/-! ## Cancelled workflows -/

/-- A listed child WorkflowRun is labelled with and controlled by the parent. -/
theorem lookup_childWorkflowsOf {uid name : String} {workflowRuns : List WorkflowRun}
    {child : WorkflowRun} (found : (childWorkflowsOf uid workflowRuns).lookup name = some child) :
    child ∈ workflowRuns ∧ label child.labels workflowRunUIDLabel = uid ∧
      child.controller = some uid ∧ child.name = name := by
  have inserted : ∀ {rest : List WorkflowRun} {table : Table String WorkflowRun},
      (rest.foldl (fun children child => children.insert child.name child) table).lookup name =
        some child → child ∈ rest ∧ child.name = name ∨ table.lookup name = some child := by
    intro rest
    induction rest with
    | nil => exact fun found => .inr found
    | cons first rest ih =>
      intro table found
      rcases ih found with ⟨mem, named⟩ | earlier
      · exact .inl ⟨.tail _ mem, named⟩
      by_cases same : name = first.name
      · rw [same, AList.lookup_insert] at earlier
        cases earlier
        exact .inl ⟨.head _, same.symm⟩
      · rw [AList.lookup_insert_ne same] at earlier
        exact .inr earlier
  rcases inserted found with ⟨mem, named⟩ | empty
  · rw [List.mem_filter, Bool.and_eq_true, beq_iff_eq, beq_iff_eq] at mem
    exact ⟨mem.1, mem.2.1, mem.2.2, named⟩
  · cases empty

namespace World

/-- The Run carries the UID of the WorkflowRun. -/
def ownsRun (world : World) (run : ChildRun) : Bool :=
  label run.labels workflowRunUIDLabel == world.workflowRun.uid

/-- The WorkflowRun is labelled with the UID and controlled by it. -/
def ownsWorkflowRun (world : World) (child : WorkflowRun) : Bool :=
  label child.labels workflowRunUIDLabel == world.workflowRun.uid &&
    child.controller == some world.workflowRun.uid

/-- Every version of a child, whether delivered or not, is what a reconcile loads for
its step or its call. -/
def loadsAll (world : World) : Bool :=
  ((versionsOf world.runs).all fun run => !world.ownsRun run ||
      world.resources.childRuns.lookup run.stepKey == some run) &&
    (versionsOf world.workflowRuns).all fun child => !world.ownsWorkflowRun child ||
      world.resources.childWorkflows.lookup child.name == some child

end World

/-- The condition under which a cancellation is final: it is stored when all children
are loaded, and afterwards nobody else creates children. -/
def Action.keepsCancelled (platform : WorkflowPlatform) (action : Action) (world : World) :
    Bool :=
  match action with
  | .reconcile _ .patched =>
    world.workflowRun.status.phase == .cancelled ||
      (world.derivedStatus platform).phase != .cancelled || world.loadsAll
  | .foreignRun run => world.workflowRun.status.phase != .cancelled || !world.ownsRun run
  | .foreignWorkflowRun child =>
    world.workflowRun.status.phase != .cancelled || !world.ownsWorkflowRun child
  | _ => true

/-- A cancelled WorkflowRun whose children have all ended, and whose running jobs are
settled with respect to them. -/
structure Quiet (platform : WorkflowPlatform) (world : World) (runs : List ChildRun)
    (childWorkflows : Table String WorkflowRun) : Prop where
  cancelRequested : world.workflowRun.cancelRequested = true
  knownRuns : ∀ run ∈ versionsOf world.runs, world.ownsRun run = true → run ∈ runs
  ended : ∀ run ∈ runs, run.phase.isTerminal = true
  knownWorkflowRuns : ∀ child ∈ versionsOf world.workflowRuns,
    world.ownsWorkflowRun child = true → childWorkflows.lookup child.name = some child
  workflowRunsEnded : ∀ {name : String} {child : WorkflowRun},
    childWorkflows.lookup name = some child → child.status.phase.isTerminal = true
  jobs : ∀ {jobName : String} {job : JobStatus},
    world.workflowRun.status.jobTable.lookup jobName = some job → job.phase = .running →
    ∃ snapshot, world.snapshot = some snapshot ∧
      SettledJob platform snapshot runs childWorkflows jobName job

/-- A cancellation is derived when all loaded children have ended. -/
theorem cancelled_of_derived (live : resources.workflowRun.status.phase ≠ .cancelled)
    (derived : (resources.deriveWorkflowRunStatus platform).phase = .cancelled) :
    resources.workflowRun.cancelRequested = true ∧
      (∀ {key run}, resources.childRuns.lookup key = some run → run.phase.isTerminal = true) ∧
      ∀ {name child}, resources.childWorkflows.lookup name = some child →
          child.status.phase.isTerminal = true := by
  have projected : (resources.projectedStatus platform).phase =
      resources.workflowRun.status.phase := passes_projectedStatus.phase
  by_cases cancelled : resources.workflowRun.cancelRequested = true
  · rw [Resources.deriveWorkflowRunStatus, if_pos cancelled] at derived
    unfold deriveCancelledWorkflowRunStatus at derived
    split at derived
    · exact absurd (projected.symm.trans derived) live
    split at derived
    next ended =>
      rw [Bool.and_eq_true, List.all_eq_true, List.all_eq_true] at ended
      exact ⟨cancelled, fun found => ended.1 _ (Table.mem_entries_iff.mpr found),
        fun found => ended.2 _ (Table.mem_entries_iff.mpr found)⟩
    · exact absurd (projected.symm.trans derived) live
  · rw [Resources.deriveWorkflowRunStatus, if_neg cancelled] at derived
    rcases deriveTerminalWorkflowRunStatus_cases
      ((resources.projectedStatus platform).mapJobs deriveSkippedJobStatuses) with
      same | ⟨_, _, ⟨failed, _⟩ | ⟨succeeded, _⟩⟩
    · exact absurd (projected.symm.trans (same.symm.trans derived)) live
    · exact absurd (derived.symm.trans failed) (by nofun)
    · exact absurd (derived.symm.trans succeeded) (by nofun)

/-- What is loaded of a quiet WorkflowRun has ended and is known. -/
theorem Quiet.loaded (quiet : Quiet platform world runs childWorkflows) :
    (∀ {key run}, world.resources.childRuns.lookup key = some run → run ∈ runs) ∧
      ∀ {name child},
        world.resources.childWorkflows.lookup name = some child →
          childWorkflows.lookup name = some child := by
  constructor
  · intro key run found
    obtain ⟨mem, labelled, _⟩ := lookup_childRunsOf found
    exact quiet.knownRuns run (mem_versionsOf_of_mem_listed mem) (beq_iff_eq.mpr labelled)
  · intro name child found
    obtain ⟨mem, labelled, controlled, named⟩ := lookup_childWorkflowsOf found
    rw [← named]
    apply quiet.knownWorkflowRuns child (mem_versionsOf_of_mem_listed mem)
    rw [World.ownsWorkflowRun, labelled, controlled, beq_self_eq_true, beq_self_eq_true,
      Bool.and_true]

/-- Children are asked to end only while one of them goes on. -/
theorem World.ne_requestChildCancellation (runsEnded : ∀ {key run},
      world.resources.childRuns.lookup key = some run → run.phase.isTerminal = true)
    (workflowRunsEnded : ∀ {name child},
      world.resources.childWorkflows.lookup name = some child →
        child.status.phase.isTerminal = true) :
    world.plan platform ≠ .requestChildCancellation := by
  intro planned
  rcases (Bool.or_eq_true _ _).mp (facts_of_plan planned) with running | running
  · obtain ⟨_, mem, live⟩ := List.any_eq_true.mp running
    rw [runsEnded (Table.mem_entries_iff.mp mem)] at live
    cases live
  · obtain ⟨_, mem, live⟩ := List.any_eq_true.mp running
    rw [workflowRunsEnded (Table.mem_entries_iff.mp mem)] at live
    cases live

theorem JobPhase.isIdle_of_ne_running {phase : JobPhase} (idle : phase ≠ .running) :
    phase.isIdle true = true := by
  cases phase <;> first | rfl | exact absurd rfl idle

/-- A derivation leaves the running jobs of a quiet WorkflowRun as they are. -/
theorem Quiet.lookup_derivedStatus (quiet : Quiet platform world runs childWorkflows)
    (found : world.workflowRun.status.jobTable.lookup jobName = some job)
    (running : job.phase = .running) :
    (world.derivedStatus platform).jobTable.lookup jobName = some job := by
  obtain ⟨snapshot, frozen, settled⟩ := quiet.jobs found running
  have frozenResources : world.resources.snapshot = some snapshot := frozen
  obtain ⟨next, last, derived⟩ := exists_derivedJob platform frozenResources found
  have same : next = job := by
    refine settled.eq_of_derivedJob quiet.cancelRequested ?_ ?_ derived
    · intro run mem
      obtain ⟨_, listed⟩ := mem_orderedRuns.mp mem
      exact quiet.loaded.1 listed
    · intro name missing
      by_contra present
      obtain ⟨_, listed⟩ := Option.ne_none_iff_exists'.mp present
      rw [quiet.loaded.2 listed] at missing
      cases missing
  exact same ▸ last

theorem Quiet.keptJobs (quiet : Quiet platform world runs childWorkflows) :
    KeptJobs world.workflowRun.status.jobTable (world.derivedStatus platform).jobTable := by
  refine ⟨keys_of_passes (world.pass_derivedStatus platform), fun {jobName job} found => ?_⟩
  by_cases running : job.phase = .running
  · exact ⟨job, quiet.lookup_derivedStatus found running, rfl, rfl⟩
  apply exists_kept_of_passes (world.pass_derivedStatus platform) found
  have cancelled : world.resources.workflowRun.cancelRequested = true := quiet.cancelRequested
  rw [cancelled]
  exact JobPhase.isIdle_of_ne_running running

/-- Storing a cancellation when everything is loaded makes the WorkflowRun quiet. -/
theorem World.quiet_of_loadsAll
    (loaded : world.snapshot = none → world.workflowRun.status.jobs = none)
    (live : world.workflowRun.status.phase ≠ .cancelled)
    (derived : (world.derivedStatus platform).phase = .cancelled) (all : world.loadsAll = true) :
    Quiet platform (world.withStatus (world.derivedStatus platform))
      (orderedRuns world.resources.childRuns) world.resources.childWorkflows := by
  have liveResources : world.resources.workflowRun.status.phase ≠ .cancelled := live
  obtain ⟨cancelled, runsEnded, workflowRunsEnded⟩ := cancelled_of_derived liveResources derived
  unfold World.loadsAll at all
  rw [Bool.and_eq_true, List.all_eq_true, List.all_eq_true] at all
  refine ⟨cancelled, ?_, ?_, ?_, workflowRunsEnded, ?_⟩
  · intro run mem owned
    have known := all.1 run mem
    rw [show world.ownsRun run = true from owned, Bool.not_true, Bool.false_or] at known
    exact mem_orderedRuns.mpr ⟨_, beq_iff_eq.mp known⟩
  · intro run mem
    obtain ⟨_, listed⟩ := mem_orderedRuns.mp mem
    exact runsEnded listed
  · intro child mem owned
    have known := all.2 child mem
    rw [show world.ownsWorkflowRun child = true from owned, Bool.not_true, Bool.false_or] at known
    exact beq_iff_eq.mp known
  · intro jobName job found running
    obtain ⟨_, source⟩ := exists_lookup_of_keys
      (keys_of_passes (world.pass_derivedStatus platform)) found
    cases frozen : world.snapshot with
    | none =>
      rw [WorkflowRunStatus.jobTable, loaded frozen] at source
      cases source
    | some snapshot =>
      have frozenResources : world.resources.snapshot = some snapshot := frozen
      obtain ⟨_, last, derivedJob⟩ := exists_derivedJob platform frozenResources source
      cases found.symm.trans last
      exact ⟨snapshot, frozen, derivedJob.settledJob cancelled running
        (pairwise_orderedRuns _ _) workflowRunsEnded⟩

/-- A reconcile keeps a quiet WorkflowRun quiet. -/
theorem Quiet.reconciled (quiet : Quiet platform world runs childWorkflows)
    (outcome : Reconciled platform world next) :
    Quiet platform next runs childWorkflows := by
  have requested : world.workflowRun.cancelRequested = true := quiet.cancelRequested
  have notFresh : world.plan platform ≠ .initializeWorkflowRun := by
    intro planned
    cases requested.symm.trans (facts_of_plan planned).2.1
  cases outcome with
  | unchanged => exact quiet
  | derived =>
    refine ⟨quiet.cancelRequested, quiet.knownRuns, quiet.ended, quiet.knownWorkflowRuns,
      quiet.workflowRunsEnded, ?_⟩
    intro jobName job found running
    obtain ⟨before, source⟩ := exists_lookup_of_keys
      (keys_of_passes (world.pass_derivedStatus platform)) found
    have beforeRunning : before.phase = .running := by
      by_contra idle
      have idleResources : before.phase.isIdle world.resources.workflowRun.cancelRequested =
          true := by
        rw [show world.resources.workflowRun.cancelRequested = true from requested]
        exact JobPhase.isIdle_of_ne_running idle
      obtain ⟨_, last, same, _⟩ := exists_kept_of_passes
        (world.pass_derivedStatus platform) source idleResources
      cases found.symm.trans last
      exact idle (same.symm.trans running)
    cases found.symm.trans (quiet.lookup_derivedStatus source beforeRunning)
    exact quiet.jobs source running
  | rejected fresh planned | initialized accepted planned => exact absurd planned notFresh
  | frozen fresh uninitialized =>
    refine ⟨quiet.cancelRequested, quiet.knownRuns, quiet.ended, quiet.knownWorkflowRuns,
      quiet.workflowRunsEnded, fun found => ?_⟩
    rw [WorkflowRunStatus.jobTable, uninitialized] at found
    cases found
  | started frozen planned =>
    rw [(World.jobs_of_startRunnableTargets planned).2.1] at requested
    cases requested
  | cancelled loaded planned =>
    exact absurd planned (World.ne_requestChildCancellation
      (fun found => quiet.ended _ (quiet.loaded.1 found))
      fun found => quiet.workflowRunsEnded (quiet.loaded.2 found))

/-- New versions of objects keep a quiet WorkflowRun quiet unless they are children. -/
theorem Quiet.of_untouched (quiet : Quiet platform world runs childWorkflows)
    (untouched : Untouched world next)
    (newRuns : ∀ run ∈ versionsOf next.runs, run ∈ versionsOf world.runs ∨
      world.ownsRun run = false) (newWorkflowRuns : ∀ child ∈ versionsOf next.workflowRuns,
      child ∈ versionsOf world.workflowRuns ∨ world.ownsWorkflowRun child = false) :
    Quiet platform next runs childWorkflows := by
  refine ⟨untouched.cancelRequested quiet.cancelRequested, ?_, quiet.ended, ?_,
    quiet.workflowRunsEnded, ?_⟩
  · intro run mem owned
    rw [World.ownsRun, untouched.uid] at owned
    rcases newRuns run mem with old | foreign
    · exact quiet.knownRuns run old owned
    · exact absurd owned (Bool.eq_false_iff.mp foreign)
  · intro child mem owned
    rw [World.ownsWorkflowRun, untouched.uid] at owned
    rcases newWorkflowRuns child mem with old | foreign
    · exact quiet.knownWorkflowRuns child old owned
    · exact absurd owned (Bool.eq_false_iff.mp foreign)
  · rw [untouched.status, untouched.snapshot]
    exact quiet.jobs

/-- An allowed step keeps a cancelled and quiet WorkflowRun quiet. -/
theorem Quiet.step (quiet : Quiet platform world runs childWorkflows)
    (cancelled : world.workflowRun.status.phase = .cancelled)
    (allowed : action.keepsCancelled platform world = true)
    (stepped : Workflow.step platform action world = some next) :
    Quiet platform next runs childWorkflows := by
  rcases untouched_of_step stepped with ⟨definitions, fate, _, rfl⟩ | untouched
  · exact quiet.reconciled (reconciled_reconcile platform definitions fate world)
  have old : ∀ {α : Type} {objects : Table String (Watched (Option α))} {test : α → Bool},
      ∀ version ∈ versionsOf objects, version ∈ versionsOf objects ∨ test version = false :=
    fun _ mem => .inl mem
  cases action with
  | reconcile definitions fate =>
    cases stepped
    exact quiet.reconciled (reconciled_reconcile platform definitions fate world)
  | runProgress =>
    obtain ⟨run, found, changed⟩ := Option.bind_eq_some_iff.mp stepped
    split at changed
    · cases changed
    rename_i unfinished
    cases changed
    refine quiet.of_untouched untouched (fun version mem => ?_) old
    refine (mem_versionsOf_storeVersion mem).imp_right fun new => ?_
    cases new
    rw [← Bool.not_eq_true]
    intro owned
    exact unfinished (quiet.ended run (quiet.knownRuns run (mem_versionsOf_of_stored found) owned))
  | workflowRunProgress =>
    obtain ⟨child, found, changed⟩ := Option.bind_eq_some_iff.mp stepped
    split at changed
    · cases changed
    rename_i unfinished
    cases changed
    refine quiet.of_untouched untouched old fun version mem => ?_
    refine (mem_versionsOf_storeVersion mem).imp_right fun new => ?_
    cases new
    rw [← Bool.not_eq_true]
    intro owned
    exact unfinished (quiet.workflowRunsEnded
      (quiet.knownWorkflowRuns child (mem_versionsOf_of_stored found) owned))
  | deliverRun =>
    obtain ⟨_, moved, rfl⟩ := Option.map_eq_some_iff.mp stepped
    exact quiet.of_untouched untouched
      (fun _ mem => .inl (mem_versionsOf_of_deliverVersion moved mem)) old
  | deliverWorkflowRun =>
    obtain ⟨_, moved, rfl⟩ := Option.map_eq_some_iff.mp stepped
    exact quiet.of_untouched untouched old
      fun _ mem => .inl (mem_versionsOf_of_deliverVersion moved mem)
  | deleteRun =>
    obtain ⟨_, _, rfl⟩ := Option.map_eq_some_iff.mp stepped
    refine quiet.of_untouched untouched (fun version mem => ?_) old
    exact (mem_versionsOf_storeVersion mem).imp_right fun new => (by cases new)
  | deleteWorkflowRun =>
    obtain ⟨_, _, rfl⟩ := Option.map_eq_some_iff.mp stepped
    refine quiet.of_untouched untouched old fun version mem => ?_
    exact (mem_versionsOf_storeVersion mem).imp_right fun new => (by cases new)
  | foreignRun =>
    simp only [Workflow.step] at stepped
    split at stepped
    · cases stepped
    cases stepped
    refine quiet.of_untouched untouched (fun version mem => ?_) old
    refine (mem_versionsOf_storeVersion mem).imp_right fun new => ?_
    cases new
    simpa [Action.keepsCancelled, cancelled] using allowed
  | foreignWorkflowRun =>
    simp only [Workflow.step] at stepped
    split at stepped
    · cases stepped
    cases stepped
    refine quiet.of_untouched untouched old fun version mem => ?_
    refine (mem_versionsOf_storeVersion mem).imp_right fun new => ?_
    cases new
    simpa [Action.keepsCancelled, cancelled] using allowed
  | cancel | delete => cases stepped; exact quiet.of_untouched untouched old old

/-- A reconcile whose patch is lost stores no status. -/
theorem status_reconcile_lost (platform : WorkflowPlatform) (definitions : Definitions)
    (writes : Nat) (world : World) :
    (reconcile platform definitions (.lost writes) world).workflowRun.status =
      world.workflowRun.status := by
  unfold reconcile
  split
  · rfl
  split
  · rfl
  dsimp only
  split
  · rfl
  · rfl
  · split
    · rfl
    · split <;> rfl
  · change (List.foldl _ _ _ : World × WorkflowRunStatus).1.workflowRun.status = _
    rw [(sameOwner_foldl_startTarget _ _).workflowRun]
  · rfl
  · unfold World.cancelChildren
    dsimp only
    split
    all_goals
      exact congrArg WorkflowRun.status (sameOwner_foldl_requestCancellation _ _).1.workflowRun

/-- A reconcile that stores a cancellation stores what it has derived and does nothing
else. -/
theorem Reconciled.of_cancelled (outcome : Reconciled platform world next)
    (live : world.workflowRun.status.phase ≠ .cancelled)
    (cancelled : next.workflowRun.status.phase = .cancelled) :
    (world.snapshot = none → world.workflowRun.status.jobs = none) ∧
      next = world.withStatus (world.derivedStatus platform) := by
  cases outcome with
  | unchanged | frozen => exact absurd cancelled live
  | derived loaded => exact ⟨loaded, rfl⟩
  | rejected | initialized => cases cancelled
  | @started definitions fate snapshot targets frozen planned =>
    cases fate with
    | patched =>
      have stays := World.jobs_of_startRunnableTargets planned
      change (List.foldl _ _ _ : World × WorkflowRunStatus).2.phase = _ at cancelled
      have goesOn : WorkflowPhase.cancelled.isTerminal = false :=
        cancelled ▸ isTerminal_foldl_startTarget _ stays.1
      cases goesOn
    | lost =>
      change (List.foldl _ _ _ : World × WorkflowRunStatus).1.workflowRun.status.phase = _
        at cancelled
      rw [(sameOwner_foldl_startTarget _ _).workflowRun] at cancelled
      exact absurd cancelled live
  | @cancelled fate loaded planned =>
    obtain ⟨_, reached, same, _, outcome⟩ := exists_cancelChildren_eq platform world fate
    rw [outcome] at cancelled
    cases reached with
    | patched =>
      have liveResources : world.resources.workflowRun.status.phase ≠ .cancelled := live
      obtain ⟨_, runsEnded, workflowRunsEnded⟩ := cancelled_of_derived liveResources cancelled
      exact absurd planned (World.ne_requestChildCancellation runsEnded workflowRunsEnded)
    | lost => exact absurd (same.workflowRun ▸ cancelled) live

/-- Every cancelled state of an allowed run is quiet. -/
def World.QuietIfCancelled (platform : WorkflowPlatform) (world : World) : Prop :=
  world.workflowRun.status.phase = .cancelled →
    ∃ runs childWorkflows, Quiet platform world runs childWorkflows

theorem World.QuietIfCancelled.step (quiet : world.QuietIfCancelled platform)
    (allowed : action.keepsCancelled platform world = true)
    (stepped : Workflow.step platform action world = some next) :
    next.QuietIfCancelled platform := by
  intro cancelled
  by_cases already : world.workflowRun.status.phase = .cancelled
  · obtain ⟨runs, childWorkflows, still⟩ := quiet already
    exact ⟨runs, childWorkflows, still.step already allowed stepped⟩
  rcases untouched_of_step stepped with ⟨definitions, fate, rfl, rfl⟩ | untouched
  · cases fate with
    | lost =>
      rw [status_reconcile_lost] at cancelled
      exact absurd cancelled already
    | patched =>
      obtain ⟨loaded, same⟩ := (reconciled_reconcile platform definitions .patched
        world).of_cancelled already cancelled
      rw [same] at cancelled ⊢
      have derived : (world.derivedStatus platform).phase = .cancelled := cancelled
      refine ⟨_, _, world.quiet_of_loadsAll loaded already derived ?_⟩
      simpa [Action.keepsCancelled, already, derived] using allowed
  · rw [untouched.status] at cancelled
    exact absurd cancelled already

/-! ## Whole runs -/

theorem FinishedJobsKept.trans {middle : World} (first : FinishedJobsKept world middle)
    (second : FinishedJobsKept middle next) : FinishedJobsKept world next := by
  constructor
  intro jobName job found terminal
  obtain ⟨_, here, phase, outputs⟩ := first.kept found terminal
  obtain ⟨after, last, lastPhase, lastOutputs⟩ := second.kept here (phase ▸ terminal)
  exact ⟨after, last, lastPhase.trans phase, lastOutputs.trans outputs⟩

/-- A derivation keeps the jobs of a finished WorkflowRun. -/
theorem keptJobs_derivedStatus (verdict : Verdict world.workflowRun)
    (terminal : world.workflowRun.status.phase.isTerminal = true)
    (quiet : world.QuietIfCancelled platform) :
    KeptJobs world.workflowRun.status.jobTable (world.derivedStatus platform).jobTable := by
  have verdictResources : Verdict world.resources.workflowRun := verdict
  cases phase : world.workflowRun.status.phase with
  | succeeded => exact verdictResources.keptJobs (.inl phase)
  | failed => exact verdictResources.keptJobs (.inr phase)
  | cancelled =>
    obtain ⟨_, _, still⟩ := quiet phase
    exact still.keptJobs
  | unset | pending | running => rw [phase] at terminal; cases terminal

theorem verdict_initial (workflowRun : WorkflowRun) :
    Verdict (World.initial workflowRun).workflowRun :=
  .of_live rfl

theorem verdict_of_run {actions : List Action}
    (ran : run (step platform) actions (World.initial workflowRun) = some world) :
    Verdict world.workflowRun :=
  @invariant_of_run _ _ _ _ _ (step platform) (fun world => Verdict world.workflowRun)
    (fun verdict stepped => verdict.step stepped) (verdict_initial workflowRun) ran

/-- What is kept through the steps that allow it. -/
theorem kept_of_guarded_run {earlier later : List Action} {final : World}
    (ran : run (restrict (fun action world => action.keepsCancelled platform world = true)
      (step platform)) earlier (World.initial workflowRun) = some world)
    (terminal : world.workflowRun.status.phase.isTerminal = true)
    (continued : run (restrict (fun action world => action.keepsCancelled platform world = true)
      (step platform)) later world = some final) :
    final.QuietIfCancelled platform ∧ Kept world final := by
  have quiet : world.QuietIfCancelled platform :=
    invariant_of_guarded_run _ _ (fun world => world.QuietIfCancelled platform)
      (fun allowed quiet stepped => quiet.step allowed stepped) (fun phase => (by cases phase))
      ran
  have verdict : Verdict world.workflowRun := verdict_of_run (run_of_run_restrict _ _ ran)
  have all : Verdict final.workflowRun ∧ final.QuietIfCancelled platform ∧ Kept world final := by
    refine invariant_of_guarded_run _ _ (fun middle => Verdict middle.workflowRun ∧
      middle.QuietIfCancelled platform ∧ Kept world middle) ?_
      ⟨verdict, quiet, Kept.refl world⟩ continued
    rintro _ middle _ allowed ⟨verdict, quiet, kept⟩ stepped
    have terminalMiddle : middle.workflowRun.status.phase.isTerminal = true := kept.phase ▸ terminal
    exact ⟨verdict.step stepped, quiet.step allowed stepped,
      kept.trans (.step verdict terminalMiddle
        (keptJobs_derivedStatus verdict terminalMiddle quiet) stepped)⟩
  exact all.2

/-- Finished jobs keep their phases in every run, and a WorkflowRun that has succeeded or
failed stays as it is; so does a cancelled one, if the steps of the run allow it. -/
theorem kept_of_run {workflowRun : WorkflowRun} {earlier later : List Action} {world final : World}
    (ran : run (step platform) earlier (World.initial workflowRun) = some world)
    (continued : run (step platform) later world = some final) :
    FinishedJobsKept world final ∧ (world.workflowRun.status.phase.isTerminal = true →
        world.workflowRun.status.phase ≠ .cancelled ∨
          run (restrict (fun action world => action.keepsCancelled platform world = true)
            (step platform)) (earlier ++ later) (World.initial workflowRun) = some final →
        Kept world final) := by
  refine ⟨?_, fun terminal condition => ?_⟩
  · refine @invariant_of_run _ _ _ _ _ (step platform) (FinishedJobsKept world)
      (fun kept stepped => kept.trans (.step stepped)) (.of_status_eq rfl) continued
  · rcases condition with uncancelled | allowed
    · have both : Verdict final.workflowRun ∧ Kept world final := by
        refine @invariant_of_run _ _ _ _ _ (step platform)
          (fun middle => Verdict middle.workflowRun ∧ Kept world middle) ?_
          ⟨verdict_of_run ran, Kept.refl world⟩ continued
        rintro _ middle _ ⟨verdict, kept⟩ stepped
        have terminalMiddle : middle.workflowRun.status.phase.isTerminal = true :=
          kept.phase ▸ terminal
        have quiet : middle.QuietIfCancelled platform := fun cancelled =>
          absurd (kept.phase.symm.trans cancelled) uncancelled
        exact ⟨verdict.step stepped, kept.trans (.step verdict terminalMiddle
          (keptJobs_derivedStatus verdict terminalMiddle quiet) stepped)⟩
      exact both.2
    · rw [run_append] at allowed
      obtain ⟨_, first, last⟩ := Option.bind_eq_some_iff.mp allowed
      cases ran.symm.trans (run_of_run_restrict _ _ first)
      exact (kept_of_guarded_run first terminal last).2

/-- The pipeline is cancelled between the two steps of `build`. -/
def cancelledBetween : List Action :=
  [reconcileOnce, reconcileOnce] ++ finishRun "ci-build/get/" .succeeded ++ [.cancel, reconcileOnce]

/-- The Run of the first step is deleted later. -/
def cleanedUp : List Action :=
  [.deleteRun "ci-build/get/", .deliverRun "ci-build/get/", reconcileOnce]

theorem kept_cleanedUp :
    ∃ world final,
      run (step samplePlatform) cancelledBetween (World.initial pipeline) = some world ∧
      run (step samplePlatform) cleanedUp world = some final ∧
      world.workflowRun.status.phase = .cancelled ∧ Kept world final := by
  have evaluated : ((run (step samplePlatform) cancelledBetween (World.initial pipeline)).any
      fun world => world.workflowRun.status.phase == .cancelled &&
        (run (step samplePlatform) cleanedUp world).isSome) = true := by decide +kernel
  have allowed : (run (restrict (fun action world =>
      action.keepsCancelled samplePlatform world = true) (step samplePlatform))
        (cancelledBetween ++ cleanedUp) (World.initial pipeline)).isSome = true := by
    decide +kernel
  obtain ⟨world, ran, facts⟩ := (Option.any_eq_true _ _).mp evaluated
  rw [Bool.and_eq_true, beq_iff_eq] at facts
  obtain ⟨final, continued⟩ := Option.isSome_iff_exists.mp facts.2
  obtain ⟨other, restricted⟩ := Option.isSome_iff_exists.mp allowed
  have same : other = final := by
    have whole := run_of_run_restrict _ _ restricted
    rw [run_append, ran, Option.bind_some] at whole
    exact Option.some.inj (whole.symm.trans continued)
  refine ⟨world, final, ran, continued, facts.1, ?_⟩
  exact (kept_of_run ran continued).2 (by rw [facts.1]; rfl) (.inr (same ▸ restricted))

/-- The pipeline is cancelled before the informer knows the Run of its first step. -/
def cancelledBlindly : List Action :=
  [reconcileOnce, reconcileOnce, .cancel, reconcileOnce]

/-- That Run fails. -/
def failsLate : List Action :=
  finishRun "ci-build/get/" .failed ++ [reconcileOnce]

/-- A running job of a cancelled WorkflowRun fails afterwards. -/
theorem exists_not_kept :
    ∃ world final,
      run (step samplePlatform) cancelledBlindly (World.initial pipeline) = some world ∧
      run (step samplePlatform) failsLate world = some final ∧
      world.workflowRun.status.phase.isTerminal = true ∧ ¬ Kept world final := by
  have evaluated : ((run (step samplePlatform) cancelledBlindly (World.initial pipeline)).any
      fun world => world.workflowRun.status.phase.isTerminal &&
        (world.workflowRun.status.jobTable.lookup "build").any (·.phase == .running) &&
        (run (step samplePlatform) failsLate world).any fun final =>
          (final.workflowRun.status.jobTable.lookup "build").any (·.phase == .failed)) =
            true := by decide +kernel
  obtain ⟨world, ran, facts⟩ := (Option.any_eq_true _ _).mp evaluated
  rw [Bool.and_eq_true, Bool.and_eq_true] at facts
  obtain ⟨⟨terminal, running⟩, failing⟩ := facts
  obtain ⟨final, continued, failed⟩ := (Option.any_eq_true _ _).mp failing
  refine ⟨world, final, ran, continued, terminal, fun kept => ?_⟩
  obtain ⟨_, found, phase⟩ := (Option.any_eq_true _ _).mp running
  obtain ⟨_, last, lastPhase⟩ := (Option.any_eq_true _ _).mp failed
  obtain ⟨_, here, same, _⟩ := kept.jobs.kept found
  cases last.symm.trans here
  rw [beq_iff_eq.mp phase, beq_iff_eq.mp lastPhase] at same
  cases same

end Kruntimes.Workflow
