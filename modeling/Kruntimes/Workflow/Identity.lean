import Kruntimes.Workflow.Ordering

/-!
# Logical steps and their Runs

A logical step is an inline step of a job or an inner step of an Action that a step
of a job calls.  Its Run is found again by name, by the key made of its labels, and
by the first step with the name that the labels give.

All three identify a step by its name, so they tell the logical steps of a snapshot
apart exactly when the names do.  Nothing rejects a job two of whose steps have one
name; for names that the API admits that is the only way to confuse two logical
steps.
-/

namespace Kruntimes.Workflow

open Api Data Transition

variable {phase : StepPhase} {workflowRunName jobName : String} {step : LogicalStep}
  {run : ChildRun}

/-! ## Logical steps -/

/-- A step of a job, or an inner step of an Action, that is executed by a Run. -/
structure LogicalStep where
  target : StepTarget
  stepName : String
  actionStepName : String
  deriving DecidableEq

namespace LogicalStep

/-- The text whose digest ends the name of the Run. -/
def text (step : LogicalStep) : String :=
  step.target.jobName ++ "/" ++ step.stepName ++ "/" ++ step.actionStepName

/-- The key that the labels of the Run make up. -/
def key (step : LogicalStep) : String :=
  workflowStepKey step.target.jobName step.stepName step.actionStepName

/-- The labels of the Run. -/
def labels (step : LogicalStep) (uid : String) : Labels :=
  workflowStepLabels uid step.target.jobName step.stepName step.actionStepName

/-- The name of the Run. -/
def runName (platform : WorkflowPlatform) (workflowRunName : String) (step : LogicalStep) :
    String :=
  workflowStepRunName platform workflowRunName step.target.jobName step.stepName step.actionStepName

end LogicalStep

/-- The logical steps behind one step of a job. -/
def stepLogicalSteps (actions : Table String ActionSnapshot) (jobName : String)
    (indexed : StepSpec × Nat) : List LogicalStep :=
  if indexed.1.uses = "" then [⟨⟨jobName, indexed.2, 0⟩, indexed.1.name, ""⟩]
  else
    ((actions.lookup (workflowActionSnapshotKey jobName indexed.1.name)).elim []
      fun action => action.spec.steps).zipIdx.map fun inner =>
        ⟨⟨jobName, indexed.2, inner.2 + 1⟩, indexed.1.name, inner.1.name⟩

/-- The logical steps of a snapshot. -/
def Snapshot.logicalSteps (snapshot : Snapshot) : List LogicalStep :=
  snapshot.jobs.entries.flatMap fun entry =>
    entry.2.steps.zipIdx.flatMap (stepLogicalSteps snapshot.actions entry.1)

/-- The two kinds of logical steps. -/
inductive LogicalStepOf (snapshot : Snapshot) : LogicalStep → Prop
  | inline {jobName : String} {job : JobSpec} {index : Nat} {step : StepSpec}
      (found : snapshot.jobs.lookup jobName = some job)
      (listed : job.steps[index]? = some step) (inline : step.uses = "") :
      LogicalStepOf snapshot ⟨⟨jobName, index, 0⟩, step.name, ""⟩
  | inner {jobName : String} {job : JobSpec} {index innerIndex : Nat} {step inner : StepSpec}
      {action : ActionSnapshot} (found : snapshot.jobs.lookup jobName = some job)
      (listed : job.steps[index]? = some step) (calls : step.uses ≠ "")
      (resolved : snapshot.actions.lookup (workflowActionSnapshotKey jobName step.name) =
        some action)
      (innerListed : action.spec.steps[innerIndex]? = some inner) :
      LogicalStepOf snapshot ⟨⟨jobName, index, innerIndex + 1⟩, step.name, inner.name⟩

variable {platform : WorkflowPlatform} {snapshot : Snapshot}

theorem mem_logicalSteps :
    step ∈ snapshot.logicalSteps ↔ LogicalStepOf snapshot step := by
  constructor
  · intro mem
    obtain ⟨⟨jobName, _⟩, entry, inJob⟩ := List.mem_flatMap.mp mem
    obtain ⟨⟨spec, _⟩, indexed, inStep⟩ := List.mem_flatMap.mp inJob
    have found := Table.mem_entries_iff.mp entry
    have listed := List.mk_mem_zipIdx_iff_getElem?.mp indexed
    unfold stepLogicalSteps at inStep
    split at inStep
    next inline =>
      rw [List.mem_singleton.mp inStep]
      exact .inline found listed inline
    next calls =>
      obtain ⟨⟨_, _⟩, innerIndexed, rfl⟩ := List.mem_map.mp inStep
      have innerListed := List.mk_mem_zipIdx_iff_getElem?.mp innerIndexed
      cases resolved : snapshot.actions.lookup (workflowActionSnapshotKey jobName spec.name) with
      | none =>
        dsimp only at innerListed
        rw [resolved] at innerListed
        cases innerListed
      | some =>
        dsimp only at innerListed
        rw [resolved] at innerListed
        exact .inner found listed calls resolved innerListed
  · intro known
    cases known with
    | @inline jobName job i step found listed inline =>
      apply List.mem_flatMap_of_mem (Table.mem_entries_iff.mpr found)
      apply List.mem_flatMap_of_mem (List.mk_mem_zipIdx_iff_getElem?.mpr listed)
      unfold stepLogicalSteps
      rw [if_pos inline]
      exact .head _
    | @inner jobName job i innerIndex step inner action found listed calls resolved
        innerListed =>
        apply List.mem_flatMap_of_mem (Table.mem_entries_iff.mpr found)
        apply List.mem_flatMap_of_mem (List.mk_mem_zipIdx_iff_getElem?.mpr listed)
        unfold stepLogicalSteps
        rw [if_neg calls, resolved]
        exact List.mem_map_of_mem (List.mk_mem_zipIdx_iff_getElem?.mpr innerListed)

/-! ## Labels -/

section Labels

variable {uid jobName stepName actionStepName : String} {run : ChildRun}

/-- The labels of a step's Run name the step. -/
theorem label_workflowStepLabels :
    label (workflowStepLabels uid jobName stepName actionStepName) workflowRunUIDLabel = uid ∧
      label (workflowStepLabels uid jobName stepName actionStepName) workflowJobLabel = jobName ∧
      label (workflowStepLabels uid jobName stepName actionStepName) workflowStepLabel = stepName ∧
      label (workflowStepLabels uid jobName stepName actionStepName) workflowActionStepLabel =
        actionStepName := by
  unfold workflowStepLabels label
  split
  next empty =>
    simp (disch := decide) only [AList.lookup_insert, AList.lookup_insert_ne,
      AList.lookup_empty, Option.getD_some, Option.getD_none, empty, and_self]
  · simp (disch := decide) only [AList.lookup_insert, AList.lookup_insert_ne,
      Option.getD_some, and_self]

section Labelled

variable (labelled : run.labels = workflowStepLabels uid jobName stepName actionStepName)

include labelled

theorem jobName_of_labels : run.jobName = jobName := by
  unfold ChildRun.jobName
  rw [labelled]
  exact label_workflowStepLabels.2.1

theorem stepName_of_labels : run.stepName = stepName := by
  unfold ChildRun.stepName
  rw [labelled]
  exact label_workflowStepLabels.2.2.1

theorem actionStepName_of_labels : run.actionStepName = actionStepName := by
  unfold ChildRun.actionStepName
  rw [labelled]
  exact label_workflowStepLabels.2.2.2

end Labelled

end Labels

/-! ## The end of a Run and its step -/

/-- Job statuses whose steps and inner steps are those of the snapshot. -/
def Outlined (snapshot : Snapshot) (jobs : JobStatuses) : Prop :=
  ∀ {jobName : String} {job : JobStatus}, jobs.lookup jobName = some job →
    ∃ spec, snapshot.jobs.lookup jobName = some spec ∧
      job.steps.map StepStatus.frame = spec.steps.map (StepSpec.frame snapshot.actions jobName)

theorem Sound.toOutlined {jobs : JobStatuses} (sound : Sound snapshot jobs) :
    Outlined snapshot jobs := by
  intro jobName job found
  obtain ⟨spec, specified, _, steps⟩ := sound.outlined found
  exact ⟨spec, specified, steps⟩

/-- What the end of a step's Run is to do to the status of the step's job. -/
def recordEnd (platform : WorkflowPlatform) (target : StepTarget) (run : ChildRun)
    (phase : StepPhase) (job : JobStatus) : JobStatus :=
  { job with
    steps := job.steps.modify target.stepIndex fun step =>
      match workflowEnvironmentOutputs platform run.outputs with
      | .error _ => { step with phase := .failed }
      | .ok _ =>
        if target.actionStepIndex = 0 then
          recordTerminalRunStatus run.name phase run.outputs step
        else
          { step with
            actionSteps := step.actionSteps.modify (target.actionStepIndex - 1)
              (recordTerminalActionRunStatus run.name phase run.outputs) } }

section Frames

variable {specs : List StepSpec} {steps : List StepStatus}
  (frames : steps.map StepStatus.frame = specs.map (StepSpec.frame snapshot.actions jobName))

include frames

/-- The names of the steps of an outlined job. -/
theorem map_name_eq_of_frames :
    steps.map StepStatus.name = specs.map StepSpec.name := by
  have firsts := congrArg (List.map Prod.fst) frames
  rw [List.map_map, List.map_map] at firsts
  exact firsts

/-- The step status at the position of a step. -/
theorem exists_status_of_frames {i : Nat} {spec : StepSpec}
    (listed : specs[i]? = some spec) :
    ∃ step, steps[i]? = some step ∧ step.name = spec.name ∧
      step.actionSteps.map ActionStepStatus.name =
        (StepSpec.frame snapshot.actions jobName spec).2 := by
  have here := congrArg (fun list => list[i]?) frames
  rw [List.getElem?_map, List.getElem?_map, listed, Option.map_some, Option.map_eq_some_iff] at here
  obtain ⟨step, found, same⟩ := here
  exact ⟨step, found, congrArg Prod.fst same, congrArg Prod.snd same⟩

end Frames

/-- What a terminal Run does to the first step with the name in its labels. -/
def projectEnd (platform : WorkflowPlatform) (run : ChildRun) (phase : StepPhase)
    (step : StepStatus) : StepStatus :=
  match workflowEnvironmentOutputs platform run.outputs with
  | .error _ => { step with phase := .failed }
  | .ok _ => projectOntoStep run phase step

/-- The projection of a terminal Run, as far as the jobs go. -/
theorem jobTable_projectChildRunStatus {status : WorkflowRunStatus}
    (terminal : terminalRunStepPhase run.phase = some phase) :
    (projectChildRunStatus platform status run).jobTable = status.jobTable.modify run.jobName
        (JobStatus.onStep run.stepName (projectEnd platform run phase)) := by
  unfold projectChildRunStatus
  rw [terminal, status.job?_eq]
  dsimp only
  split
  next missing =>
    refine (Table.modify_eq_self fun job found => ?_).symm
    rw [found, Option.bind_some, List.find?_eq_none] at missing
    unfold JobStatus.onStep
    rw [modifyFirst_eq_self]
    intro step mem
    exact Bool.eq_false_iff.mpr (missing step mem)
  · have change : ∀ f, (∀ step, f step = projectEnd platform run phase step) →
        (status.modifyJob run.jobName (JobStatus.onStep run.stepName f)).jobTable =
          status.jobTable.modify run.jobName
            (JobStatus.onStep run.stepName (projectEnd platform run phase)) := by
      intro f same
      rw [status.jobTable_modifyJob, funext same]
    split
    next unreadable =>
      exact change _ fun step => by rw [projectEnd, unreadable]
    next readable =>
      exact change _ fun step => by rw [projectEnd, readable]

/-- Where step names differ, the end of a Run is recorded at the step it belongs
to. -/
theorem onStep_eq_recordEnd {uid : String} {job : JobStatus} {spec : JobSpec}
    (known : LogicalStepOf snapshot step) (valid : ActionsValid snapshot.actions)
    (specified : snapshot.jobs.lookup step.target.jobName = some spec)
    (frames : job.steps.map StepStatus.frame =
      spec.steps.map (StepSpec.frame snapshot.actions step.target.jobName))
    (distinct : (spec.steps.map StepSpec.name).Nodup)
    (nonempty : step.target.actionStepIndex ≠ 0 → step.actionStepName ≠ "")
    (labelled : run.labels = step.labels uid) :
    job.onStep run.stepName (projectEnd platform run phase) =
      recordEnd platform step.target run phase job := by
  have action := actionStepName_of_labels labelled
  obtain ⟨stepSpec, listed, named⟩ : ∃ stepSpec,
      spec.steps[step.target.stepIndex]? = some stepSpec ∧ stepSpec.name = step.stepName := by
    cases known with
    | inline stored listed _
    | inner stored listed => cases specified.symm.trans stored; exact ⟨_, listed, rfl⟩
  obtain ⟨stepStatus, here, same, inner⟩ := exists_status_of_frames frames listed
  have first : job.steps.findIdx? (fun other => other.name == run.stepName) =
      some step.target.stepIndex := by
    rw [stepName_of_labels labelled, ← named, ← same]
    apply findIdx?_eq_some_of_nodup _ here
    rw [map_name_eq_of_frames frames]
    exact distinct
  unfold JobStatus.onStep recordEnd
  rw [modifyFirst_eq_modify _ first]
  congr 1
  apply modify_congr
  intro value stored
  cases here.symm.trans stored
  unfold projectEnd projectOntoStep
  rw [action]
  split
  · rfl
  cases known with
  | inline => rfl
  | @inner jobName _ i innerIndex outer innerSpec action jobFound outerListed calls
      resolved innerListed =>
      cases specified.symm.trans jobFound
      cases listed.symm.trans outerListed
      rw [if_pos (nonempty (Nat.succ_ne_zero _)), if_neg (Nat.succ_ne_zero _)]
      unfold StepSpec.frame at inner
      dsimp only at inner
      rw [if_neg calls, resolved] at inner
      obtain ⟨innerStatus, innerHere, innerSame⟩ : ∃ innerStatus,
          stepStatus.actionSteps[innerIndex]? = some innerStatus ∧
            innerStatus.name = innerSpec.name := by
        have position := congrArg (fun list => list[innerIndex]?) inner
        rw [List.getElem?_map, Option.elim_some, List.getElem?_map, innerListed,
          Option.map_some, Option.map_eq_some_iff] at position
        exact position
      unfold StepStatus.onActionStep
      rw [← innerSame, modifyFirst_eq_modify _ (findIdx?_eq_some_of_nodup _ innerHere)]
      · rfl
      · rw [inner]
        exact (valid resolved).2

/-- There is a logical step behind every step of a job. -/
theorem exists_logicalStepOf (resolved : ActionsResolved snapshot) {job : JobSpec} {i : Nat}
    {spec : StepSpec} (found : snapshot.jobs.lookup jobName = some job)
    (listed : job.steps[i]? = some spec) :
    ∃ step, LogicalStepOf snapshot step ∧ step.target.jobName = jobName ∧
      step.target.stepIndex = i ∧ step.stepName = spec.name := by
  by_cases inline : spec.uses = ""
  · exact ⟨_, .inline found listed inline, rfl, rfl, rfl⟩
  have present := resolved.present found spec (List.mem_of_getElem? listed) inline
  obtain ⟨action, stored⟩ := Option.isSome_iff_exists.mp (AList.lookup_isSome.mpr present)
  obtain ⟨inner, _, steps⟩ := List.exists_cons_of_ne_nil (resolved.valid stored).1
  have first : action.spec.steps[0]? = some inner := by rw [steps]; rfl
  exact ⟨_, .inner found listed inline stored first, rfl, rfl, rfl⟩

/-! ## Telling logical steps apart -/

/-- Different logical steps have different Runs, and the end of a Run is recorded at
its own step. -/
structure DistinctChildren (platform : WorkflowPlatform) (workflowRunName : String)
    (snapshot : Snapshot) : Prop where
  names : ∀ first ∈ snapshot.logicalSteps, ∀ second ∈ snapshot.logicalSteps,
    first.target ≠ second.target →
      first.runName platform workflowRunName ≠ second.runName platform workflowRunName
  keys : ∀ first ∈ snapshot.logicalSteps, ∀ second ∈ snapshot.logicalSteps,
    first.target ≠ second.target → first.key ≠ second.key
  projected : ∀ step ∈ snapshot.logicalSteps, ∀ (uid : String) (status : WorkflowRunStatus)
    (run : ChildRun) (phase : StepPhase), Outlined snapshot status.jobTable →
      run.labels = step.labels uid → terminalRunStepPhase run.phase = some phase →
      (projectChildRunStatus platform status run).jobTable =
        status.jobTable.modify step.target.jobName (recordEnd platform step.target run phase)

/-- The steps of each job have different names. -/
def StepNamesDistinct (snapshot : Snapshot) : Prop :=
  ∀ {jobName : String} {job : JobSpec}, snapshot.jobs.lookup jobName = some job →
    (job.steps.map StepSpec.name).Nodup

/-- The names of a snapshot tell its logical steps apart: steps of one job have
different names, inner steps have names, and no two logical steps read the same
when their names are joined by slashes or by null characters. -/
structure DistinctlyNamed (snapshot : Snapshot) : Prop where
  steps : StepNamesDistinct snapshot
  inner : ∀ step ∈ snapshot.logicalSteps, step.target.actionStepIndex ≠ 0 → step.actionStepName ≠ ""
  apart : ∀ first ∈ snapshot.logicalSteps, ∀ second ∈ snapshot.logicalSteps,
    first.target ≠ second.target → first.text ≠ second.text ∧ first.key ≠ second.key

/-- Different texts of logical steps have different digests. -/
def CollisionFree (platform : WorkflowPlatform) (snapshot : Snapshot) : Prop :=
  ∀ first ∈ snapshot.logicalSteps, ∀ second ∈ snapshot.logicalSteps,
    platform.digest first.text = platform.digest second.text → first.text = second.text

/-- Run names are as good as the texts behind them. -/
theorem CollisionFree.text_eq (free : CollisionFree platform snapshot)
    {first second : LogicalStep} (firstKnown : first ∈ snapshot.logicalSteps)
    (secondKnown : second ∈ snapshot.logicalSteps)
    (same : first.runName platform workflowRunName =
      second.runName platform workflowRunName) : first.text = second.text := by
  apply free first firstKnown second secondKnown
  apply eq_of_derivedName_eq _ same
  exact (platform.digest_length _).trans (platform.digest_length _).symm

theorem DistinctlyNamed.distinctChildren (resolved : ActionsResolved snapshot)
    (free : CollisionFree platform snapshot) (named : DistinctlyNamed snapshot) :
    DistinctChildren platform workflowRunName snapshot where
  names := by
    intro first firstKnown second secondKnown different same
    exact (named.apart first firstKnown second secondKnown different).1
      (free.text_eq firstKnown secondKnown same)
  keys := by
    intro first firstKnown second secondKnown different
    exact (named.apart first firstKnown second secondKnown different).2
  projected := by
    intro step known uid status run phase outlined labelled terminal
    rw [jobTable_projectChildRunStatus terminal, jobName_of_labels labelled]
    apply Table.modify_congr
    intro job found
    obtain ⟨_, specified, frames⟩ := outlined found
    exact onStep_eq_recordEnd (mem_logicalSteps.mp known) resolved.valid specified frames
      (named.steps specified) (named.inner step known) labelled

/-- The first status of a snapshot, as far as its jobs go. -/
def Snapshot.initialStatus (snapshot : Snapshot) : WorkflowRunStatus :=
  { jobs := some (initializeActionStepStatuses (resolvedJobStatuses snapshot.jobs)
      snapshot.jobs snapshot.actions) }

/-- Nothing has happened to a step in the first status. -/
theorem initialActionSteps_eq (actions : Table String ActionSnapshot) (jobName : String)
    (spec : StepSpec) :
    ∃ inner, initialActionSteps actions jobName spec { name := spec.name } =
      { name := spec.name, actionSteps := inner } := by
  unfold initialActionSteps
  split
  · exact ⟨[], rfl⟩
  split
  · exact ⟨[], rfl⟩
  · exact ⟨_, rfl⟩

/-- A Run with an environment output that has no name. -/
def unreadableRun (labels : Labels) : ChildRun :=
  { name := "", labels := labels, controller := none, spec := { runtime := "", inline := "" }
    phase := .failed
    outputs := (∅ : Labels).insert workflowEnvironmentOutputPrefix "" }

/-- The first status of a job, with the status of one of its steps. -/
theorem initialStatus_lookup {job : JobSpec} (found : snapshot.jobs.lookup jobName = some job) :
    ∃ status, snapshot.initialStatus.jobTable.lookup jobName = some status ∧
      ∀ {i : Nat} {spec : StepSpec}, job.steps[i]? = some spec →
        ∃ inner, status.steps[i]? = some { name := spec.name, actionSteps := inner } := by
  refine ⟨_, (lookup_initialStatuses _ _ _).trans (by rw [found]; rfl), ?_⟩
  intro i spec listed
  obtain ⟨inner, initial⟩ := initialActionSteps_eq snapshot.actions jobName spec
  refine ⟨inner, ?_⟩
  rw [List.getElem?_map, listed, Option.map_some, initial]

theorem outlined_initialStatus (snapshot : Snapshot) :
    Outlined snapshot snapshot.initialStatus.jobTable :=
  (Sound.initial snapshot).toOutlined

/-- In the first status, the end of a Run changes its job as its step demands. -/
theorem DistinctChildren.onStep_eq (distinct : DistinctChildren platform workflowRunName snapshot)
    (known : LogicalStepOf snapshot step) {status : JobStatus}
    (initial : snapshot.initialStatus.jobTable.lookup step.target.jobName = some status)
    (labelled : run.labels = step.labels "")
    (terminal : terminalRunStepPhase run.phase = some phase) :
    status.onStep run.stepName (projectEnd platform run phase) =
      recordEnd platform step.target run phase status := by
  have recorded := distinct.projected step (mem_logicalSteps.mpr known) ""
    snapshot.initialStatus run phase (outlined_initialStatus snapshot) labelled terminal
  rw [jobTable_projectChildRunStatus terminal, jobName_of_labels labelled] at recorded
  have here := congrArg (AList.lookup step.target.jobName) recorded
  rw [Table.lookup_modify_self, Table.lookup_modify_self, initial, Option.map_some,
    Option.map_some, Option.some.injEq] at here
  exact here

section Resolved

variable (resolved : ActionsResolved snapshot)
  (distinct : DistinctChildren platform workflowRunName snapshot)

include resolved distinct

/-- Where the end of a Run is recorded at its own step, step names differ. -/
theorem DistinctChildren.stepNamesDistinct :
    StepNamesDistinct snapshot := by
  intro jobName job found
  rw [List.nodup_iff_getElem?_ne_getElem?]
  intro first second below bound same
  rw [List.length_map] at bound
  have earlier := List.getElem?_eq_getElem (below.trans bound)
  have later := List.getElem?_eq_getElem bound
  rw [List.getElem?_map, List.getElem?_map, earlier, later, Option.map_some, Option.map_some,
    Option.some.injEq] at same
  obtain ⟨status, initial, steps⟩ := initialStatus_lookup found
  obtain ⟨step, known, rfl, rfl, name⟩ := exists_logicalStepOf resolved found later
  -- the Run of the later step ends with unreadable outputs
  have changed : status.onStep (unreadableRun (step.labels "")).stepName
      (projectEnd platform (unreadableRun (step.labels "")) .failed) =
        recordEnd platform step.target (unreadableRun (step.labels "")) .failed status :=
    distinct.onStep_eq known initial rfl rfl
  have here := congrArg (fun job => job.steps[step.target.stepIndex]?) changed
  unfold JobStatus.onStep recordEnd at here
  dsimp only at here
  obtain ⟨message, unreadable⟩ : ∃ message, workflowEnvironmentOutputs platform
      (unreadableRun (step.labels "")).outputs = .error message := ⟨_, rfl⟩
  obtain ⟨_, earlierStatus⟩ := steps earlier
  obtain ⟨_, laterStatus⟩ := steps later
  rw [getElem?_modifyFirst_of_lt earlierStatus _ below, laterStatus, List.getElem?_modify_eq,
    laterStatus, unreadable] at here
  · cases here
  · rw [stepName_of_labels (rfl : _ = step.labels ""), name, same]
    exact beq_self_eq_true _

/-- Where the end of a Run is recorded at its own step, inner steps have names. -/
theorem DistinctChildren.actionStepName_ne (known : LogicalStepOf snapshot step)
    (inner : step.target.actionStepIndex ≠ 0) :
    step.actionStepName ≠ "" := by
  intro empty
  obtain ⟨job, spec, found, listed, name⟩ : ∃ job spec,
      snapshot.jobs.lookup step.target.jobName = some job ∧
        job.steps[step.target.stepIndex]? = some spec ∧ spec.name = step.stepName := by
    cases known with
    | inline found listed | inner found listed => exact ⟨_, _, found, listed, rfl⟩
  obtain ⟨status, initial, steps⟩ := initialStatus_lookup found
  obtain ⟨_, specified, frames⟩ := outlined_initialStatus snapshot initial
  cases found.symm.trans specified
  obtain ⟨_, here⟩ := steps listed
  have first : status.steps.findIdx? (fun candidate => candidate.name == step.stepName) =
      some step.target.stepIndex := by
    rw [← name]
    apply findIdx?_eq_some_of_nodup _ here
    rw [map_name_eq_of_frames frames]
    exact distinct.stepNamesDistinct resolved found
  -- without a name the success of the inner step's Run reads as one of the step
  let run : ChildRun :=
    { name := "", labels := step.labels "", controller := none
      spec := { runtime := "", inline := "" }, phase := .succeeded }
  have changed : status.onStep run.stepName (projectEnd platform run .succeeded) =
      recordEnd platform step.target run .succeeded status :=
    distinct.onStep_eq known initial rfl rfl
  have readable : workflowEnvironmentOutputs platform run.outputs = .ok ∅ := rfl
  have nested : run.actionStepName = "" := (actionStepName_of_labels rfl).trans empty
  have phases := congrArg (fun job => (job.steps[step.target.stepIndex]?).map StepStatus.phase)
    changed
  rw [stepName_of_labels (rfl : run.labels = step.labels "")] at phases
  unfold JobStatus.onStep recordEnd projectEnd projectOntoStep at phases
  dsimp only at phases
  rw [modifyFirst_eq_modify _ first, List.getElem?_modify_eq, List.getElem?_modify_eq, here,
    readable, nested] at phases
  simp only [if_neg inner] at phases
  cases phases

theorem DistinctChildren.distinctlyNamed :
    DistinctlyNamed snapshot where
  steps := distinct.stepNamesDistinct resolved
  inner := by
    intro step known
    exact distinct.actionStepName_ne resolved (mem_logicalSteps.mp known)
  apart := by
    intro first firstKnown second secondKnown different
    refine ⟨fun same => ?_, distinct.keys first firstKnown second secondKnown different⟩
    apply distinct.names first firstKnown second secondKnown different
    exact congrArg (fun text => derivedName "-" "" workflowRunName (platform.digest text)) same

end Resolved

/-! ## Names that the API admits -/

/-- A name in which neither separator occurs. -/
def AdmittedName (name : String) : Prop :=
  name ≠ "" ∧ '/' ∉ name.toList ∧ '\x00' ∉ name.toList

instance (name : String) : Decidable (AdmittedName name) :=
  inferInstanceAs (Decidable (_ ∧ _ ∧ _))

/-- All names that occur in logical steps are admitted. -/
def NamesAdmitted (snapshot : Snapshot) : Prop :=
  ∀ step ∈ snapshot.logicalSteps, AdmittedName step.target.jobName ∧ AdmittedName step.stepName ∧
    (step.target.actionStepIndex ≠ 0 → AdmittedName step.actionStepName)

/-- Where step names differ, the names of a logical step determine it. -/
theorem target_eq_of_names (valid : ActionsValid snapshot.actions)
    (distinct : StepNamesDistinct snapshot) {first second : LogicalStep}
    (firstKnown : LogicalStepOf snapshot first) (secondKnown : LogicalStepOf snapshot second)
    (jobs : first.target.jobName = second.target.jobName)
    (steps : first.stepName = second.stepName)
    (inner : first.actionStepName = second.actionStepName) : first.target = second.target := by
  have position : ∀ {names : List StepSpec} {i j : Nat} {one two : StepSpec},
      (names.map StepSpec.name).Nodup → names[i]? = some one → names[j]? = some two →
        one.name = two.name → i = j := by
    intro names i j one two nodup here there same
    have equal : (names.map StepSpec.name)[i]? = (names.map StepSpec.name)[j]? := by
      rw [List.getElem?_map, List.getElem?_map, here, there, Option.map_some, Option.map_some, same]
    have bound : i < (names.map StepSpec.name).length := by
      rw [List.length_map]
      exact (List.getElem?_eq_some_iff.mp here).1
    exact (List.getElem?_inj bound nodup).mp equal
  cases firstKnown with
  | @inline jobName job index step found listed inline =>
    cases secondKnown with
    | inline otherFound otherListed =>
      cases jobs
      cases found.symm.trans otherFound
      cases position (distinct found) listed otherListed steps
      rfl
    | inner otherFound otherListed calls =>
      cases jobs
      cases found.symm.trans otherFound
      cases position (distinct found) listed otherListed steps
      cases listed.symm.trans otherListed
      exact absurd inline calls
  | @inner jobName job index innerIndex step inside action found listed calls resolved
      innerListed =>
      cases secondKnown with
      | inline otherFound otherListed inline =>
        cases jobs
        cases found.symm.trans otherFound
        cases position (distinct found) listed otherListed steps
        cases listed.symm.trans otherListed
        exact absurd inline calls
      | inner otherFound otherListed _ otherResolved otherInner =>
        cases jobs
        cases found.symm.trans otherFound
        cases position (distinct found) listed otherListed steps
        cases listed.symm.trans otherListed
        cases resolved.symm.trans otherResolved
        cases position (valid resolved).2 innerListed otherInner inner
        rfl

/-- Admitted names are confused only by steps of one name in one job. -/
theorem NamesAdmitted.distinctlyNamed (resolved : ActionsResolved snapshot)
    (admitted : NamesAdmitted snapshot) (distinct : StepNamesDistinct snapshot) :
    DistinctlyNamed snapshot where
  steps := distinct
  inner := by
    intro step known inner
    exact ((admitted step known).2.2 inner).1
  apart := by
    intro first firstKnown second secondKnown different
    obtain ⟨firstJob, firstStep, _⟩ := admitted first firstKnown
    obtain ⟨secondJob, secondStep, _⟩ := admitted second secondKnown
    have equal : first.target.jobName = second.target.jobName ∧
        first.stepName = second.stepName ∧ first.actionStepName = second.actionStepName →
          False := by
      rintro ⟨jobs, steps, inner⟩
      exact different (target_eq_of_names resolved.valid distinct
        (mem_logicalSteps.mp firstKnown) (mem_logicalSteps.mp secondKnown) jobs steps inner)
    constructor
    · intro same
      exact equal (eq_of_joined_eq rfl ⟨firstJob.2.1, secondJob.2.1, firstStep.2.1,
        secondStep.2.1⟩ same)
    · intro same
      exact equal (eq_of_joined_eq rfl ⟨firstJob.2.2, secondJob.2.2, firstStep.2.2,
        secondStep.2.2⟩ same)

/-- Logical steps have Runs of their own exactly when names tell them apart; with
names that the API admits, exactly when the steps of each job have different
names. -/
theorem distinctChildren_iff {find : String → Except LookupFailure ActionSpec}
    (resolved : resolveWorkflowRunActions find snapshot.jobs = .ok snapshot.actions)
    (free : CollisionFree platform snapshot) (workflowRunName : String) :
    (DistinctChildren platform workflowRunName snapshot ↔ DistinctlyNamed snapshot) ∧
      (NamesAdmitted snapshot →
        (DistinctChildren platform workflowRunName snapshot ↔ StepNamesDistinct snapshot)) := by
  have accepted := resolveWorkflowRunActions_eq_ok resolved
  refine ⟨⟨fun distinct => distinct.distinctlyNamed accepted,
    fun named => named.distinctChildren accepted free⟩, fun admitted => ?_⟩
  constructor
  · intro distinct
    exact distinct.stepNamesDistinct accepted
  · intro distinct
    exact (admitted.distinctlyNamed accepted distinct).distinctChildren accepted free

/-- The snapshot of the pipeline. -/
def pipelineSnapshot : Snapshot :=
  ⟨pipeline.jobs, ∅⟩

/-- The pipeline has different names for its steps and therefore different Runs. -/
theorem distinctChildren_pipelineSnapshot :
    DistinctChildren samplePlatform "ci" pipelineSnapshot := by
  have resolved : resolveWorkflowRunActions noDefinitions.findAction pipelineSnapshot.jobs =
      .ok pipelineSnapshot.actions := by decide +kernel
  have free : CollisionFree samplePlatform pipelineSnapshot := by
    unfold CollisionFree
    decide +kernel
  have admitted : NamesAdmitted pipelineSnapshot := by
    unfold NamesAdmitted
    decide +kernel
  have distinct : ∀ entry ∈ pipelineSnapshot.jobs.entries,
      (entry.2.steps.map StepSpec.name).Nodup := by decide +kernel
  refine ((distinctChildren_iff resolved free "ci").2 admitted).mpr ?_
  intro jobName job found
  exact distinct _ (Table.mem_entries_iff.mpr found)

/-- A job with two steps of one name. -/
def twinSnapshot : Snapshot where
  jobs := (∅ : JobSpecs).insert "build"
    { runsOn := "bash", steps := [inlineStep "make" "make one", inlineStep "make" "make two"] }
  actions := ∅

/-- The job is accepted, and its two steps share a Run. -/
theorem exists_not_distinctChildren :
    ∃ platform snapshot, acceptSnapshot noDefinitions.findAction snapshot.jobs = .ok snapshot ∧
      CollisionFree platform snapshot ∧ NamesAdmitted snapshot ∧
      ∀ workflowRunName, ¬ DistinctChildren platform workflowRunName snapshot := by
  refine ⟨samplePlatform, twinSnapshot, by decide +kernel, by unfold CollisionFree; decide +kernel,
    by unfold NamesAdmitted; decide +kernel, fun workflowRunName distinct => ?_⟩
  exact distinct.names ⟨⟨"build", 0, 0⟩, "make", ""⟩ (by decide +kernel)
    ⟨⟨"build", 1, 0⟩, "make", ""⟩ (by decide +kernel) (by decide +kernel) rfl

end Kruntimes.Workflow
