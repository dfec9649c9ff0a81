import Kruntimes.Workflow.Identity
import Mathlib.Data.String.Basic

/-!
# The derivation of one job

`JobChange` says what a pass may do; here the passes are followed exactly, for one
job and one position in it.  The listed Runs act on a step one after another in the
order of their keys, each Action call is decided once, then the call or the steps
decide the job, and a job that still waits may be skipped.
-/

namespace Kruntimes.Workflow

open Api Data Transition

variable {job : JobStatus} {jobs : JobStatuses} {runs : List ChildRun} {jobName : String}
  {status : WorkflowRunStatus} {run : ChildRun}

variable {platform : WorkflowPlatform} {snapshot : Snapshot}

/-! ## Listed Runs -/

/-- What a listed Run does to the step at a position, given the names of all steps of
the job. -/
def projectAt (platform : WorkflowPlatform) (jobName : String) (names : List String)
    (index : Nat) (step : StepStatus) (run : ChildRun) : StepStatus :=
  match terminalRunStepPhase run.phase with
  | none => step
  | some phase =>
    if run.jobName = jobName ∧ names.findIdx? (· == run.stepName) = some index then
      projectEnd platform run phase step
    else step

/-- What listed Runs do to a job. -/
def projectRuns (platform : WorkflowPlatform) (jobName : String) (runs : List ChildRun)
    (job : JobStatus) : JobStatus :=
  { job with
    steps := job.steps.mapIdx fun index step =>
      runs.foldl (projectAt platform jobName (job.steps.map StepStatus.name) index) step }

theorem frame_projectEnd (run : ChildRun) (phase : StepPhase) (step : StepStatus) :
    (projectEnd platform run phase step).frame = step.frame := by
  unfold projectEnd
  split
  · rfl
  · exact frame_projectOntoStep run phase step

theorem frame_projectAt (jobName : String) (names : List String) (i : Nat)
    (step : StepStatus) (run : ChildRun) :
    (projectAt platform jobName names i step run).frame = step.frame := by
  unfold projectAt
  split
  · rfl
  split
  · exact frame_projectEnd _ _ step
  · rfl

/-- Whether a Run fails the step at a position for the sake of its outputs. -/
def spoils (platform : WorkflowPlatform) (jobName : String) (names : List String)
    (index : Nat) (run : ChildRun) : Bool :=
  (terminalRunStepPhase run.phase).isSome && run.jobName == jobName &&
    names.findIdx? (· == run.stepName) == some index &&
    match workflowEnvironmentOutputs platform run.outputs with
    | .error _ => true
    | .ok _ => false

/-- A Run that spoils a step is labelled with its name. -/
theorem stepName_of_spoils {names : List String} {i : Nat} {name : String}
    (named : names[i]? = some name) (spoiled : spoils platform jobName names i run = true) :
    run.jobName = jobName ∧ run.stepName = name ∧ (terminalRunStepPhase run.phase).isSome = true ∧
      ∀ environment, workflowEnvironmentOutputs platform run.outputs ≠ .ok environment := by
  simp only [spoils, Bool.and_eq_true, beq_iff_eq] at spoiled
  obtain ⟨⟨⟨terminal, job⟩, position⟩, unreadable⟩ := spoiled
  obtain ⟨_, here, _⟩ := List.findIdx?_eq_some_iff_getElem.mp position
  obtain ⟨_, rfl⟩ := List.getElem?_eq_some_iff.mp named
  refine ⟨job, (beq_iff_eq.mp here).symm, terminal, fun environment readable => ?_⟩
  rw [readable] at unreadable
  cases unreadable

/-- Changing the first step with a name is a change at every position. -/
theorem JobStatus.onStep_eq (name : String) (change : StepStatus → StepStatus) (job : JobStatus) :
    job.onStep name change = { job with
        steps := job.steps.mapIdx fun i step =>
          if (job.steps.map StepStatus.name).findIdx? (· == name) = some i then change step
          else step } := by
  unfold onStep
  congr 1
  apply List.ext_getElem?
  intro i
  rw [getElem?_modifyFirst, List.getElem?_mapIdx, List.findIdx?_map]
  simp only [Function.comp_def]
  cases found : job.steps[i]? with
  | none => simp
  | some => split <;> rfl

/-- Runs that change no step change nothing. -/
theorem projectRuns_eq_self
    (same : ∀ {i step}, job.steps[i]? = some step →
      runs.foldl (projectAt platform jobName (job.steps.map StepStatus.name) i) step =
        step) : projectRuns platform jobName runs job = job := by
  have steps : (job.steps.mapIdx fun i step =>
      runs.foldl (projectAt platform jobName (job.steps.map StepStatus.name) i) step) =
        job.steps := by
    apply List.ext_getElem?
    intro i
    rw [List.getElem?_mapIdx]
    cases found : job.steps[i]? with
    | none => rfl
    | some => rw [Option.map_some, same found]
  unfold projectRuns
  rw [steps]

theorem names_projectRuns (jobName : String) (runs : List ChildRun) (job : JobStatus) :
    (projectRuns platform jobName runs job).steps.map StepStatus.name =
      job.steps.map StepStatus.name := by
  have kept : ∀ i step, (runs.foldl (projectAt platform jobName
      (job.steps.map StepStatus.name) i) step).name = step.name := by
    intro i step
    exact foldl_keeps StepStatus.name step fun run _ step =>
      congrArg Prod.fst (frame_projectAt _ _ _ step run)
  apply List.ext_getElem?
  intro i
  unfold projectRuns
  rw [List.getElem?_map, List.getElem?_map, List.getElem?_mapIdx]
  cases job.steps[i]? with
  | none => rfl
  | some => simp only [Option.map_some, kept]

/-- Runs act one after another. -/
theorem projectRuns_cons (jobName : String) (run : ChildRun) (rest : List ChildRun)
    (job : JobStatus) :
    projectRuns platform jobName (run :: rest) job =
      projectRuns platform jobName rest (projectRuns platform jobName [run] job) := by
  have names : (projectRuns platform jobName [run] job).steps.map StepStatus.name =
      job.steps.map StepStatus.name := names_projectRuns jobName [run] job
  unfold projectRuns at names ⊢
  dsimp only at names ⊢
  rw [names]
  congr 1
  apply List.ext_getElem?
  intro i
  rw [List.getElem?_mapIdx, List.getElem?_mapIdx, List.getElem?_mapIdx]
  cases job.steps[i]? <;> rfl

theorem lookup_projectChildRunStatus (found : status.jobTable.lookup jobName = some job)
    (run : ChildRun) :
    (projectChildRunStatus platform status run).jobTable.lookup jobName =
      some (projectRuns platform jobName [run] job) := by
  cases terminal : terminalRunStepPhase run.phase with
  | none =>
    have skipped : projectChildRunStatus platform status run = status := by
      unfold projectChildRunStatus
      rw [terminal]
    rw [skipped, found, projectRuns_eq_self]
    intro i step _
    rw [List.foldl_cons, List.foldl_nil, projectAt, terminal]
  | some =>
    rw [jobTable_projectChildRunStatus terminal]
    by_cases same : jobName = run.jobName
    · subst same
      rw [Table.lookup_modify_self, found, Option.map_some, JobStatus.onStep_eq]
      unfold projectRuns projectAt
      simp only [List.foldl_cons, List.foldl_nil, terminal, true_and]
    · rw [Table.lookup_modify_ne same, found, projectRuns_eq_self]
      intro i step _
      rw [List.foldl_cons, List.foldl_nil, projectAt, terminal]
      exact if_neg fun here => same here.1.symm

/-- The effect of all listed Runs on a job. -/
theorem lookup_foldl_projectChildRunStatus (runs : List ChildRun)
    (found : status.jobTable.lookup jobName = some job) :
    (runs.foldl (projectChildRunStatus platform) status).jobTable.lookup jobName =
      some (projectRuns platform jobName runs job) := by
  induction runs generalizing status job with
  | nil =>
    rw [List.foldl_nil, found, projectRuns_eq_self]
    exact fun _ => rfl
  | cons run rest ih =>
    rw [List.foldl_cons, ih (lookup_projectChildRunStatus found run), ← projectRuns_cons]

/-- The listed Runs in the order of their keys. -/
def orderedRuns (childRuns : Table String ChildRun) : List ChildRun :=
  childRuns.sortedKeys.filterMap fun key => childRuns.lookup key

theorem mem_orderedRuns {childRuns : Table String ChildRun} :
    run ∈ orderedRuns childRuns ↔ ∃ key, childRuns.lookup key = some run := by
  unfold orderedRuns
  rw [List.mem_filterMap]
  constructor
  · rintro ⟨key, _, found⟩
    exact ⟨key, found⟩
  · rintro ⟨key, found⟩
    refine ⟨key, ?_, found⟩
    rw [Table.mem_sortedKeys, ← AList.lookup_isSome, found]
    rfl

/-- A table that keeps, for each key, the Run with the smallest name among those seen
so far. -/
structure Smallest (seen : List ChildRun) (table : Table String ChildRun) : Prop where
  kept : ∀ {key : String} {run : ChildRun}, table.lookup key = some run →
    run ∈ seen ∧ run.stepKey = key ∧ ∀ other ∈ seen, other.stepKey = key → ¬ other.name < run.name
  present : ∀ run ∈ seen, ∃ other, table.lookup run.stepKey = some other

theorem Smallest.addChildRun {seen : List ChildRun} {table : Table String ChildRun}
    (smallest : Smallest seen table) (run : ChildRun) :
    Smallest (seen ++ [run]) (addChildRun table run) := by
  -- the run takes the place of nothing or of a Run with a larger name
  have inserted : (∀ existing, table.lookup run.stepKey = some existing →
      run.name < existing.name) → Smallest (seen ++ [run]) (table.insert run.stepKey run) := by
    intro better
    constructor
    · intro key kept found
      rcases Table.lookup_insert_cases found with ⟨rfl, rfl⟩ | ⟨same, found⟩
      · refine ⟨List.mem_append_right _ (.head _), rfl, fun other mem keyed => ?_⟩
        rcases List.mem_append.mp mem with old | new
        · obtain ⟨existing, stored⟩ := smallest.present other old
          rw [keyed] at stored
          intro smaller
          exact (smallest.kept stored).2.2 other old keyed
            (lt_trans smaller (better existing stored))
        · rw [List.mem_singleton.mp new]
          exact lt_irrefl _
      · obtain ⟨mem, keyed, least⟩ := smallest.kept found
        refine ⟨List.mem_append_left _ mem, keyed, fun other listed sameKey => ?_⟩
        rcases List.mem_append.mp listed with old | new
        · exact least other old sameKey
        · rw [List.mem_singleton.mp new] at sameKey
          exact absurd sameKey.symm same
    · intro other mem
      by_cases same : other.stepKey = run.stepKey
      · exact ⟨run, by rw [same, AList.lookup_insert]⟩
      rcases List.mem_append.mp mem with old | new
      · rw [AList.lookup_insert_ne same]
        exact smallest.present other old
      · rw [List.mem_singleton.mp new] at same
        exact absurd rfl same
  unfold Workflow.addChildRun
  split
  next free =>
    exact inserted fun existing stored => by rw [free] at stored; cases stored
  rename_i existing stored
  split
  next smaller =>
    exact inserted fun other found => by cases stored.symm.trans found; exact smaller
  rename_i larger
  constructor
  · intro key kept found
    obtain ⟨mem, keyed, least⟩ := smallest.kept found
    refine ⟨List.mem_append_left _ mem, keyed, fun other listed sameKey => ?_⟩
    rcases List.mem_append.mp listed with old | new
    · exact least other old sameKey
    rw [List.mem_singleton.mp new] at sameKey ⊢
    rw [sameKey] at stored
    cases stored.symm.trans found
    exact larger
  · intro other mem
    rcases List.mem_append.mp mem with old | new
    · exact smallest.present other old
    · rw [List.mem_singleton.mp new]
      exact ⟨existing, stored⟩

theorem smallest_childRunsOf (uid : String) (runs : List ChildRun) :
    Smallest (runs.filter fun run => label run.labels workflowRunUIDLabel == uid)
      (childRunsOf uid runs) := by
  have folded : ∀ {rest seen table},
      Smallest seen table → Smallest (seen ++ rest) (rest.foldl Workflow.addChildRun table) := by
    intro rest
    induction rest with
    | nil => intro seen table smallest; rwa [List.append_nil]
    | cons run rest ih =>
      intro seen table smallest
      have next := ih (smallest.addChildRun run)
      rwa [List.append_assoc] at next
  have empty : Smallest [] (∅ : Table String ChildRun) :=
    ⟨fun found => (by cases found), fun _ mem => absurd mem List.not_mem_nil⟩
  exact folded empty

/-- The Run listed for a key has the smallest name among the children with that
key. -/
theorem lookup_childRunsOf {uid key : String}
    (found : (childRunsOf uid runs).lookup key = some run) :
    run ∈ runs ∧ label run.labels workflowRunUIDLabel = uid ∧ run.stepKey = key ∧
      ∀ other ∈ runs, label other.labels workflowRunUIDLabel = uid → other.stepKey = key →
        ¬ other.name < run.name := by
  obtain ⟨mem, keyed, least⟩ := (smallest_childRunsOf uid runs).kept found
  rw [List.mem_filter, beq_iff_eq] at mem
  refine ⟨mem.1, mem.2, keyed, fun other listed labelled => ?_⟩
  exact least other (List.mem_filter.mpr ⟨listed, beq_iff_eq.mpr labelled⟩)

/-- Every child is listed, or another one with its key. -/
theorem exists_lookup_childRunsOf {uid : String} (mem : run ∈ runs)
    (labelled : label run.labels workflowRunUIDLabel = uid) :
    ∃ other, (childRunsOf uid runs).lookup run.stepKey = some other :=
  (smallest_childRunsOf uid runs).present run
    (List.mem_filter.mpr ⟨mem, beq_iff_eq.mpr labelled⟩)

/-! ## Action calls -/

/-- What the pass over Action calls does to the steps of a job: every call is decided
once, in some context, and inline steps are left alone. -/
structure ActionsDerived (actions : Table String ActionSnapshot) (jobName : String)
    (specs : List StepSpec) (before after : List StepStatus) : Prop where
  inline : ∀ {index : Nat}, (∀ {spec : StepSpec}, specs[index]? = some spec →
    spec.uses = "") → after[index]? = before[index]?
  call : ∀ {index : Nat} {spec : StepSpec}, specs[index]? = some spec → spec.uses ≠ "" →
    ∃ ctx, after[index]? = (before[index]?).map fun step =>
      (deriveActionCallStatus actions jobName spec step ctx).1

/-- The effect of one pass of the loop on its job. -/
def deriveCallAt (actions : Table String ActionSnapshot) (jobName : String)
    (indexed : StepSpec × Nat) (ctx : ResolveContext) (job : JobStatus) : JobStatus :=
  if indexed.1.uses = "" then job
  else
    { job with
      steps := job.steps.modify indexed.2 fun step =>
        (deriveActionCallStatus actions jobName indexed.1 step ctx).1 }

@[simp]
theorem WorkflowRunStatus.jobTable_report (status : WorkflowRunStatus) (message : String) :
    (status.report message).jobTable = status.jobTable := by
  unfold report
  split <;> rfl

theorem jobTable_deriveActionStep (actions : Table String ActionSnapshot) (jobName : String)
    (status : WorkflowRunStatus) (indexed : StepSpec × Nat) :
    (deriveActionStep actions jobName status indexed).jobTable =
      status.jobTable.modify jobName (deriveCallAt actions jobName indexed
        (workflowRunStepContext status.jobTable jobName)) := by
  unfold deriveActionStep
  rw [status.job?_eq]
  split
  next missing =>
    refine (Table.modify_eq_self fun job found => ?_).symm
    rw [found, Option.bind_some] at missing
    unfold deriveCallAt
    split
    · rfl
    · rw [List.modify_eq_self (List.getElem?_eq_none_iff.mp missing)]
  next present =>
    split
    next inline =>
      refine (Table.modify_eq_self fun job found => ?_).symm
      rw [deriveCallAt, if_pos inline]
    next calls =>
      rw [WorkflowRunStatus.jobTable_report, WorkflowRunStatus.jobTable_modifyJob]
      apply Table.modify_congr
      intro job found
      rw [found, Option.bind_some] at present
      rw [deriveCallAt, if_neg calls]
      congr 1
      apply List.ext_getElem?
      intro i
      rw [List.getElem?_set, List.getElem?_modify]
      by_cases here : indexed.2 = i
      · subst here
        obtain ⟨bound, rfl⟩ := List.getElem?_eq_some_iff.mp present
        simp [bound]
      · simp [here]

/-- The effect of the loop over the steps of one job, on that job and on others. -/
theorem lookup_foldl_deriveActionStep {actions : Table String ActionSnapshot}
    {items : List (StepSpec × Nat)} (distinct : (items.map Prod.snd).Nodup)
    (found : status.jobTable.lookup jobName = some job) :
    ∃ steps, (items.foldl (deriveActionStep actions jobName) status).jobTable.lookup jobName =
        some { job with steps := steps } ∧
      (∀ {i}, (∀ spec, (spec, i) ∈ items → spec.uses = "") → steps[i]? = job.steps[i]?) ∧
      ∀ {i : Nat} {spec : StepSpec}, (spec, i) ∈ items → spec.uses ≠ "" →
        ∃ ctx, steps[i]? = (job.steps[i]?).map fun step =>
          (deriveActionCallStatus actions jobName spec step ctx).1 := by
  induction items generalizing status job with
  | nil => exact ⟨job.steps, found, fun _ => rfl, fun mem => absurd mem List.not_mem_nil⟩
  | cons indexed rest ih =>
    rw [List.map_cons, List.nodup_cons] at distinct
    have first := jobTable_deriveActionStep actions jobName status indexed
    have next : (deriveActionStep actions jobName status indexed).jobTable.lookup jobName =
        some (deriveCallAt actions jobName indexed
          (workflowRunStepContext status.jobTable jobName) job) := by
      rw [first, Table.lookup_modify_self, found, Option.map_some]
    obtain ⟨steps, last, inline, call⟩ := ih distinct.2 next
    by_cases uses : indexed.1.uses = ""
    · rw [deriveCallAt, if_pos uses] at last inline call
      refine ⟨steps, last, fun none => inline fun spec mem =>
        none spec (.tail _ mem), fun mem calls => ?_⟩
      rcases List.mem_cons.mp mem with rfl | mem
      · exact absurd uses calls
      · exact call mem calls
    · rw [deriveCallAt, if_neg uses] at last inline call
      dsimp only at inline call
      refine ⟨steps, last, fun {i} none => ?_, fun {i spec} mem calls => ?_⟩
      · have apart : indexed.2 ≠ i := by
          rintro rfl
          exact uses (none indexed.1 (.head _))
        rw [inline fun spec mem => none spec (.tail _ mem), List.getElem?_modify_ne _ _ apart]
      · rcases List.mem_cons.mp mem with rfl | mem
        · -- no later item is at this position
          refine ⟨workflowRunStepContext status.jobTable jobName, ?_⟩
          rw [inline, List.getElem?_modify_eq]
          · rfl
          · intro other later
            exact absurd (List.mem_map.mpr ⟨_, later, rfl⟩) distinct.1
        · have apart : indexed.2 ≠ i := by
            rintro rfl
            exact distinct.1 (List.mem_map.mpr ⟨_, mem, rfl⟩)
          obtain ⟨ctx, derived⟩ := call mem calls
          exact ⟨ctx, by rw [derived, List.getElem?_modify_ne _ _ apart]⟩

theorem lookup_foldl_deriveActionStep_ne {actions : Table String ActionSnapshot} {other : String}
    (apart : other ≠ jobName) (items : List (StepSpec × Nat)) (status : WorkflowRunStatus) :
    (items.foldl (deriveActionStep actions jobName) status).jobTable.lookup other =
      status.jobTable.lookup other := by
  refine foldl_keeps (fun status => status.jobTable.lookup other) status fun indexed _ status => ?_
  rw [jobTable_deriveActionStep, Table.lookup_modify_ne apart]

/-- The effect of the pass over all Action calls on a job. -/
theorem lookup_deriveActionStepStatuses (found : status.jobTable.lookup jobName = some job) :
    ∃ steps, (deriveActionStepStatuses (some snapshot) status).jobTable.lookup jobName =
        some { job with steps := steps } ∧
      ActionsDerived snapshot.actions jobName
        ((snapshot.jobs.lookup jobName).elim [] JobSpec.steps) job.steps steps := by
  unfold deriveActionStepStatuses
  dsimp only
  -- the job is changed at its own turn only
  have kept : ∀ {names : List String}, jobName ∉ names → ∀ {before : WorkflowRunStatus},
      (names.foldl (deriveActionStepsForJob snapshot) before).jobTable.lookup jobName =
        before.jobTable.lookup jobName := by
    intro names absent before
    refine foldl_keeps (fun status => status.jobTable.lookup jobName) before ?_
    intro name listed status
    have apart : jobName ≠ name := fun same => absent (same ▸ listed)
    rw [deriveActionStepsForJob, lookup_foldl_deriveActionStep_ne apart]
  by_cases known : jobName ∈ snapshot.jobs
  · have mem : jobName ∈ snapshot.jobs.sortedKeys := Table.mem_sortedKeys.mpr known
    obtain ⟨spec, specified⟩ := Option.isSome_iff_exists.mp (AList.lookup_isSome.mpr known)
    obtain ⟨earlier, _, keys⟩ := List.append_of_mem mem
    have distinct := Table.nodup_sortedKeys snapshot.jobs
    rw [keys, List.nodup_append, List.nodup_cons] at distinct
    have before : jobName ∉ earlier := fun inside =>
      distinct.2.2 jobName inside jobName (.head _) rfl
    obtain ⟨steps, derived, inline, call⟩ := lookup_foldl_deriveActionStep
      (List.nodup_zipIdx_map_snd spec.steps) ((kept before).trans found)
    refine ⟨steps, ?_, fun none => inline fun step mem => ?_, fun listed calls => ?_⟩
    · rw [keys, List.foldl_append, List.foldl_cons, kept distinct.2.1.1,
        deriveActionStepsForJob, specified]
      exact derived
    · apply none
      rw [specified]
      exact List.mk_mem_zipIdx_iff_getElem?.mp mem
    · rw [specified] at listed
      exact call (List.mk_mem_zipIdx_iff_getElem?.mpr listed) calls
  · refine ⟨job.steps, ?_, fun _ => rfl, fun listed => ?_⟩
    · rw [kept fun mem => known (Table.mem_sortedKeys.mp mem), found]
    · rw [AList.lookup_eq_none.mpr known] at listed
      cases listed

/-! ## Jobs -/

/-- The loops that decide each job by itself. -/
theorem lookup_decideJobs (status : WorkflowRunStatus)
    (decide : String → JobStatus → JobStatus × String) (jobName : String) :
    (status.decideJobs decide).jobTable.lookup jobName =
      (status.jobTable.lookup jobName).map fun job => (decide jobName job).1 := by
  unfold WorkflowRunStatus.decideJobs
  have reported : ∀ (names : List String) (before : WorkflowRunStatus),
      (names.foldl (fun reported name => reported.report
        ((status.job? name).elim "" fun job => (decide name job).2)) before).jobTable =
          before.jobTable := by
    intro names before
    exact foldl_keeps WorkflowRunStatus.jobTable before fun _ _ _ =>
      WorkflowRunStatus.jobTable_report ..
  rw [reported, WorkflowRunStatus.jobTable_mapJobs _ rfl, Table.lookup_mapValues]

/-- A round of skipping changes waiting jobs into skipped ones. -/
def SkippedFrom (job next : JobStatus) : Prop :=
  next = job ∨ job.phase.isWaiting = true ∧ next = { job with phase := .skipped }

theorem SkippedFrom.trans {middle next : JobStatus} (first : SkippedFrom job middle)
    (second : SkippedFrom middle next) : SkippedFrom job next := by
  rcases first with rfl | ⟨waits, rfl⟩
  · exact second
  rcases second with rfl | ⟨stuck, _⟩
  · exact .inr ⟨waits, rfl⟩
  · cases stuck

section Skips

variable (found : jobs.lookup jobName = some job)

include found

theorem lookup_skipJob (name : String) :
    ∃ next, (skipJob jobs name).lookup jobName = some next ∧ SkippedFrom job next := by
  unfold skipJob
  split
  · exact ⟨job, found, .inl rfl⟩
  rename_i stored
  split
  next blocked =>
    by_cases same : jobName = name
    · subst same
      cases found.symm.trans stored
      refine ⟨_, by rw [Table.lookup_modify_self, found, Option.map_some],
        .inr ⟨((Bool.and_eq_true _ _).mp blocked).1, rfl⟩⟩
    · exact ⟨job, by rw [Table.lookup_modify_ne same, found], .inl rfl⟩
  · exact ⟨job, found, .inl rfl⟩

theorem lookup_foldl_skipJob (names : List String) :
    ∃ next, (names.foldl skipJob jobs).lookup jobName = some next ∧ SkippedFrom job next := by
  induction names generalizing jobs job with
  | nil => exact ⟨job, found, .inl rfl⟩
  | cons name rest ih =>
    obtain ⟨_, first, skipped⟩ := lookup_skipJob found name
    obtain ⟨next, last, more⟩ := ih first
    exact ⟨next, last, skipped.trans more⟩

theorem lookup_skipRounds (names : List String) (rounds : Nat) :
    ∃ next, (skipRounds names rounds jobs).lookup jobName = some next ∧ SkippedFrom job next := by
  induction rounds generalizing jobs job with
  | zero => exact ⟨job, found, .inl rfl⟩
  | succ rounds ih =>
    rw [skipRounds]
    split
    · exact ⟨job, found, .inl rfl⟩
    obtain ⟨_, first, skipped⟩ := lookup_foldl_skipJob found names
    obtain ⟨next, last, more⟩ := ih first
    exact ⟨next, last, skipped.trans more⟩

end Skips

/-! ## The whole derivation -/

/-- The decision about a job once its steps are derived. -/
def decidedJob (platform : WorkflowPlatform) (resources : Resources) (jobName : String)
    (job : JobStatus) : JobStatus :=
  (decideJob resources.jobs resources.childRuns jobName
    (decideCall platform resources.childWorkflows jobName job).1).1

/-- The derivation of one job: the listed Runs and the Action calls give its steps, the
job is decided, and unless a cancellation is requested it may be skipped. -/
inductive DerivedJob (platform : WorkflowPlatform) (resources : Resources) (snapshot : Snapshot)
    (jobName : String) (job next : JobStatus) : Prop
  | intro {steps : List StepStatus} (actions : ActionsDerived snapshot.actions jobName
        ((snapshot.jobs.lookup jobName).elim [] JobSpec.steps)
        (projectRuns platform jobName (orderedRuns resources.childRuns) job).steps steps)
      (skipped : SkippedFrom
        (decidedJob platform resources jobName { job with steps := steps }) next)
      (cancelled : resources.workflowRun.cancelRequested = true →
        next = decidedJob platform resources jobName { job with steps := steps })

/-- Every stored job is derived. -/
theorem exists_derivedJob (platform : WorkflowPlatform) {resources : Resources}
    (frozen : resources.snapshot = some snapshot)
    (found : resources.workflowRun.status.jobTable.lookup jobName = some job) :
    ∃ next, (resources.deriveWorkflowRunStatus platform).jobTable.lookup jobName = some next ∧
      DerivedJob platform resources snapshot jobName job next := by
  have projected : (deriveStepStatusesFromChildRuns platform resources.childRuns
      resources.workflowRun.status).jobTable.lookup jobName =
        some (projectRuns platform jobName (orderedRuns resources.childRuns) job) :=
    lookup_foldl_projectChildRunStatus _ found
  obtain ⟨steps, acted, actions⟩ := lookup_deriveActionStepStatuses projected
  have decided : (resources.projectedStatus platform).jobTable.lookup jobName =
      some (decidedJob platform resources jobName { job with steps := steps }) := by
    unfold Resources.projectedStatus deriveJobStatuses deriveWorkflowCallStatuses
    rw [lookup_decideJobs, lookup_decideJobs, frozen, acted]
    rfl
  have same : (resources.deriveWorkflowRunStatus platform).jobTable =
      (resources.decidedStatus platform).jobTable :=
    congrArg (Option.getD · ∅) Resources.jobs_deriveWorkflowRunStatus
  rw [same]
  unfold Resources.decidedStatus
  split
  · exact ⟨_, decided, .intro actions (.inl rfl) fun _ => rfl⟩
  rename_i live
  rw [WorkflowRunStatus.jobTable_mapJobs _ deriveSkippedJobStatuses_empty]
  obtain ⟨next, last, skipped⟩ := lookup_skipRounds decided
    (resources.projectedStatus platform).jobTable.sortedKeys
    (resources.projectedStatus platform).jobTable.sortedKeys.length
  exact ⟨next, last, .intro actions skipped fun cancelled => absurd cancelled live⟩

end Kruntimes.Workflow
