import Kruntimes.Data.Dependency
import Kruntimes.Data.Loop
import Kruntimes.Workflow.Names

/-!
# Acceptance of a WorkflowRun

The checks of `applyInitializeWorkflowRun` before the execution snapshot is
stored, and the job statuses it starts from.

The dependency check is a depth-first search.  The jobs on its stack are the ones
being visited; the finished jobs are kept in the order in which they were
finished, which is a dependency order.  The stack never holds a job twice, so a
recursion depth of one more than the number of jobs is never used up.
-/

namespace Kruntimes.Workflow

open Api Data

variable {jobs : JobSpecs} {order : List String} {jobName : String}

/-! ## Jobs -/

/-- The message of a dependency cycle that closes at `jobName`. -/
def cycleMessage (stack : List String) (jobName : String) : String :=
  "workflow job dependency cycle: " ++
    " -> ".intercalate (stack.dropWhile (· != jobName) ++ [jobName])

/-- The closure `visit` of `validateWorkflowJobDAG`. -/
def visitJob (jobs : JobSpecs) :
    Nat → List String → List String → String → Except String (List String)
  | 0, stack, _, jobName => .error (cycleMessage stack jobName)
  | depth + 1, stack, visited, jobName =>
    if jobName ∈ visited then .ok visited
    else if jobName ∈ stack then .error (cycleMessage stack jobName)
    else
      match (((jobs.lookup jobName).elim [] JobSpec.needs).insertionSort (· ≤ ·)).foldlM
          (fun visited dependency =>
            if dependency ∈ jobs then
              visitJob jobs depth (stack ++ [jobName]) visited dependency
            else .error ("job " ++ quoted jobName ++ " needs unknown job " ++ quoted dependency))
          visited with
      | .error message => .error message
      | .ok visited => .ok (visited ++ [jobName])

/-- `validateWorkflowJobDAG`; the result lists the jobs in a dependency order. -/
def validateWorkflowJobDAG (jobs : JobSpecs) : Except String (List String) :=
  jobs.sortedKeys.foldlM (visitJob jobs (jobs.keys.length + 1) []) []

/-- The checks of one job. -/
def validateWorkflowRunJob (jobName : String) (job : JobSpec) : Except String Unit :=
  if job.uses ≠ "" then
    if job.runsOn ≠ "" ∨ job.steps ≠ [] then
      .error ("job " ++ quoted jobName ++ " uses reusable workflow " ++ quoted job.uses ++
        " and may not set runs-on or steps")
    else .ok ()
  else if job.runsOn = "" then
    .error ("job " ++ quoted jobName ++ " must set runs-on before creating child Runs")
  else if job.steps = [] then
    .error ("job " ++ quoted jobName ++
      " must contain at least one step before creating child Runs")
  else .ok ()

def validateWorkflowRunJobs (jobs : JobSpecs) : Except String (List String) :=
  match jobs.traverse validateWorkflowRunJob with
  | .error message => .error message
  | .ok _ => validateWorkflowJobDAG jobs

/-! ## Actions -/

/-- What a lookup of a named definition answers. -/
inductive LookupFailure
  | notFound
  | failed (message : String)

/-- The loop of `validateActionSpec`; `seen` holds the step names so far. -/
def validateActionSteps : List String → List StepSpec → Except String Unit
  | _, [] => .ok ()
  | seen, step :: rest =>
    if step.run = "" ∨ step.uses ≠ "" ∨ step.withValues.entries ≠ [] then
      .error ("Action step " ++ quoted step.name ++ " must set run and may not use another Action")
    else if step.name ∈ seen then
      .error ("Action step name " ++ quoted step.name ++ " is duplicated")
    else validateActionSteps (step.name :: seen) rest

def validateActionSpec (spec : ActionSpec) : Except String Unit :=
  if spec.steps = [] then .error "Action must contain at least one step"
  else validateActionSteps [] spec.steps

/-- One pass of the inner loop of `resolveWorkflowRunActions`. -/
def resolveStepAction (find : String → Except LookupFailure ActionSpec) (jobName : String)
    (actions : Table String ActionSnapshot) (step : StepSpec) :
    Except String (Table String ActionSnapshot) :=
  if step.uses = "" then .ok actions
  else
    let site := " for step " ++ quoted step.name ++ " in job " ++ quoted jobName
    match find step.uses with
    | .error .notFound => .error ("Action " ++ quoted step.uses ++ site ++ " does not exist")
    | .error (.failed message) =>
      .error ("get Action " ++ quoted step.uses ++ site ++ ": " ++ message)
    | .ok spec =>
      match validateActionSpec spec with
      | .error message =>
        .error ("validate Action " ++ quoted step.uses ++ site ++ ": " ++ message)
      | .ok () =>
        .ok (actions.insert (workflowActionSnapshotKey jobName step.name) ⟨step.uses, spec⟩)

def resolveWorkflowRunActions (find : String → Except LookupFailure ActionSpec)
    (jobs : JobSpecs) : Except String (Table String ActionSnapshot) :=
  jobs.sortedKeys.foldlM (fun actions jobName =>
    ((jobs.lookup jobName).elim [] JobSpec.steps).foldlM (resolveStepAction find jobName) actions) ∅

/-! ## Artifacts -/

/-- `strings.Cut` at the first occurrence of `separator`. -/
def cutAt (separator : List Char) : List Char → Option (List Char × List Char)
  | [] => if separator = [] then some ([], []) else none
  | symbol :: rest =>
    if separator.isPrefixOf (symbol :: rest) then
      some ([], (symbol :: rest).drop separator.length)
    else (cutAt separator rest).map fun found => (symbol :: found.1, found.2)

/-- `workflowArtifactSource`: the job and the artifact that a source names. -/
def workflowArtifactSource (source : String) : Except String (String × String) :=
  let complaint := "invalid artifact source " ++ quoted source ++
    " (expected jobs.<job-id>.artifacts.<name>)"
  if "jobs.".toList.isPrefixOf source.toList then
    match cutAt ".artifacts.".toList (source.toList.drop 5) with
    | none => .error complaint
    | some (jobName, artifactName) =>
      if jobName = [] ∨ artifactName = [] then .error complaint
      else .ok (String.ofList jobName, String.ofList artifactName)
  else .error complaint

def validateStepArtifactDependencies (jobName : String) (dependencies : List String) :
    List WorkflowArtifactInput → Except String Unit
  | [] => .ok ()
  | input :: rest =>
    match workflowArtifactSource input.source with
    | .error message => .error message
    | .ok (sourceJob, _) =>
      if sourceJob ∈ dependencies then
        validateStepArtifactDependencies jobName dependencies rest
      else .error ("job " ++ quoted jobName ++ " artifact input " ++ quoted input.source ++
        " must reference a direct needs dependency")

/-- The steps whose artifact inputs one step of a job brings in. -/
def executedSteps (actions : Table String ActionSnapshot) (jobName : String)
    (step : StepSpec) : List StepSpec :=
  if step.uses = "" then [step]
  else
    match actions.lookup (workflowActionSnapshotKey jobName step.name) with
    | none => []
    | some action => action.spec.steps

def validateWorkflowArtifactDependencies (jobs : JobSpecs)
    (actions : Table String ActionSnapshot) : Except String Unit :=
  (jobs.traverse fun jobName job =>
    (job.steps.flatMap (executedSteps actions jobName)).forM fun step =>
      validateStepArtifactDependencies jobName job.needs step.artifacts).map fun _ => ()

/-! ## The first status -/

def resolvedJobStatuses (jobs : JobSpecs) : JobStatuses :=
  jobs.mapValues fun _ job =>
    { phase := if job.needs = [] then .pending else .waiting
      pre := job.needs.insertionSort (· ≤ ·)
      steps := job.steps.map fun step => { name := step.name } }

/-- The Action steps of one step. -/
def initialActionSteps (actions : Table String ActionSnapshot) (jobName : String)
    (spec : StepSpec) (status : StepStatus) : StepStatus :=
  if spec.uses = "" then status
  else
    match actions.lookup (workflowActionSnapshotKey jobName spec.name) with
    | none => status
    | some action =>
      { status with
        actionSteps := action.spec.steps.map fun step => { name := step.name } }

def initializeActionStepStatuses (statuses : JobStatuses) (jobs : JobSpecs)
    (actions : Table String ActionSnapshot) : JobStatuses :=
  statuses.mapValues fun jobName status =>
    match jobs.lookup jobName with
    | none => status
    | some job =>
      { status with
        steps := List.zipWith (initialActionSteps actions jobName) job.steps status.steps }

/-- The first status of a job. -/
theorem lookup_initialStatuses (jobs : JobSpecs) (actions : Table String ActionSnapshot)
    (jobName : String) :
    (initializeActionStepStatuses (resolvedJobStatuses jobs) jobs actions).lookup jobName =
      (jobs.lookup jobName).map fun job =>
        { phase := if job.needs = [] then .pending else .waiting
          pre := job.needs.insertionSort (· ≤ ·)
          steps := job.steps.map fun step =>
            initialActionSteps actions jobName step { name := step.name } } := by
  unfold initializeActionStepStatuses resolvedJobStatuses
  rw [Table.lookup_mapValues, Table.lookup_mapValues, Option.map_map]
  cases found : jobs.lookup jobName with
  | none => rfl
  | some =>
    simp only [Option.map_some, Function.comp_apply]
    rw [List.zipWith_map_right, List.zipWith_self]

/-- The checks and lookups in front of `ensureWorkflowSnapshot`. -/
def acceptSnapshot (find : String → Except LookupFailure ActionSpec) (jobs : JobSpecs) :
    Except String Snapshot :=
  match validateWorkflowRunJobs jobs with
  | .error message => .error message
  | .ok _ =>
    match resolveWorkflowRunActions find jobs with
    | .error message => .error message
    | .ok actions =>
      match validateWorkflowArtifactDependencies jobs actions with
      | .error message => .error message
      | .ok () => .ok ⟨jobs, actions⟩

/-! ## What acceptance guarantees -/

/-- The needs of a job. -/
def JobSpecs.needs (jobs : JobSpecs) (jobName : String) : List String :=
  (jobs.lookup jobName).elim [] JobSpec.needs

/-- A successful search has added the job and everything it needs, in order. -/
theorem visitJob_eq_ok {depth : Nat} {stack visited : List String}
    (ordered : DependencyOrder jobs.needs visited) (inside : ∀ node ∈ visited, node ∈ jobs)
    (mem : jobName ∈ jobs) (done : visitJob jobs depth stack visited jobName = .ok order) :
    DependencyOrder jobs.needs order ∧ (∀ node ∈ order, node ∈ jobs) ∧ visited ⊆ order ∧
      jobName ∈ order := by
  induction depth generalizing stack visited order jobName with
  | zero => cases done
  | succ depth ih =>
    rw [visitJob] at done
    split at done
    next known =>
      cases done
      exact ⟨ordered, inside, List.Subset.refl _, known⟩
    · split at done
      · cases done
      split at done
      · cases done
      rename_i folded
      cases done
      -- the search of each need keeps the order and adds the need
      obtain ⟨⟨before, inside, grown⟩, supplied⟩ := forall_mem_of_foldlM
        (fun state => DependencyOrder jobs.needs state ∧ (∀ node ∈ state, node ∈ jobs) ∧
          visited ⊆ state)
        (fun need state => need ∈ state) (by
          rintro _ _ _ _ ⟨before, inside, grown⟩ stepped
          split at stepped
          next known =>
            obtain ⟨after, inside, more, added⟩ := ih before inside known stepped
            exact ⟨⟨after, inside, List.Subset.trans grown more⟩, added, fun other mem => more mem⟩
          · cases stepped) ⟨ordered, inside, List.Subset.refl _⟩ folded
      refine ⟨before.snoc fun need needed => supplied need ?_, ?_,
        List.Subset.trans grown (List.subset_append_left _ _),
        List.mem_append_right _ (.head _)⟩
      · rw [List.mem_insertionSort]
        exact needed
      · intro node listed
        rcases List.mem_append.mp listed with early | last
        · exact inside node early
        · rw [List.mem_singleton.mp last]
          exact mem

/-- The jobs of an accepted WorkflowRun have a dependency order. -/
theorem validateWorkflowJobDAG_eq_ok (valid : validateWorkflowJobDAG jobs = .ok order) :
    DependencyOrder jobs.needs order ∧ ∀ {jobName}, jobName ∈ order ↔ jobName ∈ jobs := by
  obtain ⟨⟨ordered, inside⟩, all⟩ := forall_mem_of_foldlM
    (fun state => DependencyOrder jobs.needs state ∧ ∀ node ∈ state, node ∈ jobs)
    (fun jobName state => jobName ∈ state) (by
      rintro _ listed _ _ ⟨before, inside⟩ stepped
      obtain ⟨after, inside, more, added⟩ :=
        visitJob_eq_ok before inside (Table.mem_sortedKeys.mp listed) stepped
      exact ⟨⟨after, inside⟩, added, fun other mem => more mem⟩)
    ⟨.nil, fun _ mem => absurd mem List.not_mem_nil⟩ valid
  exact ⟨ordered, fun {jobName} => ⟨inside jobName, fun mem =>
    all jobName (Table.mem_sortedKeys.mpr mem)⟩⟩

theorem validateActionSteps_eq_ok {seen : List String} {steps : List StepSpec}
    (valid : validateActionSteps seen steps = .ok ()) :
    (steps.map StepSpec.name).Nodup ∧ ∀ step ∈ steps, step.name ∉ seen := by
  induction steps generalizing seen with
  | nil => exact ⟨List.nodup_nil, fun _ mem => absurd mem List.not_mem_nil⟩
  | cons step rest ih =>
    rw [validateActionSteps] at valid
    split at valid
    · cases valid
    split at valid
    · cases valid
    rename_i fresh
    obtain ⟨distinct, apart⟩ := ih valid
    refine ⟨List.nodup_cons.mpr ⟨fun mem => ?_, distinct⟩, fun other mem => ?_⟩
    · obtain ⟨other, listed, same⟩ := List.mem_map.mp mem
      apply apart other listed
      rw [same]
      exact .head _
    · rcases List.mem_cons.mp mem with rfl | mem
      · exact fresh
      · exact fun known => apart other mem (.tail _ known)

/-- An accepted Action has steps, and their names differ. -/
theorem validateActionSpec_eq_ok {spec : ActionSpec} (valid : validateActionSpec spec = .ok ()) :
    spec.steps ≠ [] ∧ (spec.steps.map StepSpec.name).Nodup := by
  unfold validateActionSpec at valid
  split at valid
  · cases valid
  next nonempty =>
    exact ⟨nonempty, (validateActionSteps_eq_ok valid).1⟩

/-- What a table of resolved Actions holds: accepted Actions only. -/
def ActionsValid (actions : Table String ActionSnapshot) : Prop :=
  ∀ {key : String} {action : ActionSnapshot}, actions.lookup key = some action →
    action.spec.steps ≠ [] ∧ (action.spec.steps.map StepSpec.name).Nodup

theorem resolveStepAction_eq_ok {find : String → Except LookupFailure ActionSpec}
    {actions next : Table String ActionSnapshot} {step : StepSpec} (valid : ActionsValid actions)
    (resolved : resolveStepAction find jobName actions step = .ok next) :
    ActionsValid next ∧ (step.uses ≠ "" → workflowActionSnapshotKey jobName step.name ∈ next) ∧
      ∀ key, key ∈ actions → key ∈ next := by
  unfold resolveStepAction at resolved
  split at resolved
  next inline =>
    cases resolved
    exact ⟨valid, fun calls => absurd inline calls, fun _ mem => mem⟩
  · dsimp only at resolved
    split at resolved
    · cases resolved
    · cases resolved
    rename_i found
    split at resolved
    · cases resolved
    rename_i fine
    cases resolved
    refine ⟨fun {key action} listed => ?_, fun _ => (AList.mem_insert _).mpr (.inl rfl),
      fun key mem => (AList.mem_insert _).mpr (.inr mem)⟩
    rcases Table.lookup_insert_cases listed with ⟨rfl, rfl⟩ | ⟨_, listed⟩
    · exact validateActionSpec_eq_ok fine
    · exact valid listed

/-- A snapshot with an accepted Action for every step that calls one. -/
structure ActionsResolved (snapshot : Snapshot) : Prop where
  valid : ActionsValid snapshot.actions
  present : ∀ {jobName : String} {job : JobSpec}, snapshot.jobs.lookup jobName = some job →
    ∀ step ∈ job.steps, step.uses ≠ "" →
      workflowActionSnapshotKey jobName step.name ∈ snapshot.actions

/-- Every Action that a step calls is resolved. -/
theorem resolveWorkflowRunActions_eq_ok {find : String → Except LookupFailure ActionSpec}
    {snapshot : Snapshot}
    (resolved : resolveWorkflowRunActions find snapshot.jobs = .ok snapshot.actions) :
    ActionsResolved snapshot := by
  obtain ⟨valid, all⟩ := forall_mem_of_foldlM ActionsValid
    (fun jobName state => ∀ {job}, snapshot.jobs.lookup jobName = some job →
      ∀ step ∈ job.steps, step.uses ≠ "" → workflowActionSnapshotKey jobName step.name ∈ state) (by
      intro jobName _ state next before stepped
      -- along the steps of one job the table only grows
      obtain ⟨⟨after, grown⟩, added⟩ := forall_mem_of_foldlM
        (fun table => ActionsValid table ∧ ∀ key, key ∈ state → key ∈ table)
        (fun step table => step.uses ≠ "" → workflowActionSnapshotKey jobName step.name ∈ table) (by
          rintro _ _ _ _ ⟨fine, grown⟩ taken
          obtain ⟨still, present, more⟩ := resolveStepAction_eq_ok fine taken
          exact ⟨⟨still, fun key mem => more key (grown key mem)⟩, present,
            fun other known calls => more _ (known calls)⟩)
        ⟨before, fun _ mem => mem⟩ stepped
      refine ⟨after, fun {job} found step mem => ?_, fun other known => ?_⟩
      · rw [found] at added
        exact added step mem
      · exact fun found step mem calls => grown _ (known found step mem calls))
    (fun listed => absurd listed (by simp)) resolved
  refine ⟨valid, fun {jobName job} found => all jobName ?_ found⟩
  rw [Table.mem_sortedKeys, ← AList.lookup_isSome, found]
  rfl

end Kruntimes.Workflow
