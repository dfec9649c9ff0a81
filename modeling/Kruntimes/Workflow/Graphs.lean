import Kruntimes.Workflow.Status
import Kruntimes.Workflow.Template
import Kruntimes.Workflow.Validation
import Mathlib.Data.String.Basic

/-!
# The graphs of jobs and of calls

The needs of the jobs and the calls between Workflows are each checked by a depth-first
search.  The search of the jobs is exact.  The search of the calls also bounds the depth,
but of the first path to a Workflow only.
-/

namespace Kruntimes.Workflow

open Api Data

/-! ## Jobs -/

section Jobs

variable {jobs other : JobSpecs}

/-- Every need names a job, and no job needs itself through others. -/
structure JobSpecs.IsDAG (jobs : JobSpecs) : Prop where
  known : ∀ jobName, ∀ need ∈ jobs.needs jobName, need ∈ jobs
  acyclic : ∀ jobName, ¬Relation.TransGen (fun node need => need ∈ jobs.needs node) jobName jobName

/-- What an error message says about the jobs. -/
inductive JobSpecs.Rejects (jobs : JobSpecs) : String → Prop
  | unknown {jobName need : String} (needed : need ∈ jobs.needs jobName) (missing : need ∉ jobs) :
      Rejects jobs ("job " ++ quoted jobName ++ " needs unknown job " ++ quoted need)
  | cycle {walk : List String} (closed : ClosedWalk jobs.needs walk) :
      Rejects jobs ("workflow job dependency cycle: " ++ " -> ".intercalate walk)

theorem JobSpecs.Rejects.not_isDAG {message : String} (rejects : jobs.Rejects message) :
    ¬jobs.IsDAG := by
  rintro ⟨known, acyclic⟩
  cases rejects with
  | unknown needed missing => exact missing (known _ _ needed)
  | cycle closed =>
    obtain ⟨node, cycle⟩ := closed.transGen
    exact acyclic node cycle

/-- Only jobs have needs. -/
theorem JobSpecs.mem_of_mem_needs {jobName need : String} (needed : need ∈ jobs.needs jobName) :
    jobName ∈ jobs := by
  unfold JobSpecs.needs at needed
  cases found : jobs.lookup jobName with
  | none =>
    rw [found] at needed
    cases needed
  | some => exact AList.lookup_isSome.mp (found ▸ rfl)

/-- The jobs on the stack are a walk along the needs, and no job stands there twice; so the
search ends before its depth is used up. -/
theorem visitJob_eq_error {depth : Nat} {stack visited : List String} {jobName message : String}
    (walk : (stack ++ [jobName]).IsChain fun node need => need ∈ jobs.needs node)
    (inside : ∀ node ∈ stack, node ∈ jobs) (nodup : stack.Nodup)
    (room : jobs.keys.length < depth + stack.length)
    (failed : visitJob jobs depth stack visited jobName = .error message) :
    jobs.Rejects message := by
  induction depth generalizing stack visited jobName with
  | zero =>
    have fits : stack.length ≤ jobs.keys.length :=
      (List.subperm_of_subset nodup fun node mem => AList.mem_keys.mp (inside node mem)).length_le
    omega
  | succ depth ih =>
    rw [visitJob] at failed
    split at failed
    · cases failed
    split at failed
    next again =>
      cases failed
      exact .cycle (closedWalk_of_mem walk again)
    next fresh =>
      split at failed
      next folded =>
        cases failed
        obtain ⟨need, listed, _, stopped⟩ := exists_of_foldlM_eq_error folded
        have needed : need ∈ jobs.needs jobName := (List.mem_insertionSort _).mp listed
        split at stopped
        · refine ih ?_ ?_ ?_ ?_ stopped
          · rw [List.append_assoc]
            exact List.isChain_append_cons_cons.mpr ⟨walk, needed, List.isChain_singleton _⟩
          · intro node mem
            rcases List.mem_append.mp mem with early | last
            · exact inside node early
            · rw [List.mem_singleton.mp last]
              exact JobSpecs.mem_of_mem_needs needed
          · exact List.nodup_append_comm.mp (List.nodup_cons.mpr ⟨fresh, nodup⟩)
          · rw [List.length_append, List.length_singleton]
            omega
        next missing =>
          cases stopped
          exact .unknown needed missing
      · cases failed

/-- The search does not see the order of the entries. -/
theorem visitJob_of_perm (same : jobs.entries.Perm other.entries) (depth : Nat) :
    visitJob jobs depth = visitJob other depth := by
  have lookup : ∀ name, jobs.lookup name = other.lookup name := fun name => AList.perm_lookup same
  have mem : ∀ name, name ∈ jobs ↔ name ∈ other := fun name => by
    rw [← AList.lookup_isSome, lookup, AList.lookup_isSome]
  induction depth with
  | zero => rfl
  | succ depth ih =>
    funext stack visited jobName
    simp only [visitJob, lookup, mem, ih]

/-- `validateWorkflowJobDAG` is exact: it accepts the acyclic graphs of known jobs, names an
unknown job or a cycle otherwise, and does not depend on the order of the map. -/
theorem validateWorkflowJobDAG_exact (jobs : JobSpecs) :
    ((∃ order, validateWorkflowJobDAG jobs = .ok order) ↔ jobs.IsDAG) ∧
      (∀ message, validateWorkflowJobDAG jobs = .error message → jobs.Rejects message) ∧
      ∀ other : JobSpecs, jobs.entries.Perm other.entries →
        validateWorkflowJobDAG other = validateWorkflowJobDAG jobs := by
  have rejects : ∀ message, validateWorkflowJobDAG jobs = .error message →
      jobs.Rejects message := by
    intro message failed
    obtain ⟨_, _, _, stopped⟩ := exists_of_foldlM_eq_error failed
    apply visitJob_eq_error _ _ List.nodup_nil _ stopped <;> simp
  refine ⟨⟨?_, ?_⟩, rejects, ?_⟩
  · rintro ⟨_, valid⟩
    obtain ⟨ordered, listed⟩ := validateWorkflowJobDAG_eq_ok valid
    constructor
    · intro jobName need needed
      exact listed.mp (ordered.supplied (listed.mpr (JobSpecs.mem_of_mem_needs needed)) needed)
    · intro jobName cycle
      obtain ⟨_, needed, _⟩ := Relation.TransGen.head'_iff.mp cycle
      exact ordered.acyclic jobName (listed.mpr (JobSpecs.mem_of_mem_needs needed)) cycle
  · intro dag
    cases outcome : validateWorkflowJobDAG jobs with
    | ok order => exact ⟨order, rfl⟩
    | error message => exact absurd dag (rejects message outcome).not_isDAG
  · intro other same
    have keys : jobs.keys.Perm other.keys := same.map _
    unfold validateWorkflowJobDAG Table.sortedKeys
    rw [visitJob_of_perm same, Table.insertionSort_of_perm keys, keys.length_eq]

end Jobs

/-! ## Skipped jobs -/

section Skipping

variable {jobs next : JobStatuses} {jobName : String} {names : List String}

/-- The jobs that a job waits for. -/
def JobStatuses.pre (jobs : JobStatuses) (jobName : String) : List String :=
  (jobs.lookup jobName).elim [] JobStatus.pre

/-- The job has failed or is skipped. -/
def JobStatuses.blocks (jobs : JobStatuses) (jobName : String) : Bool :=
  (jobs.lookup jobName).any fun job => job.phase == .failed || job.phase == .skipped

/-- A job that has failed or is skipped can be reached along the needs. -/
def JobStatuses.IsBlocked (jobs : JobStatuses) (jobName : String) : Prop :=
  ∃ target, Relation.ReflTransGen (fun node need => need ∈ jobs.pre node) jobName target ∧
    jobs.blocks target = true

/-- Skip the marked jobs that have not started. -/
def markSkipped (marks : String → Bool) (jobs : JobStatuses) : JobStatuses :=
  jobs.mapValues fun name job =>
    if marks name && job.phase.isWaiting then { job with phase := .skipped } else job

/-- How many jobs have not started. -/
def JobStatuses.waits (jobs : JobStatuses) : Nat :=
  jobs.entries.countP fun entry => entry.2.phase.isWaiting

/-- Only blocked jobs have been skipped. -/
def Skips (jobs next : JobStatuses) : Prop :=
  ∃ marks, next = markSkipped marks jobs ∧ ∀ name, marks name = true → jobs.IsBlocked name

theorem markSkipped_congr {marks others : String → Bool}
    (same : ∀ name job, jobs.lookup name = some job → job.phase.isWaiting = true →
      marks name = others name) : markSkipped marks jobs = markSkipped others jobs := by
  apply AList.ext
  apply List.map_congr_left
  rintro ⟨name, job⟩ mem
  dsimp only
  cases waits : job.phase.isWaiting with
  | false => simp
  | true => rw [same name job (Table.mem_entries_iff.mp mem) waits]

theorem Skips.refl (jobs : JobStatuses) : Skips jobs jobs := by
  refine ⟨fun _ => false, ?_, nofun⟩
  apply AList.ext
  simp [markSkipped, Table.mapValues]

theorem Skips.skipJob (skips : Skips jobs next) (jobName : String) :
    Skips jobs (skipJob next jobName) := by
  unfold Workflow.skipJob
  split
  · exact skips
  rename_i found
  split
  next due =>
    rw [Bool.and_eq_true] at due
    obtain ⟨marks, rfl, blocked⟩ := skips
    rw [markSkipped, Table.lookup_mapValues] at found
    obtain ⟨job, stored, rfl⟩ := Option.map_eq_some_iff.mp found
    refine ⟨fun name => marks name || name == jobName, ?_, ?_⟩
    · -- the job has not started, so it is marked now
      apply AList.ext
      refine (List.map_map ..).trans (List.map_congr_left ?_)
      rintro ⟨name, _⟩ mem
      dsimp only [Function.comp]
      by_cases here : name = jobName
      · subst here
        cases stored.symm.trans (Table.mem_entries_iff.mp mem)
        cases marked : marks name && job.phase.isWaiting <;> simp_all
      · simp [here]
    · intro name marked
      rw [Bool.or_eq_true, beq_iff_eq] at marked
      rcases marked with old | rfl
      · exact blocked name old
      obtain ⟨need, listed, blocks⟩ := List.any_eq_true.mp due.2
      have needed : need ∈ jobs.pre name := by
        rw [JobStatuses.pre, stored]
        split at listed <;> exact listed
      -- the need has been skipped before or blocks from the start
      suffices reached : jobs.IsBlocked need by
        obtain ⟨target, path, blocking⟩ := reached
        exact ⟨target, .head needed path, blocking⟩
      cases marked : marks need with
      | true => exact blocked need marked
      | false =>
        refine ⟨need, .refl, ?_⟩
        rw [markSkipped, Table.lookup_mapValues, Option.any_map] at blocks
        simpa [JobStatuses.blocks, marked] using blocks
  · exact skips

theorem Skips.foldl (skips : Skips jobs next) (names : List String) :
    Skips jobs (names.foldl Workflow.skipJob next) := by
  induction names generalizing next with
  | nil => exact skips
  | cons name rest ih => exact ih (skips.skipJob name)

theorem Skips.skipRounds (skips : Skips jobs next) (names : List String) (rounds : Nat) :
    Skips jobs (skipRounds names rounds next) := by
  induction rounds generalizing next with
  | zero => exact skips
  | succ rounds ih =>
    rw [Workflow.skipRounds]
    split
    · exact skips
    · exact ih (skips.foldl names)

/-- A job that is skipped does not wait any more. -/
theorem Skips.eq_or_waits_lt (skips : Skips jobs next) : next = jobs ∨ next.waits < jobs.waits := by
  obtain ⟨marks, rfl, _⟩ := skips
  refine (map_eq_or_countP_lt ?_ jobs.entries).imp_left AList.ext
  rintro ⟨name, job⟩
  cases marked : marks name && job.phase.isWaiting with
  | false => simp [marked]
  | true =>
    rw [Bool.and_eq_true] at marked
    exact .inr ⟨marked.2, by simp only [marked, Bool.and_self, if_true]; rfl⟩

/-- As many rounds as jobs that have not started lead to a fixed point. -/
theorem foldl_skipRounds {rounds : Nat} (bounded : jobs.waits ≤ rounds) :
    names.foldl skipJob (skipRounds names rounds jobs) = skipRounds names rounds jobs := by
  induction rounds generalizing jobs with
  | zero => exact ((Skips.refl jobs).foldl names).eq_or_waits_lt.resolve_right (by omega)
  | succ rounds ih =>
    rw [skipRounds]
    split
    · assumption
    rename_i changed
    have less := ((Skips.refl jobs).foldl names).eq_or_waits_lt.resolve_left changed
    exact ih (by omega)

/-- In a fixed point no single job is due. -/
theorem skipJob_of_fixed (fixed : names.foldl skipJob jobs = jobs) :
    ∀ name ∈ names, skipJob jobs name = jobs := by
  induction names with
  | nil => nofun
  | cons first rest ih =>
    rw [List.foldl_cons] at fixed
    have same : skipJob jobs first = jobs := by
      rcases ((Skips.refl jobs).skipJob first).eq_or_waits_lt with same | _
      · exact same
      rcases ((Skips.refl (skipJob jobs first)).foldl rest).eq_or_waits_lt with back | more
      · exact back.symm.trans fixed
      · rw [fixed] at more
        omega
    rw [same] at fixed
    intro name mem
    rcases List.mem_cons.mp mem with rfl | later
    · exact same
    · exact ih fixed name later

/-- Jobs that have started have only needs that succeeded. -/
def JobStatuses.StartedReady (jobs : JobStatuses) : Prop :=
  ∀ name job, jobs.lookup name = some job → job.phase.isWaiting = false → job.phase ≠ .skipped →
    ∀ need ∈ job.pre, (jobs.lookup need).any (·.phase == .succeeded) = true

theorem lookup_markSkipped (marks : String → Bool) (jobs : JobStatuses) (name : String) :
    (markSkipped marks jobs).lookup name = (jobs.lookup name).map fun job =>
      if marks name && job.phase.isWaiting then { job with phase := .skipped } else job :=
  Table.lookup_mapValues ..

/-- Where no single job is due, every blocked job has failed or is skipped. -/
theorem blocks_of_isBlocked {marks : String → Bool} (ready : jobs.StartedReady)
    (fixed : ∀ name, skipJob (markSkipped marks jobs) name = markSkipped marks jobs)
    (blocked : jobs.IsBlocked jobName) : (markSkipped marks jobs).blocks jobName = true := by
  obtain ⟨_, path, blocking⟩ := blocked
  -- along the needs, from the job that blocks
  induction path using Relation.ReflTransGen.head_induction_on with
  | refl =>
    obtain ⟨job, found, _⟩ := (Option.any_eq_true _ _).mp blocking
    rw [JobStatuses.blocks, lookup_markSkipped, found]
    cases phase : job.phase <;> simp_all [JobPhase.isWaiting]
  | @head name need needed _ ih =>
    cases found : jobs.lookup name with
    | none => simp [JobStatuses.pre, found] at needed
    | some job =>
      rw [JobStatuses.pre, found] at needed
      have after := lookup_markSkipped marks jobs name
      rw [found, Option.map_some] at after
      rw [JobStatuses.blocks, after]
      cases marked : marks name && job.phase.isWaiting with
      | true => rfl
      | false =>
        rw [marked, if_neg Bool.false_ne_true] at after
        by_contra open_
        cases waits : job.phase.isWaiting with
        | true =>
          -- the job still waits for a need that blocks, so it is due
          have due : hasFailedOrSkippedDependency job (markSkipped marks jobs) = true :=
            List.any_eq_true.mpr ⟨need, needed, ih⟩
          have same := congrArg (AList.lookup name) (fixed name)
          simp only [skipJob, after, waits, due, Bool.and_self, if_true,
            Table.lookup_modify_self, Option.map_some] at same
          rw [← Option.some.inj same] at waits
          cases waits
        | false =>
          have skipped : job.phase ≠ .skipped := by
            intro phase
            simp [phase] at open_
          obtain ⟨_, stored, _⟩ :=
            (Option.any_eq_true _ _).mp (ready name job found waits skipped need needed)
          rw [JobStatuses.blocks, lookup_markSkipped, stored] at ih
          simp_all [JobPhase.isWaiting]

/-- The rounds skip exactly the blocked jobs that have not started. -/
theorem skipRounds_eq {rounds : Nat} (ready : jobs.StartedReady)
    (every : ∀ name ∈ jobs, name ∈ names) (bounded : jobs.waits ≤ rounds) :
    ∃ marks, skipRounds names rounds jobs = markSkipped marks jobs ∧
      ∀ name job, jobs.lookup name = some job → job.phase.isWaiting = true →
        (marks name = true ↔ jobs.IsBlocked name) := by
  obtain ⟨marks, result, blocked⟩ := (Skips.refl jobs).skipRounds names rounds
  have fixed : ∀ name, skipJob (markSkipped marks jobs) name = markSkipped marks jobs := by
    intro name
    by_cases mem : name ∈ names
    · rw [← result]
      exact skipJob_of_fixed (foldl_skipRounds bounded) name mem
    have missing : jobs.lookup name = none :=
      AList.lookup_eq_none.mpr fun stored => mem (every name stored)
    simp [skipJob, lookup_markSkipped, missing]
  refine ⟨marks, result, fun name job found waits => ⟨blocked name, fun reached => ?_⟩⟩
  have blocks := blocks_of_isBlocked ready fixed reached
  rw [JobStatuses.blocks, lookup_markSkipped, found] at blocks
  by_contra unmarked
  cases phase : job.phase <;> simp_all [JobPhase.isWaiting]

theorem waits_le_length (jobs : JobStatuses) : jobs.waits ≤ jobs.keys.length :=
  List.countP_le_length.trans (List.length_map _).ge

/-- In statuses whose started jobs have only needs that succeeded, exactly the blocked jobs
that have not started become skipped and nothing else changes; another round changes nothing,
nor does another derivation, and the jobs may be visited in any order. -/
theorem deriveSkippedJobStatuses_exact (jobs : JobStatuses) (ready : jobs.StartedReady) :
    (∀ name, jobs.lookup name = none → (deriveSkippedJobStatuses jobs).lookup name = none) ∧
      (∀ name job, jobs.lookup name = some job → (job.phase.isWaiting = true ∧ jobs.IsBlocked name →
          (deriveSkippedJobStatuses jobs).lookup name = some { job with phase := .skipped }) ∧
        (¬ (job.phase.isWaiting = true ∧ jobs.IsBlocked name) →
          (deriveSkippedJobStatuses jobs).lookup name = some job)) ∧
      jobs.sortedKeys.foldl skipJob (deriveSkippedJobStatuses jobs) =
        deriveSkippedJobStatuses jobs ∧
      deriveSkippedJobStatuses (deriveSkippedJobStatuses jobs) = deriveSkippedJobStatuses jobs ∧
      ∀ names, names.Perm jobs.keys →
        skipRounds names names.length jobs = deriveSkippedJobStatuses jobs := by
  have sorted : jobs.sortedKeys.Perm jobs.keys := List.perm_insertionSort _ _
  have fixed : jobs.sortedKeys.foldl skipJob (deriveSkippedJobStatuses jobs) =
      deriveSkippedJobStatuses jobs :=
    foldl_skipRounds ((waits_le_length jobs).trans sorted.length_eq.ge)
  have eq : ∀ names : List String, names.Perm jobs.keys → _ := fun names perm =>
    skipRounds_eq ready (fun _ => perm.mem_iff.mpr) ((waits_le_length jobs).trans perm.length_eq.ge)
  obtain ⟨marks, result, exact_⟩ := eq _ sorted
  change deriveSkippedJobStatuses jobs = _ at result
  refine ⟨?_, ?_, fixed, ?_, ?_⟩
  · intro name missing
    rw [result, lookup_markSkipped, missing]
    rfl
  · intro name job found
    rw [result, lookup_markSkipped, found]
    cases waits : job.phase.isWaiting with
    | false => simp [waits]
    | true =>
      rw [← exact_ name job found waits]
      cases marks name <;> simp [waits]
  · -- the keys are the same, so the first round already changes nothing
    have keys : (deriveSkippedJobStatuses jobs).sortedKeys = jobs.sortedKeys := by
      rw [result, Table.sortedKeys, markSkipped, Table.keys_mapValues]
      rfl
    rw [deriveSkippedJobStatuses, keys]
    cases jobs.sortedKeys.length with
    | zero => rfl
    | succ => rw [skipRounds, fixed, if_pos rfl]
  · intro names perm
    obtain ⟨_, same, exact'⟩ := eq names perm
    rw [same, result]
    apply markSkipped_congr
    intro name job found waits
    rw [Bool.eq_iff_iff, exact' name job found waits, exact_ name job found waits]

/-- A job that waits for a failed one. -/
def failedChain : JobStatuses :=
  ((∅ : JobStatuses).insert "build" { phase := .failed }).insert "test"
    { phase := .pending, pre := ["build"] }

theorem deriveSkippedJobStatuses_failedChain :
    failedChain.StartedReady ∧ (deriveSkippedJobStatuses failedChain).lookup "test" =
        some { phase := .skipped, pre := ["build"] } := by
  have ready : failedChain.StartedReady := by
    intro name job found started _ need listed
    rcases Table.lookup_insert_cases found with ⟨rfl, rfl⟩ | ⟨_, found⟩
    · cases started
    rcases Table.lookup_insert_cases found with ⟨rfl, rfl⟩ | ⟨_, found⟩
    · cases listed
    · cases found
  have reached : failedChain.IsBlocked "test" := ⟨"build", .single (by decide), by decide⟩
  exact ⟨ready, ((deriveSkippedJobStatuses_exact failedChain ready).2.1 "test" _ rfl).1
    ⟨rfl, reached⟩⟩

end Skipping

/-! ## Calls -/

abbrev WorkflowLookup := String → Except String WorkflowSpec

/-- The Workflows that a Workflow calls. -/
def WorkflowLookup.callees (find : WorkflowLookup) (name : String) : List String :=
  match find name with
  | .ok workflow => calledWorkflowNames workflow.jobs
  | .error _ => []

/-- A path of calls from the root. -/
structure CallPath (find : WorkflowLookup) (root : String) (path : List String) : Prop where
  start : path.head? = some root
  calls : path.IsChain fun name callee => callee ∈ find.callees name

/-- Where the paths part, the first one goes to the smaller name. -/
def Earlier (path other : List String) : Prop :=
  ∃ stem one two rest behind, path = stem ++ one :: rest ∧ other = stem ++ two :: behind ∧ one < two

/-- A path of calls that no other path to the same Workflow comes before. -/
structure FirstPath (find : WorkflowLookup) (root : String) (path : List String) : Prop
    extends CallPath find root path where
  first : ∀ other, CallPath find root other → other.getLast? = path.getLast? → ¬ Earlier other path

/-- The Workflows on the paths from the root exist, and none calls itself. -/
structure CallsFound (find : WorkflowLookup) (root : String) : Prop where
  named : root ≠ ""
  known : ∀ path, CallPath find root path → ∀ name ∈ path, ∃ workflow, find name = .ok workflow
  acyclic : ∀ path, CallPath find root path → path.Nodup

/-- What `ValidateCallGraph` is to accept. -/
structure CallsValid (find : WorkflowLookup) (root : String) : Prop
    extends CallsFound find root where
  shallow : ∀ path, CallPath find root path → path.length ≤ maxCallDepth

/-- The same Workflows, with their jobs in any order. -/
def SameWorkflows (find other : WorkflowLookup) : Prop :=
  ∀ name, match find name, other name with
    | .ok one, .ok two => one.jobs.entries.Perm two.jobs.entries
    | .error one, .error two => one = two
    | _, _ => False

/-- `ValidateCallGraph` is exact for these Workflows. -/
def ExactCalls (find : WorkflowLookup) (root : String) : Prop :=
  (validateCallGraph root find = .ok () ↔ CallsValid find root) ∧
    ∀ other, SameWorkflows find other → validateCallGraph root other = validateCallGraph root find

section Calls

variable {find other : WorkflowLookup} {root name : String} {room : Nat}
  {stack visited after : List String}

theorem CallPath.snoc {callee : String} {workflow : WorkflowSpec}
    (path : CallPath find root (stack ++ [name])) (found : find name = .ok workflow)
    (called : callee ∈ calledWorkflowNames workflow.jobs) :
    CallPath find root (stack ++ [name] ++ [callee]) where
  start := by
    rw [List.head?_append, path.start]
    rfl
  calls := by
    rw [List.append_assoc]
    refine List.isChain_append_cons_cons.mpr ⟨path.calls, ?_, List.isChain_singleton _⟩
    rw [WorkflowLookup.callees, found]
    exact called

/-- The search does not come back to a Workflow on its way. -/
theorem CallsFound.not_mem (found : CallsFound find root)
    (path : CallPath find root (stack ++ [name])) : name ∉ stack := fun again =>
  (List.nodup_append.mp (found.acyclic _ path)).2.2 name again name (.head _) rfl

/-- Where the search stands: what it has visited is closed under calls and has everything to
which an earlier path leads. -/
structure Searched (find : WorkflowLookup) (root : String) (visited path : List String) : Prop where
  ordered : DependencyOrder find.callees visited
  earlier : ∀ other last, CallPath find root other → other.getLast? = some last →
    Earlier other path → last ∈ visited

theorem searched_root : Searched find root [] [root] where
  ordered := .nil
  earlier := by
    rintro other last path - ⟨stem, one, two, rest, behind, rfl, split, less⟩
    have single := congrArg List.length split
    cases stem with
    | nil =>
      cases split
      cases path.start
      exact absurd less (lt_irrefl _)
    | cons => simp at single

/-- A Workflow that is visited for the first time is reached by its first path. -/
theorem Searched.firstPath (searched : Searched find root visited (stack ++ [name]))
    (path : CallPath find root (stack ++ [name])) (fresh : name ∉ visited) :
    FirstPath find root (stack ++ [name]) where
  toCallPath := path
  first other calls same earlier := fresh
    (searched.earlier other name calls (same.trans List.getLast?_concat) earlier)

/-- A closed list has a path of calls whole when it has its start. -/
theorem mem_of_closed {path : List String} (ordered : DependencyOrder find.callees visited)
    (calls : path.IsChain fun name callee => callee ∈ find.callees name)
    (start : path.head? = some name) (mem : name ∈ visited) : ∀ node ∈ path, node ∈ visited := by
  refine calls.induction _ _ (fun _ _ called listed => ordered.supplied listed called) ?_
  intro nonempty
  cases (List.head?_eq_some_head nonempty).symm.trans start
  exact mem

/-- The search goes on to a callee when it has visited all callees with smaller names. -/
theorem Searched.callee {workflow : WorkflowSpec} {done rest : List String} {callee : String}
    (searched : Searched find root visited (stack ++ [name])) (found : find name = .ok workflow)
    (split : calledWorkflowNames workflow.jobs = done ++ callee :: rest)
    (ordered : DependencyOrder find.callees after) (grown : visited ⊆ after)
    (listed : done ⊆ after) :
    Searched find root after (stack ++ [name] ++ [callee]) where
  ordered := ordered
  earlier := by
    rintro other last path ends ⟨stem, one, two, tail, behind, rfl, parts, less⟩
    rcases List.eq_nil_or_concat behind with rfl | ⟨front, final, rfl⟩
    · -- the paths part at the callees
      obtain ⟨rfl, same⟩ := List.append_inj' parts rfl
      cases same
      obtain ⟨-, chain, parted⟩ := List.isChain_append.mp path.calls
      have called : one ∈ find.callees name := parted name (by simp) one (by simp)
      rw [WorkflowLookup.callees, found] at called
      have sorted : (done ++ callee :: rest).Pairwise (· ≤ ·) := by
        rw [← split]
        exact List.pairwise_insertionSort _ _
      have before : one ∈ done := by
        simp only [split] at called
        rcases List.mem_append.mp called with early | late
        · exact early
        refine absurd less (not_lt.mpr ?_)
        rcases List.mem_cons.mp late with rfl | later
        · exact le_rfl
        · exact (List.pairwise_cons.mp (List.pairwise_append.mp sorted).2.1).1 one later
      rw [List.getLast?_append_of_ne_nil _ (List.cons_ne_nil _ _)] at ends
      exact mem_of_closed ordered chain rfl (listed before) last (List.mem_of_getLast? ends)
    · -- they part before
      rw [List.concat_eq_append, ← List.cons_append, ← List.append_assoc] at parts
      obtain ⟨same, -⟩ := List.append_inj' parts rfl
      exact grown (searched.earlier _ last path ends
        ⟨stem, one, two, tail, front, rfl, same, less⟩)

/-- A Workflow whose first path is short enough. -/
def Reached (find : WorkflowLookup) (root name : String) : Prop :=
  ∃ path, FirstPath find root path ∧ path.getLast? = some name ∧ path.length ≤ maxCallDepth

/-- The search lists what it visits after all that it calls, and reaches each Workflow on its
first path.  It fails on the path from the root to where it stands. -/
theorem visitWorkflow_spec (searched : Searched find root visited (stack ++ [name]))
    (known : ∀ node ∈ visited, ∃ workflow, find node = .ok workflow)
    (reached : ∀ node ∈ visited, Reached find root node)
    (path : CallPath find root (stack ++ [name])) (depth : stack.length + room = maxCallDepth) :
    match visitWorkflow find room stack visited name with
    | .ok after => DependencyOrder find.callees after ∧
        (∀ node ∈ after, ∃ workflow, find node = .ok workflow) ∧ visited ⊆ after ∧ name ∈ after ∧
        ∀ node ∈ after, Reached find root node
    | .error _ => ¬ (CallsFound find root ∧
        ∀ path, FirstPath find root path → path.length ≤ maxCallDepth) := by
  induction room generalizing stack visited name with
  | zero =>
    rw [visitWorkflow]
    by_cases again : name ∈ stack
    · rw [if_pos again]
      exact fun valid => valid.1.not_mem path again
    rw [if_neg again]
    by_cases mem : name ∈ visited
    · rw [if_pos mem]
      exact ⟨searched.ordered, known, List.Subset.refl _, mem, reached⟩
    rw [if_neg mem]
    rintro ⟨-, shallow⟩
    have short := shallow _ (searched.firstPath path mem)
    rw [List.length_append, List.length_singleton] at short
    omega
  | succ room ih =>
    rw [visitWorkflow]
    by_cases again : name ∈ stack
    · rw [if_pos again]
      exact fun valid => valid.1.not_mem path again
    rw [if_neg again]
    by_cases mem : name ∈ visited
    · rw [if_pos mem]
      exact ⟨searched.ordered, known, List.Subset.refl _, mem, reached⟩
    rw [if_neg mem]
    cases found : find name with
    | error =>
      rintro ⟨valid, -⟩
      obtain ⟨_, there⟩ := valid.known _ path name (List.mem_append_right _ (.head _))
      cases found.symm.trans there
    | ok workflow =>
    have folded := prefix_invariant_of_foldlM (f := visitWorkflow find room (stack ++ [name]))
      (fun done state => (DependencyOrder find.callees state ∧
          ∀ node ∈ state, ∃ workflow, find node = .ok workflow) ∧
        (visited ⊆ state ∧ done ⊆ state) ∧ ∀ node ∈ state, Reached find root node)
      (by
        rintro done callee rest split state next ⟨⟨ordered, known⟩, ⟨grown, listed⟩, reached⟩ visits
        have spec := ih (searched.callee found split ordered grown listed) known reached
          (path.snoc found (by rw [split]; simp)) (by simp; omega)
        rw [visits] at spec
        obtain ⟨ordered, known, more, added, reached⟩ := spec
        refine ⟨⟨ordered, known⟩, ⟨List.Subset.trans grown more, ?_⟩, reached⟩
        exact List.append_subset.mpr ⟨List.Subset.trans listed more, by simpa using added⟩)
      (List.nil_append (calledWorkflowNames workflow.jobs)).symm
      ⟨⟨searched.ordered, known⟩, ⟨List.Subset.refl _, List.nil_subset _⟩, reached⟩
    dsimp only
    cases visits : (calledWorkflowNames workflow.jobs).foldlM
        (visitWorkflow find room (stack ++ [name])) visited with
    | error =>
      rw [visits] at folded
      obtain ⟨done, callee, rest, state, split, invariant, failed⟩ := folded
      obtain ⟨⟨ordered, known⟩, ⟨grown, listed⟩, reached⟩ := invariant
      have spec := ih (searched.callee found split ordered grown listed) known reached
        (path.snoc found (by rw [split]; simp)) (by simp; omega)
      rw [failed] at spec
      exact spec
    | ok state =>
      rw [visits] at folded
      obtain ⟨⟨ordered, known⟩, ⟨grown, listed⟩, reached⟩ := folded
      refine ⟨ordered.snoc fun callee called => listed ?_, ?_,
        List.Subset.trans grown (List.subset_append_left _ _),
        List.mem_append_right _ (.head _), ?_⟩
      · rw [WorkflowLookup.callees, found] at called
        exact called
      · intro node listed
        rcases List.mem_append.mp listed with early | last
        · exact known node early
        · rw [List.mem_singleton.mp last]
          exact ⟨workflow, found⟩
      · intro node listed
        rcases List.mem_append.mp listed with early | last
        · exact reached node early
        · rw [List.mem_singleton.mp last]
          exact ⟨_, searched.firstPath path mem, List.getLast?_concat, by simp; omega⟩

theorem Earlier.cons {path other : List String} (earlier : Earlier path other) (name : String) :
    Earlier (name :: path) (name :: other) := by
  obtain ⟨stem, one, two, rest, behind, rfl, rfl, less⟩ := earlier
  exact ⟨name :: stem, one, two, rest, behind, rfl, rfl, less⟩

/-- Of two paths one goes on where the other ends, or comes earlier. -/
theorem prefix_or_earlier (path other : List String) :
    (path <+: other ∨ other <+: path) ∨ Earlier path other ∨ Earlier other path := by
  induction path generalizing other with
  | nil => exact .inl (.inl (List.nil_prefix))
  | cons one rest ih =>
    cases other with
    | nil => exact .inl (.inr (List.nil_prefix))
    | cons two behind =>
      rcases lt_trichotomy one two with less | rfl | less
      · exact .inr (.inl ⟨[], one, two, rest, behind, rfl, rfl, less⟩)
      · rcases ih behind with (front | front) | earlier | earlier
        · exact .inl (.inl (List.cons_prefix_cons.mpr ⟨rfl, front⟩))
        · exact .inl (.inr (List.cons_prefix_cons.mpr ⟨rfl, front⟩))
        · exact .inr (.inl (earlier.cons one))
        · exact .inr (.inr (earlier.cons one))
      · exact .inr (.inr ⟨[], two, one, behind, rest, rfl, rfl, less⟩)

/-- A path without repetitions does not go on to where it stands. -/
theorem eq_of_prefix_of_getLast? {path other : List String} (front : path <+: other)
    (same : path.getLast? = other.getLast?) (nodup : other.Nodup) (nonempty : path ≠ []) :
    path = other := by
  obtain ⟨rest, rfl⟩ := front
  cases rest with
  | nil => rw [List.append_nil]
  | cons next rest =>
    rw [List.getLast?_append_of_ne_nil _ (List.cons_ne_nil _ _),
      List.getLast?_eq_some_getLast nonempty] at same
    exact absurd rfl ((List.nodup_append.mp nodup).2.2 _ (List.getLast_mem nonempty) _
      (List.mem_of_getLast? same.symm))

/-- In a graph without cycles a Workflow has one first path. -/
theorem FirstPath.unique {path other : List String} (found : CallsFound find root)
    (first : FirstPath find root path) (second : FirstPath find root other)
    (same : path.getLast? = other.getLast?) : path = other := by
  have nonempty : ∀ {path}, CallPath find root path → path ≠ [] := by
    rintro _ ⟨start, -⟩ rfl
    cases start
  rcases prefix_or_earlier path other with (front | front) | earlier | earlier
  · exact eq_of_prefix_of_getLast? front same (found.acyclic _ second.toCallPath)
      (nonempty first.toCallPath)
  · exact (eq_of_prefix_of_getLast? front same.symm (found.acyclic _ first.toCallPath)
      (nonempty second.toCallPath)).symm
  · exact absurd earlier (second.first path first.toCallPath same)
  · exact absurd earlier (first.first other second.toCallPath same.symm)

/-- What a search has visited after the root leads to nothing else, and nowhere twice. -/
theorem callsFound_of_ordered (named : root ≠ "") (ordered : DependencyOrder find.callees visited)
    (known : ∀ node ∈ visited, ∃ workflow, find node = .ok workflow) (mem : root ∈ visited) :
    CallsFound find root := by
  have inside : ∀ path, CallPath find root path → ∀ name ∈ path, name ∈ visited :=
    fun path calls => mem_of_closed ordered calls.calls calls.start mem
  refine ⟨named, fun path calls name listed => known name (inside path calls name listed), ?_⟩
  intro path calls
  have below := List.isChain_iff_pairwise.mp
    (calls.calls.imp fun _ _ called => Relation.TransGen.single called)
  refine below.imp_of_mem fun here _ later same => ?_
  exact ordered.acyclic _ (inside path calls _ here) (same ▸ later)

/-- `ValidateCallGraph` accepts a graph of existing Workflows without cycles in which the
first path to each Workflow is short enough. -/
theorem validateCallGraph_eq_ok_iff :
    validateCallGraph root find = .ok () ↔ CallsFound find root ∧
      ∀ path, FirstPath find root path → path.length ≤ maxCallDepth := by
  have searched : Searched find root [] ([] ++ [root]) := searched_root
  have spec := visitWorkflow_spec searched (by simp) (by simp) ⟨rfl, List.isChain_singleton _⟩
    (Nat.zero_add maxCallDepth)
  unfold validateCallGraph
  constructor
  · intro accepted
    split at accepted
    · cases accepted
    rename_i named
    cases visits : visitWorkflow find maxCallDepth [] [] root with
    | error => rw [visits] at accepted; cases accepted
    | ok after =>
    rw [visits] at spec
    obtain ⟨ordered, known, -, mem, reached⟩ := spec
    have found := callsFound_of_ordered named ordered known mem
    refine ⟨found, fun path first => ?_⟩
    have nonempty : path ≠ [] := by
      rintro rfl
      cases first.start
    have visited := mem_of_closed ordered first.calls first.start mem _ (List.getLast_mem nonempty)
    obtain ⟨other, second, ends, short⟩ := reached _ visited
    rw [first.unique found second ((List.getLast?_eq_some_getLast nonempty).trans ends.symm)]
    exact short
  · rintro ⟨valid, shallow⟩
    rw [if_neg valid.named]
    cases visits : visitWorkflow find maxCallDepth [] [] root with
    | ok => rfl
    | error =>
      rw [visits] at spec
      exact absurd ⟨valid, shallow⟩ spec

theorem visitWorkflow_of_same (same : SameWorkflows find other) :
    visitWorkflow other room = visitWorkflow find room := by
  induction room with
  | zero =>
    funext stack visited name
    rw [visitWorkflow, visitWorkflow]
  | succ room ih =>
    funext stack visited name
    have here := same name
    rw [visitWorkflow, visitWorkflow, ih]
    split at here
    next found there =>
      have names : calledWorkflowNames _ = calledWorkflowNames _ :=
        Table.insertionSort_of_perm ((here.map _).filter _).dedup
      simp only [found, there, names]
    next found there =>
      simp only [found, there, here]
    · cases here

/-- Among existing Workflows without cycles, no path of calls is too long if the first path to
each Workflow is not. -/
def FirstPathsDecide (find : WorkflowLookup) (root : String) : Prop :=
  CallsFound find root → (∀ path, FirstPath find root path → path.length ≤ maxCallDepth) →
    ∀ path, CallPath find root path → path.length ≤ maxCallDepth

/-- `ValidateCallGraph` is exact unless there is a Workflow whose first path in the order of the
names is short enough and from which a longer way to it leads too far. -/
theorem exactCalls_iff (find : WorkflowLookup) (root : String) :
    ExactCalls find root ↔ FirstPathsDecide find root := by
  constructor
  · rintro ⟨exact, _⟩ found shallow
    exact (exact.mp (validateCallGraph_eq_ok_iff.mpr ⟨found, shallow⟩)).shallow
  · intro decides
    refine ⟨?_, fun other same => ?_⟩
    · rw [validateCallGraph_eq_ok_iff]
      constructor
      · rintro ⟨found, shallow⟩
        exact ⟨found, decides found shallow⟩
      · rintro ⟨found, shallow⟩
        exact ⟨found, fun path first => shallow path first.toCallPath⟩
    · rw [validateCallGraph, visitWorkflow_of_same same]
      rfl

/-- Two Workflows lead to the same chain, the second one by a longer way. -/
def sharedTail : WorkflowLookup := fun name =>
  match [("r", ["a", "b"]), ("a", ["d"]), ("b", ["c"]), ("c", ["d"]), ("d", ["e"]), ("e", ["f"]),
    ("f", ["g"]), ("g", ["h"]), ("h", ["i"]), ("i", [])].lookup name with
  | none => .error "not found"
  | some callees =>
    .ok { jobs := callees.foldl (fun jobs callee => jobs.insert callee { uses := callee }) ∅ }

/-- The path through `b` has nine Workflows, and `d` is not looked at a second time. -/
theorem not_exactCalls_sharedTail : ¬ ExactCalls sharedTail "r" := by
  intro exact
  have accepted : validateCallGraph "r" sharedTail = .ok () := by decide +kernel
  have path : CallPath sharedTail "r" ["r", "b", "c", "d", "e", "f", "g", "h", "i"] :=
    ⟨rfl, by decide +kernel⟩
  exact absurd ((exact.1.mp accepted).shallow _ path) (by decide)

end Calls

end Kruntimes.Workflow
