import Kruntimes.Lifecycle.Writes

/-!
# Prepared sources

The source of a task is prepared once, right after its claim, but an execution is started
whenever a `Reconcile` finds the Run Running and no execution.  The working directory is
prepared at every `Execute` if it is so when a program takes up a Running copy, and if it is
not removed while anything is left that could still execute.
-/

namespace Kruntimes.Lifecycle

open Api Transition Runtimed

/-- `Execute` was requested with the source prepared in the working directory. -/
def Event.Sourced : Event → Prop
  | .executed _ _ _ _ prepared => prepared = true
  | _ => True

/-- The goroutine starts an execution. -/
def isStart : Goroutine → Bool
  | .startExecution _ _ => true
  | _ => false

/-- A program takes its first look with a Running copy only where the source is prepared, and
removes the directory only when no other program and no start is left on the Pod. -/
def keepsSource (action : Action) (world : World) : Bool :=
  match action with
  | .advance pod index _ =>
    match (world.nodes pod).threads[index]? with
    | none => true
    | some thread =>
      match thread.program with
      | .call (.query .memory) _ =>
        (world.nodes pod).prepared || (firstLook thread.exchanges).isSome ||
          !(held thread.exchanges).any fun run => run.status.phase == .running
      | .call (.query .cleanupRunFiles) _ =>
        (world.nodes pod).threads.length == 1 && !(world.nodes pod).memory.spawned.any isStart
      | _ => true
  | _ => true

/-- The program may still lead to an `Execute`. -/
def NeedsSource (history : History) : Prop :=
  Uncleaned history ∧ ((∃ handle attempt,
        (⟨.query .arguments, .startExecution handle attempt⟩ : Exchange runtimed) ∈ history) ∨
      ∃ run, LookedWith history run ∧ run.status.phase = .running)

theorem not_needsSource_nil : ¬ NeedsSource [] := by
  rintro ⟨_, ⟨_, _, mem⟩ | ⟨_, ⟨_, _, later, _⟩, _⟩⟩
  · cases mem
  · cases List.suffix_nil.mp later

/-- A goroutine may execute when it begins only if it starts an execution. -/
theorem isStart_of_needsSource {goroutine : Goroutine}
    (needs : NeedsSource [⟨.query .arguments, goroutine⟩]) :
    ∃ handle attempt, goroutine = .startExecution handle attempt := by
  obtain ⟨_, ⟨handle, attempt, mem⟩ | ⟨_, ⟨_, _, later, _⟩, _⟩⟩ := needs
  · cases List.mem_singleton.mp mem
    exact ⟨handle, attempt, rfl⟩
  · rcases List.suffix_cons_iff.mp later with newest | old
    · cases (List.cons.inj newest).1
    · cases List.suffix_nil.mp old

/-- Whatever may still execute has its source. -/
structure SourcedNode (node : Node) : Prop where
  spawned : ∀ handle attempt, .startExecution handle attempt ∈ node.memory.spawned →
    node.prepared = true
  threads : ∀ thread ∈ node.threads, NeedsSource thread.exchanges → node.prepared = true

theorem preparedAfter_of_ne {request : Call} {answer : Answer request}
    (other : request ≠ .query .cleanupRunFiles) : preparedAfter true request answer = true := by
  unfold preparedAfter
  split
  · exact Bool.or_true _
  · exact absurd rfl other
  · rfl

section Advance

variable {deployment : Deployment} {world : World} {pod : String} {i : Nat} {reply : Reply}
  {thread : Thread} {request : Call} {rest : Answer request → Process Result}
  {answer : Answer request}

/-- A program that may execute after an answer finds its source prepared. -/
theorem prepared_of_needsSource (sourced : SourcedNode (world.nodes pod))
    (guarded : keepsSource (.advance pod i reply) world = true)
    (answers : Answers world pod i reply thread request rest answer)
    (needs : NeedsSource (⟨request, answer⟩ :: thread.exchanges)) :
    (world.nodes pod).prepared = true := by
  obtain ⟨uncleaned, cause⟩ := needs
  have former := uncleaned.before (List.suffix_cons _ _)
  have earlier := sourced.threads thread answers.member
  rcases cause with ⟨handle, attempt, mem⟩ | ⟨run, ⟨seen, older, later, first, holds⟩, running⟩
  · rcases List.mem_cons.mp mem with same | old
    · cases same
      cases (answerCall_arguments _ _ _).symm.trans answers.answered
    · exact earlier ⟨former, .inl ⟨handle, attempt, old⟩⟩
  · rcases List.suffix_cons_iff.mp later with newest | old
    · -- The answer is the first look.
      obtain ⟨same, rfl⟩ := List.cons.inj newest
      cases same
      simpa [keepsSource, answers.found, answers.program, first, holds, running] using guarded
    · exact earlier ⟨former, .inr ⟨run, ⟨seen, older, old, first, holds⟩, running⟩⟩

/-- An answer other than that of a removal. -/
theorem SourcedNode.resume (sound : Sound deployment world)
    (sourced : SourcedNode (world.nodes pod))
    (guarded : keepsSource (.advance pod i reply) world = true)
    (answers : Answers world pod i reply thread request rest answer)
    (other : request ≠ .query .cleanupRunFiles) :
    SourcedNode ((world.nodes pod).resume i thread request rest answer reply) := by
  have kept (known : (world.nodes pod).prepared = true) :
      preparedAfter (world.nodes pod).prepared request answer = true := by
    rw [known]
    exact preparedAfter_of_ne other
  constructor
  · intro handle attempt mem
    apply kept
    revert handle attempt
    refine memory_settled (fun memory => ∀ handle attempt,
      .startExecution handle attempt ∈ memory.spawned → (world.nodes pod).prepared = true)
      sound answers ?_ ?_ sourced.spawned
    · intro edit memory allowed known handle attempt mem
      rcases mem_spawned_edit mem with before | rfl
      · exact known handle attempt before
      obtain ⟨run, _, running, _, _, _, engaged⟩ := allowed
      exact prepared_of_needsSource sourced guarded answers
        ⟨engaged.uncleaned, .inr ⟨run, engaged.looked, running⟩⟩
    · intro handle memory known
      exact known
  · intro changed mem needs
    apply kept
    simp only [Node.resume] at mem
    split at mem
    · exact sourced.threads changed (List.mem_of_mem_eraseIdx mem) needs
    rcases List.mem_cons.mp mem with rfl | old
    · exact prepared_of_needsSource sourced guarded answers needs
    · exact sourced.threads changed (List.mem_of_mem_eraseIdx old) needs

/-- A removal leaves nothing that may execute. -/
theorem sourcedNode_of_removal {answer : Option String} {rest : Option String → Process Result}
    (sound : Sound deployment world)
    (guarded : keepsSource (.advance pod i reply) world = true)
    (answers : Answers world pod i reply thread (.query .cleanupRunFiles) rest answer) :
    SourcedNode
      ((world.nodes pod).resume i thread (.query .cleanupRunFiles) rest answer reply) := by
  simp only [keepsSource, answers.found, answers.program, Bool.and_eq_true,
    Bool.not_eq_true', beq_iff_eq] at guarded
  obtain ⟨_, idle⟩ := guarded
  have cleaned : ¬ Uncleaned (⟨.query .cleanupRunFiles, answer⟩ :: thread.exchanges) :=
    fun uncleaned => uncleaned answer (.head _)
  have nobody : (world.nodes pod).threads.eraseIdx i = [] := by
    have bound := (List.getElem?_eq_some_iff.mp answers.found).1
    apply List.eq_nil_of_length_eq_zero
    rw [List.length_eraseIdx_of_lt bound]
    omega
  constructor
  · intro handle attempt mem
    exfalso
    revert handle attempt
    refine memory_settled (fun memory => ∀ handle attempt,
      .startExecution handle attempt ∈ memory.spawned → False) sound answers ?_ ?_ ?_
    · intro edit memory allowed known handle attempt mem
      rcases mem_spawned_edit mem with before | rfl
      · exact known handle attempt before
      · obtain ⟨_, _, _, _, _, _, engaged⟩ := allowed
        exact cleaned engaged.uncleaned
    · intro handle memory known
      exact known
    · intro handle attempt mem
      have none := List.any_eq_false.mp idle _ mem
      exact none rfl
  · intro changed mem needs
    simp only [Node.resume, nobody] at mem
    split at mem
    · cases mem
    · rcases List.mem_singleton.mp mem with rfl
      exact absurd needs.1 cleaned

end Advance

/-- What is known about every world that guarded steps lead to. -/
structure Sourced (deployment : Deployment) (world : World) : Prop where
  sound : Sound deployment world
  nodes : ∀ pod, SourcedNode (world.nodes pod)
  log : ∀ event ∈ world.log, event.Sourced

section Steps

variable {deployment : Deployment} {world next : World} {action : Action}

theorem sourcedNode_setNode {pod : String} {node : Node}
    (nodes : ∀ pod, SourcedNode (world.nodes pod)) (changed : SourcedNode node) (other : String) :
    SourcedNode ((world.setNode pod node).nodes other) := by
  by_cases same : other = pod
  · subst same
    simpa only [World.setNode, Function.update_self] using changed
  · simpa only [World.setNode, Function.update_of_ne same] using nodes other

/-- A program begins. -/
theorem SourcedNode.begin {node : Node} (sourced : SourcedNode node) {thread : Thread}
    (needs : NeedsSource thread.exchanges → node.prepared = true) :
    SourcedNode (node.begin thread) where
  spawned := sourced.spawned
  threads changed mem := by
    rcases List.mem_cons.mp mem with rfl | old
    · exact needs
    · exact sourced.threads changed old

/-- A goroutine that begins has its source if it starts an execution. -/
theorem SourcedNode.launch {node : Node} (sourced : SourcedNode node) {i : Nat}
    {goroutine : Goroutine} (spawned : node.memory.spawned[i]? = some goroutine)
    (program : Process Result) :
    SourcedNode ({ node with memory := node.memory.withoutSpawned i }.begin
      { worker := false, program, exchanges := [⟨.query .arguments, goroutine⟩] }) := by
  have rested : SourcedNode { node with memory := node.memory.withoutSpawned i } :=
    ⟨fun handle attempt mem =>
      sourced.spawned handle attempt (List.mem_of_mem_eraseIdx mem), sourced.threads⟩
  refine rested.begin fun needs => ?_
  obtain ⟨handle, attempt, rfl⟩ := isStart_of_needsSource needs
  exact sourced.spawned handle attempt (List.mem_of_getElem? spawned)

theorem sourcedNodes_of_step (sourced : Sourced deployment world)
    (guarded : keepsSource action world = true)
    (stepped : step deployment action world = some next) :
    ∀ pod, SourcedNode (next.nodes pod) := by
  have nodes := sourced.nodes
  cases change_of_step stepped with
  | trigger =>
    exact sourcedNode_setNode nodes ((nodes _).begin fun needs => absurd needs not_needsSource_nil)
  | recover =>
    refine sourcedNode_setNode nodes (SourcedNode.begin ?_
      fun needs => absurd needs not_needsSource_nil)
    exact ⟨(nodes _).spawned, (nodes _).threads⟩
  | launch spawned => exact sourcedNode_setNode nodes ((nodes _).launch spawned _)
  | shutdown =>
    refine sourcedNode_setNode nodes ((nodes _).begin fun needs => ?_)
    obtain ⟨_, _, start⟩ := isStart_of_needsSource needs
    cases start
  | @advance pod i reply thread request rest answer answers =>
    refine sourcedNode_setNode nodes ?_
    by_cases removal : request = .query .cleanupRunFiles
    · subst removal
      exact sourcedNode_of_removal sourced.sound guarded answers
    · exact (nodes pod).resume sourced.sound guarded answers removal
  | restart =>
    refine sourcedNode_setNode nodes ⟨?_, ?_⟩
    · intro handle attempt mem
      cases mem
    · intro thread mem
      cases mem
  | serve | neighbours => exact sourcedNode_setNode nodes ⟨(nodes _).spawned, (nodes _).threads⟩
  | _ => exact nodes

/-- Every event that a step adds is sourced. -/
theorem sourcedLog_of_step (sourced : Sourced deployment world)
    (stepped : step deployment action world = some next) :
    ∀ event ∈ next.log, event.Sourced := by
  have change := storeChange_of_step sourced.sound stepped
  generalize next.toLedger = ledger at change
  cases change with
  | idle | amended => exact sourced.log
  | wrote | queried =>
    exact List.forall_mem_cons.mpr ⟨trivial, sourced.log⟩
  | @executed pod thread attempt rest mem program =>
    refine List.forall_mem_cons.mpr ⟨?_, sourced.log⟩
    have conforms := (sourced.sound.threads pod thread mem).conforms
    rw [program] at conforms
    obtain ⟨⟨handle, started⟩, uncleaned, _⟩ := conforms.1
    exact (sourced.nodes pod).threads thread mem ⟨uncleaned, .inl ⟨handle, attempt, started⟩⟩

theorem sourced_of_step (guarded : keepsSource action world = true)
    (sourced : Sourced deployment world)
    (stepped : step deployment action world = some next) : Sourced deployment next where
  sound := sound_of_step sourced.sound stepped
  nodes := sourcedNodes_of_step sourced guarded stepped
  log := sourcedLog_of_step sourced stepped

theorem sourced_initial (deployment : Deployment) (created : Run) (clock : Time) :
    Sourced deployment (World.initial created clock) where
  sound := sound_initial deployment created clock
  nodes pod := by
    constructor
    · intro handle attempt mem
      cases mem
    · intro thread mem
      cases mem
  log event mem := by cases mem

end Steps

/-- If the source is prepared whenever a Running copy is taken up, and not removed under
anything that could execute, every `Execute` finds it prepared. -/
theorem sourced_of_guarded_run (deployment : Deployment) (created : Run) {clock : Time}
    {actions : List Action} {world : World}
    (ran : run (restrict (fun action world => keepsSource action world = true)
      (step deployment)) actions (World.initial created clock) = some world) :
    ∀ event ∈ world.log, event.Sourced :=
  (invariant_of_guarded_run _ _ (Sourced deployment) sourced_of_step
    (sourced_initial deployment created clock) ran).log

theorem sourced_finishedActions :
    ∃ world, run (restrict (fun action world => keepsSource action world = true)
        (step smallDeployment)) finishedActions (World.initial (retriedRun 3) 0) = some world ∧
      world.stored.status.phase = .succeeded ∧ ∀ event ∈ world.log, event.Sourced := by
  apply exists_reached_and
  · decide +kernel
  · exact fun _ ran _ => sourced_of_guarded_run smallDeployment _ ran

/-- The source of a task cannot be prepared, and the task is executed after its backoff. -/
def unsourcedActions : List Action :=
  [.schedule 0 .backfill] ++ bindTo Scheduler.smallPod 0 ++
    .trigger "runtime-0" :: advances "runtime-0" unpreparedReplies ++
    [.tick second] ++ resumeOn "runtime-0" ++ startOn "runtime-0" 2

/-- The second attempt is executed in a directory whose source was never prepared. -/
theorem exists_not_sourced :
    ∃ actions world, run (step smallDeployment) actions (World.initial (retriedRun 3) 0) =
        some world ∧
      ∃ event ∈ world.log, ¬ event.Sourced := by
  refine ⟨unsourcedActions, exists_reached (fun world => (world.log.any fun event =>
      match event with
      | .executed _ _ _ _ prepared => !prepared
      | _ => false) = true) (by decide +kernel) fun world _ found => ?_⟩
  obtain ⟨event, member, unprepared⟩ := List.any_eq_true.mp found
  refine ⟨event, member, ?_⟩
  split at unprepared
  · intro sourced
    rw [show _ = true from sourced] at unprepared
    cases unprepared
  · cases unprepared

end Kruntimes.Lifecycle
