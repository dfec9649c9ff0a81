import Kruntimes.Lifecycle.System

/-!
# What every step keeps

Versions and events are only added, versions are told apart by their resource version, and
every program in progress keeps the contract of runtimed with copies that were stored at
some time.  The rule `allThreads_of_step` carries any other fact about programs in progress
through a step; every invariant about what a program has learnt is an instance of it.
-/

namespace Kruntimes.Lifecycle

open Api Transition Runtimed

variable {action : Action} {deployment : Deployment} {i : Nat} {reply : Reply} {other pod : String}
  {thread : Thread} {world next : World} {ledger : Ledger}

/-! ## Growth -/

namespace Ledger

/-- `next` continues `ledger`. -/
structure Extends (ledger next : Ledger) : Prop where
  versions : ledger.versions <:+ next.versions
  log : ledger.log <:+ next.log
  clock : ledger.clock ≤ next.clock

variable {ledger next last : Ledger}

theorem Extends.refl (ledger : Ledger) : ledger.Extends ledger :=
  ⟨List.suffix_refl _, List.suffix_refl _, le_rfl⟩

theorem extends_record (event : Event) : ledger.Extends (ledger.record event) :=
  ⟨List.suffix_refl _, List.suffix_cons _ _, le_rfl⟩

theorem extends_storeStatus (writer : Writer) (status : RunStatus) (polled : Option Int) :
    ledger.Extends (ledger.storeStatus writer status polled) :=
  ⟨List.suffix_cons _ _, List.suffix_cons _ _, le_rfl⟩

theorem extends_storeMetadata (finalizers : List String) :
    ledger.Extends (ledger.storeMetadata finalizers) :=
  ⟨List.suffix_cons _ _, List.suffix_refl _, le_rfl⟩

/-- Versions of one resource version are equal. -/
def Ordered (ledger : Ledger) : Prop :=
  ledger.versions.Pairwise fun newer older => older.resourceVersion < newer.resourceVersion

theorem Ordered.store (ordered : ledger.Ordered) {run : Run}
    (next : run.resourceVersion = ledger.stored.resourceVersion + 1) :
    (ledger.store run).Ordered := by
  refine List.pairwise_cons.mpr ⟨?_, ordered⟩
  intro older mem
  change older.resourceVersion < run.resourceVersion
  rcases List.mem_cons.mp mem with rfl | former
  · omega
  · have := (List.pairwise_cons.mp ordered).1 older former
    omega

/-- A copy of the stored resource version is the stored version. -/
theorem Ordered.eq_stored (ordered : ledger.Ordered) {run : Run} (version : run ∈ ledger.versions)
    (same : run.resourceVersion = ledger.stored.resourceVersion) : run = ledger.stored := by
  rcases List.mem_cons.mp version with rfl | former
  · rfl
  · have := (List.pairwise_cons.mp ordered).1 run former
    omega

theorem accepts_iff (run : Run) :
    ledger.accepts run = true ↔
      ledger.gone = false ∧ run.resourceVersion = ledger.stored.resourceVersion := by
  simp [accepts]

end Ledger

/-! ## Answers -/

/-- The reply answers the call of a program of the Pod. -/
structure Answers (world : World) (pod : String) (index : Nat) (reply : Reply)
    (thread : Thread) (request : Call) (rest : Answer request → Process Result)
    (answer : Answer request) : Prop where
  found : (world.nodes pod).threads[index]? = some thread
  program : thread.program = .call request rest
  answered : answerCall world (world.nodes pod) request reply = some answer

theorem Answers.member {request : Call} {rest : Answer request → Process Result}
    {answer : Answer request} (answers : Answers world pod i reply thread request rest answer) :
    thread ∈ (world.nodes pod).threads :=
  List.mem_of_getElem? answers.found

theorem extends_afterCall (world : World) (pod : String) (thread : Thread) (request : Call)
    (reply : Reply) : world.Extends (afterCall world pod thread request reply) := by
  unfold afterCall
  split
  iterate 2 exact Ledger.extends_storeStatus _ _ _
  iterate 4 exact Ledger.extends_storeMetadata _
  · exact Ledger.extends_record _
  · exact Ledger.extends_record _
  · exact .refl _

/-! ## Steps -/

/-- What each action takes and does. -/
inductive Change (deployment : Deployment) (world : World) : Action → World → Prop
  | tick {time : Time} (later : world.clock ≤ time) :
      Change deployment world (.tick time) (world.setLedger { world.toLedger with clock := time })
  | terminate {mode : Option RunTerminationMode} (present : world.gone = false) :
      Change deployment world (.terminate mode) (world.setLedger (world.storeTermination mode))
  | delete (present : world.gone = false) :
      Change deployment world .delete (world.setLedger world.storeDeletion)
  | finalizers {finalizers : List String} (present : world.gone = false) :
      Change deployment world (.finalizers finalizers)
        (world.setLedger (world.storeMetadata finalizers))
  | schedule {copy : Nat} {decision : Decision} {run chosen : Run}
      (read : world.versions[copy]? = some run)
      (made : decided deployment.platform run decision = some chosen)
      (accepted : world.accepts chosen = true)
      (timely : decision.now.all (· ≤ world.clock) = true) :
      Change deployment world (.schedule copy decision)
        (world.setLedger (world.storeStatus .scheduler chosen.status none))
  | abandon {copy : Nat} {pod : Option Pod} {now recorded : Time} {run unmarked : Run}
      {verdict : Reaper.Verdict}
      (read : world.versions[copy]? = some run)
      (found : Reaper.reconcile deployment.reaper run pod now = some verdict)
      (accepted : world.accepts run = true) (timely : recorded ≤ world.clock)
      (named : pod.all (fun pod => pod.name == run.status.assignedPod) = true)
      (marked : Reaper.abandonedRegistration (Reaper.handleStaleRun run verdict recorded)
        verdict = some unmarked) :
      Change deployment world (.reap copy pod now recorded)
        (world.setLedger (world.storeMetadata unmarked.finalizers))
  | reap {copy : Nat} {pod : Option Pod} {now recorded : Time} {run : Run}
      {verdict : Reaper.Verdict}
      (read : world.versions[copy]? = some run)
      (found : Reaper.reconcile deployment.reaper run pod now = some verdict)
      (accepted : world.accepts run = true) (timely : recorded ≤ world.clock)
      (named : pod.all (fun pod => pod.name == run.status.assignedPod) = true)
      (unmarked : Reaper.abandonedRegistration (Reaper.handleStaleRun run verdict recorded)
        verdict = none) :
      Change deployment world (.reap copy pod now recorded)
        (world.setLedger (world.storeStatus .reaper
          (Reaper.handleStaleRun run verdict recorded).status none))
  | trigger {pod : String} (idle : ∀ thread ∈ (world.nodes pod).threads, thread.worker = false)
      (passed : ∃ version ∈ world.versions, runFilter (deployment.controllers pod) version = true) :
      Change deployment world (.trigger pod) (world.setNode pod ((world.nodes pod).begin
          { worker := true, program := reconcile (deployment.controllers pod) }))
  | recover {pod : String} (first : (world.nodes pod).recovered = false) :
      Change deployment world (.recover pod)
        (world.setNode pod ({ world.nodes pod with recovered := true }.begin
          { worker := false, program := recoverActiveRunsOnce (deployment.controllers pod) }))
  | launch {pod : String} {index : Nat} {goroutine : Goroutine}
      (spawned : (world.nodes pod).memory.spawned[index]? = some goroutine) :
      Change deployment world (.launch pod index) (world.setNode pod ({ world.nodes pod with
              memory := (world.nodes pod).memory.withoutSpawned index }.begin
            (.ofGoroutine (deployment.controllers pod) world.stored goroutine)))
  | shutdown {pod : String} :
      Change deployment world (.shutdown pod) (world.setNode pod ((world.nodes pod).begin
          (.ofGoroutine (deployment.controllers pod) world.stored .drain)))
  | advance {pod : String} {index : Nat} {reply : Reply} {thread : Thread} {request : Call}
      {rest : Answer request → Process Result} {answer : Answer request}
      (answers : Answers world pod index reply thread request rest answer) :
      Change deployment world (.advance pod index reply)
        ((world.setLedger (afterCall world pod thread request reply)).setNode pod
          ((world.nodes pod).resume index thread request rest answer reply))
  | restart {pod : String} :
      Change deployment world (.restart pod) (world.setNode pod
          { world.nodes pod with memory := {}, threads := [], recovered := false })
  | serve {pod : String} {server : Server} :
      Change deployment world (.serve pod server)
        (world.setNode pod { world.nodes pod with server })
  | neighbours {pod : String} {others : Nat} {otherSession : Bool} :
      Change deployment world (.neighbours pod others otherSession) (world.setNode pod
          { world.nodes pod with
            memory := { (world.nodes pod).memory with others, otherSession } })

theorem change_of_performSchedule {copy : Nat} {decision : Decision}
    (performed : performSchedule deployment world.toLedger copy decision = some ledger) :
    Change deployment world (.schedule copy decision) (world.setLedger ledger) := by
  unfold performSchedule at performed
  split at performed
  · contradiction
  rename_i read
  split at performed
  · contradiction
  rename_i made
  split at performed
  next allowed =>
    cases performed
    exact .schedule read made allowed.1 allowed.2
  · contradiction

theorem change_of_performReap {copy : Nat} {pod : Option Pod} {now recorded : Time}
    (performed : performReap deployment world.toLedger copy pod now recorded = some ledger) :
    Change deployment world (.reap copy pod now recorded) (world.setLedger ledger) := by
  unfold performReap at performed
  split at performed
  · contradiction
  rename_i read
  split at performed
  · contradiction
  rename_i found
  dsimp only at performed
  split at performed
  next allowed =>
    split at performed
    next unmarked =>
      cases performed
      exact .reap read found allowed.1 allowed.2.1 allowed.2.2 unmarked
    next marked =>
      cases performed
      exact .abandon read found allowed.1 allowed.2.1 allowed.2.2 marked
  · contradiction

theorem change_of_performAdvance (performed : performAdvance world pod i reply = some next) :
    Change deployment world (.advance pod i reply) next := by
  unfold performAdvance at performed
  split at performed
  · contradiction
  rename_i found
  split at performed
  next program =>
    obtain ⟨_, answered, rfl⟩ := Option.map_eq_some_iff.mp performed
    exact .advance ⟨found, program, answered⟩
  · contradiction

/-- Every step is one of the listed changes. -/
theorem change_of_step (stepped : step deployment action world = some next) :
    Change deployment world action next := by
  cases action with
  | tick =>
    obtain ⟨later, same⟩ := Option.ite_none_right_eq_some.mp stepped
    cases same
    exact .tick later
  | terminate | delete | finalizers =>
    obtain ⟨present, same⟩ := Option.ite_none_left_eq_some.mp stepped
    cases same
    constructor
    exact eq_false_of_ne_true present
  | schedule =>
    obtain ⟨_, performed, rfl⟩ := Option.map_eq_some_iff.mp stepped
    exact change_of_performSchedule performed
  | reap =>
    obtain ⟨_, performed, rfl⟩ := Option.map_eq_some_iff.mp stepped
    exact change_of_performReap performed
  | trigger =>
    obtain ⟨⟨idle, passed⟩, same⟩ := Option.ite_none_right_eq_some.mp stepped
    cases same
    exact .trigger idle passed
  | recover =>
    obtain ⟨first, same⟩ := Option.ite_none_left_eq_some.mp stepped
    cases same
    exact .recover (eq_false_of_ne_true first)
  | launch =>
    obtain ⟨_, spawned, rfl⟩ := Option.map_eq_some_iff.mp stepped
    exact .launch spawned
  | advance => exact change_of_performAdvance stepped
  | shutdown | restart | serve | neighbours =>
    cases stepped
    constructor

/-- The action that adds an event to the log. -/
def Adds (world : World) (action : Action) : Event → Prop
  | .wrote .reaper _ _ _ _ => ∃ copy pod now recorded, action = .reap copy pod now recorded
  | .queried pod _ _ _ query => ∃ i reply thread rest answer, action = .advance pod i reply ∧
      Answers world pod i reply thread (.query query) rest answer
  | _ => True

theorem adds_of_step {event : Event} (stepped : step deployment action world = some next)
    (logged : next.log = event :: world.log) : Adds world action event := by
  cases change_of_step stepped with
  | schedule =>
    cases (List.cons.inj logged).1
    trivial
  | reap =>
    cases (List.cons.inj logged).1
    exact ⟨_, _, _, _, rfl⟩
  | @advance pod i reply thread request rest answer answers =>
    change (afterCall world pod thread request reply).log = _ at logged
    unfold afterCall at logged
    split at logged
    iterate 2
      · cases (List.cons.inj logged).1
        trivial
    iterate 4 exact absurd logged.symm (List.cons_ne_self _ _)
    · cases (List.cons.inj logged).1
      trivial
    · cases (List.cons.inj logged).1
      exact ⟨_, _, _, _, _, rfl, answers⟩
    · exact absurd logged.symm (List.cons_ne_self _ _)
  | _ => exact absurd logged.symm (List.cons_ne_self _ _)

/-! ## Programs in progress -/

/-- Where the programs in progress after a step come from. -/
inductive ThreadChange (deployment : Deployment) (world : World) (action : Action)
    (ledger : Ledger) (pod : String) : Thread → Prop
  | kept {thread : Thread} (member : thread ∈ (world.nodes pod).threads) :
      ThreadChange deployment world action ledger pod thread
  | reconcile :
      ThreadChange deployment world action ledger pod
        { worker := true, program := reconcile (deployment.controllers pod) }
  | recover :
      ThreadChange deployment world action ledger pod
        { worker := false, program := recoverActiveRunsOnce (deployment.controllers pod) }
  | launch {goroutine : Goroutine} (spawned : goroutine ∈ (world.nodes pod).memory.spawned) :
      ThreadChange deployment world action ledger pod
        (.ofGoroutine (deployment.controllers pod) world.stored goroutine)
  | shutdown (performed : action = .shutdown pod) :
      ThreadChange deployment world action ledger pod
        (.ofGoroutine (deployment.controllers pod) world.stored .drain)
  | resumed {index : Nat} {reply : Reply} {thread : Thread} {request : Call}
      {rest : Answer request → Process Result} {answer : Answer request}
      (answers : Answers world pod index reply thread request rest answer)
      (performed : action = .advance pod index reply)
      (after : ledger = afterCall world pod thread request reply) :
      ThreadChange deployment world action ledger pod (thread.resumed (world.nodes pod).server
          ((world.nodes pod).settled request rest answer reply).1 request answer)

theorem mem_of_mem_setNode {node : Node}
    (mem : thread ∈ ((world.setNode pod node).nodes other).threads) :
    (other = pod ∧ thread ∈ node.threads) ∨
      (other ≠ pod ∧ thread ∈ (world.nodes other).threads) := by
  by_cases same : other = pod
  · subst same
    simp only [World.setNode, Function.update_self] at mem
    exact .inl ⟨rfl, mem⟩
  · simp only [World.setNode, Function.update_of_ne same] at mem
    exact .inr ⟨same, mem⟩

theorem threadChange_of_advance {changed : Thread} {request : Call}
    {rest : Answer request → Process Result} {answer : Answer request}
    (answers : Answers world pod i reply thread request rest answer)
    (mem : changed ∈ (((world.setLedger (afterCall world pod thread request reply)).setNode
      pod ((world.nodes pod).resume i thread request rest answer reply)).nodes other).threads) :
    ThreadChange deployment world (.advance pod i reply)
      (afterCall world pod thread request reply) other changed := by
  rcases mem_of_mem_setNode mem with ⟨rfl, inside⟩ | ⟨_, outside⟩
  · simp only [Node.resume] at inside
    split at inside
    · exact .kept (List.mem_of_mem_eraseIdx inside)
    rcases List.mem_cons.mp inside with rfl | old
    · exact .resumed answers rfl rfl
    · exact .kept (List.mem_of_mem_eraseIdx old)
  · exact .kept outside

/-- The programs in progress after a step. -/
theorem threadChange_of_step (stepped : step deployment action world = some next)
    (mem : thread ∈ (next.nodes pod).threads) :
    ThreadChange deployment world action next.toLedger pod thread := by
  cases change_of_step stepped with
  | tick | terminate | delete | finalizers | schedule | abandon | reap => exact .kept mem
  | trigger =>
    rcases mem_of_mem_setNode mem with ⟨rfl, inside⟩ | ⟨_, outside⟩
    · rcases List.mem_cons.mp inside with rfl | old
      · exact .reconcile
      · exact .kept old
    · exact .kept outside
  | recover =>
    rcases mem_of_mem_setNode mem with ⟨rfl, inside⟩ | ⟨_, outside⟩
    · rcases List.mem_cons.mp inside with rfl | old
      · exact .recover
      · exact .kept old
    · exact .kept outside
  | launch spawned =>
    rcases mem_of_mem_setNode mem with ⟨rfl, inside⟩ | ⟨_, outside⟩
    · rcases List.mem_cons.mp inside with rfl | old
      · exact .launch (List.mem_of_getElem? spawned)
      · exact .kept old
    · exact .kept outside
  | shutdown =>
    rcases mem_of_mem_setNode mem with ⟨rfl, inside⟩ | ⟨_, outside⟩
    · rcases List.mem_cons.mp inside with rfl | old
      · exact .shutdown rfl
      · exact .kept old
    · exact .kept outside
  | advance answers => exact threadChange_of_advance answers mem
  | restart =>
    rcases mem_of_mem_setNode mem with ⟨rfl, inside⟩ | ⟨_, outside⟩
    · cases inside
    · exact .kept outside
  | serve | neighbours =>
    rcases mem_of_mem_setNode mem with ⟨rfl, inside⟩ | ⟨_, outside⟩
    · exact .kept inside
    · exact .kept outside

/-- Where the memory of a Pod comes from. -/
inductive MemoryChange (world : World) (action : Action) (ledger : Ledger) (pod : String) :
    Memory → Prop
  | kept : MemoryChange world action ledger pod (world.nodes pod).memory
  | cleared : MemoryChange world action ledger pod {}
  | launched {index : Nat} :
      MemoryChange world action ledger pod ((world.nodes pod).memory.withoutSpawned index)
  | neighbours {others : Nat} {otherSession : Bool} :
      MemoryChange world action ledger pod { (world.nodes pod).memory with others, otherSession }
  | settled {index : Nat} {reply : Reply} {thread : Thread} {request : Call}
      {rest : Answer request → Process Result} {answer : Answer request}
      (answers : Answers world pod index reply thread request rest answer)
      (performed : action = .advance pod index reply)
      (after : ledger = afterCall world pod thread request reply) :
      MemoryChange world action ledger pod ((world.nodes pod).settled request rest answer reply).2

theorem memoryChange_setNode {node : Node}
    (changed : MemoryChange world action ledger pod node.memory) :
    MemoryChange world action ledger other (((world.setNode pod node).nodes other).memory) := by
  by_cases same : other = pod
  · subst same
    simpa only [World.setNode, Function.update_self] using changed
  · simp only [World.setNode, Function.update_of_ne same]
    exact .kept

/-- The memories after a step. -/
theorem memoryChange_of_step (stepped : step deployment action world = some next) (pod : String) :
    MemoryChange world action next.toLedger pod (next.nodes pod).memory := by
  cases change_of_step stepped with
  | trigger | recover | shutdown | serve => exact memoryChange_setNode .kept
  | launch => exact memoryChange_setNode .launched
  | @advance name i reply thread request rest answer answers =>
    by_cases same : pod = name
    · subst same
      simp only [World.setNode, Function.update_self]
      exact .settled answers rfl rfl
    · simp only [World.setNode, Function.update_of_ne same]
      exact .kept
  | restart => exact memoryChange_setNode .cleared
  | neighbours => exact memoryChange_setNode .neighbours
  | _ => exact .kept

/-- A step continues the ledger. -/
theorem extends_of_step (stepped : step deployment action world = some next) :
    world.toLedger.Extends next.toLedger := by
  cases change_of_step stepped with
  | tick later => exact ⟨List.suffix_refl _, List.suffix_refl _, later⟩
  | terminate | delete => exact ⟨List.suffix_cons _ _, List.suffix_refl _, le_rfl⟩
  | finalizers | abandon =>
    exact Ledger.extends_storeMetadata _
  | schedule | reap =>
    exact Ledger.extends_storeStatus _ _ _
  | advance => exact extends_afterCall _ _ _ _ _
  | _ => exact .refl _

/-- Every program in progress has the property. -/
def AllThreads (property : Ledger → String → Thread → Prop) (world : World) : Prop :=
  ∀ pod, ∀ thread ∈ (world.nodes pod).threads, property world.toLedger pod thread

/-- The invariant rule for programs in progress: the property survives the growth of the
ledger, programs begin with it, and every answer keeps it. -/
theorem allThreads_of_step {property : Ledger → String → Thread → Prop}
    (stable : ∀ {pod thread}, property world.toLedger pod thread →
      property next.toLedger pod thread)
    (begins : ∀ {pod controller}, deployment.controllers pod = controller →
      property world.toLedger pod { worker := true, program := reconcile controller } ∧
      property world.toLedger pod { worker := false, program := recoverActiveRunsOnce controller })
    (launches : ∀ {pod goroutine}, goroutine ∈ (world.nodes pod).memory.spawned ∨
        goroutine = .drain ∧ action = .shutdown pod →
      property world.toLedger pod
        (.ofGoroutine (deployment.controllers pod) world.stored goroutine))
    (resumes : ∀ {pod i reply thread request rest answer},
      Answers world pod i reply thread request rest answer →
      action = .advance pod i reply → next.toLedger = afterCall world pod thread request reply →
      property world.toLedger pod thread →
      property next.toLedger pod (thread.resumed (world.nodes pod).server
        ((world.nodes pod).settled request rest answer reply).1 request answer))
    (all : AllThreads property world) (stepped : step deployment action world = some next) :
    AllThreads property next := by
  intro pod thread mem
  cases threadChange_of_step stepped mem with
  | kept old => exact stable (all pod thread old)
  | reconcile => exact stable (begins rfl).1
  | recover => exact stable (begins rfl).2
  | launch spawned => exact stable (launches (.inl spawned))
  | shutdown performed => exact stable (launches (.inr ⟨rfl, performed⟩))
  | resumed answers performed after =>
    exact resumes answers performed after (all pod _ answers.member)

end Kruntimes.Lifecycle
