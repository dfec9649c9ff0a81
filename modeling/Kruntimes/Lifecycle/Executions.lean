import Kruntimes.Bash.Tasks
import Kruntimes.Lifecycle.Course

/-!
# Executions of a finished task

When runtimed ends a task it has either cancelled the execution, or was told that none is in
progress, or never started one.  None of this holds for long if an `Execute` is on its way:
it can reach the Runtime Server after the cancellation, and `Forget` is refused while the
execution runs.  If every `Execute` arrives while nothing else of the runtimed is in progress
and the Run is not over, no execution outlives the Run.
-/

namespace Kruntimes.Lifecycle

open Api Transition Runtimed Bash

/-- The runtimed of the Pod ended the Run. -/
def Event.endedBy (pod : String) : Event → Bool
  | .wrote (.runtimed writer) _ _ new _ => writer == pod && new.status.phase.isTerminal
  | _ => false

/-- Once a runtimed has ended the Run and all its programs and goroutines have returned, its
Runtime Server runs no execution of the Run. -/
def NoneOutlives (world : World) : Prop :=
  ∀ pod, world.log.any (·.endedBy pod) = true → (world.nodes pod).threads = [] →
    (world.nodes pod).memory.spawned = [] → isBusy (world.nodes pod).server = false

/-- `Execute` arrives while nothing else is in progress and the Run is not over, and a
Scheduled copy is read only while no execution is running. -/
def executesAlone (action : Action) (world : World) : Bool :=
  match action with
  | .advance pod index reply =>
    match (world.nodes pod).threads[index]? with
    | none => true
    | some thread =>
      match thread.program, reply with
      | .call (.execute _) _, _ =>
        (world.nodes pod).threads.length == 1 && !world.stored.status.phase.isTerminal
      | .call .get _, .version copy | .call (.listRuns _) _, .version copy =>
        !isBusy (world.nodes pod).server ||
          (world.versions[copy]?).all fun run => run.status.phase != .scheduled
      | _, _ => true
  | _ => true

/-- The program knows that no execution was running. -/
def Calm (history : History) : Prop :=
  Halted history ∨ ∃ run ∈ handed history, run.status.phase = .scheduled

theorem not_calm_nil : ¬ Calm [] := by
  rintro (⟨_, none, _⟩ | ⟨_, none, _⟩) <;> cases none

theorem not_calm_launch (goroutine : Goroutine) : ¬ Calm [⟨.query .arguments, goroutine⟩] := by
  rintro (⟨_, mem, halting⟩ | ⟨_, none, _⟩)
  · cases List.mem_singleton.mp mem
    cases halting
  · cases none

/-! ## The Runtime Server -/

section Server

variable {deployment : Deployment} {world next : World} {action : Action} {pod : String}

/-- The server after the answer to a call. -/
theorem server_of_advance {i : Nat} {reply : Reply}
    (stepped : step deployment (.advance pod i reply) world = some next) :
    (next.nodes pod).server = serverAfter (world.nodes pod).server reply := by
  cases change_of_step stepped with
  | advance =>
    simp only [World.setNode, Function.update_self]
    rfl

/-- The execution that a server runs was running before, unless it was just requested. -/
theorem isBusy_of_step (bash : followsBash action world = true)
    (stepped : step deployment action world = some next)
    (busy : isBusy (next.nodes pod).server = true) :
    isBusy (world.nodes pod).server = true ∨
      ∃ i reply thread attempt rest answer, action = .advance pod i reply ∧
        Answers world pod i reply thread (.execute attempt) rest answer := by
  have kept {node name}
      (busy : isBusy ((world.setNode name node).nodes pod).server = true)
      (same : node.server = (world.nodes name).server) :
      isBusy (world.nodes pod).server = true := by
    by_cases own : pod = name
    · subst own
      simpa only [World.setNode, Function.update_self, same] using busy
    · simpa only [World.setNode, Function.update_of_ne own] using busy
  cases change_of_step stepped with
  | trigger | recover | launch | shutdown | restart | neighbours => exact .inl (kept busy rfl)
  | @serve name server =>
    by_cases own : pod = name
    · subst own
      simp only [World.setNode, Function.update_self] at busy
      exact .inl (isBusy_of_completes bash busy)
    · simp only [World.setNode, Function.update_of_ne own] at busy
      exact .inl busy
  | @advance name i reply thread request rest answer answers =>
    by_cases own : pod = name
    · subst own
      simp only [World.setNode, Function.update_self] at busy
      simp only [followsBash, answers.found, answers.program] at bash
      rcases isBusy_of_serves bash busy with before | ⟨attempt, rfl⟩
      · exact .inl before
      · exact .inr ⟨i, reply, thread, attempt, rest, answer, rfl, answers⟩
    · simp only [World.setNode, Function.update_of_ne own] at busy
      exact .inl busy
  | _ => exact .inl busy

end Server

/-! ## What ends a task -/

/-- Whoever ends a task knows that no execution was running. -/
theorem calm_of_statusWrite {controller : Controller} {history : History} {created base run : Run}
    {thereafter : List Edit} (lawful : LawfulRun created base)
    (task : isLongLived created = false) (holds : held history = some base)
    (write : StatusWrite controller history base run thereafter)
    (terminal : run.status.phase.isTerminal = true) : Calm history := by
  have short :
      ¬ (base.spec.mode.session.isSome = true ∨ base.spec.mode.function.isSome = true) := by
    intro mode
    have longLived : isLongLived base = true := Bool.or_eq_true_iff.mpr mode
    cases (isLongLived_of_fixedSpec lawful.fixedSpec ▸ longLived).symm.trans task
  have failed (cause : FailureCause history base) : Calm history := by
    cases cause with
    | unprepared answered read =>
      obtain ⟨first, mem, scheduled, _⟩ := read
      exact .inr ⟨first, mem, scheduled⟩
    | overdue _ _ _ _ _ _ halted | startFailure _ _ _ _ halted
    | lost _ _ _ _ halted | answered _ halted | recovered _ _ halted => exact .inl halted
    | registration mode => exact absurd mode short
    | misplaced phase => cases task.symm.trans (lawful.lawful.serves (.inr phase))
  cases write with
  | succeed phase same polled halted => exact .inl halted
  | finish active same cause =>
    rcases cause with ⟨_, _, halted | scheduled | mode⟩ | ⟨_, _, session⟩ | ⟨_, cause⟩
    · exact .inl halted
    · exact .inr ⟨base, List.mem_of_head? holds, scheduled⟩
    · exact absurd mode short
    · exact absurd (.inl session) short
    · exact failed cause.1
  | @claim time phase found =>
    have claimed : (claimStatus base time).status.phase = .running :=
      congrArg Course.phase (course_claimStatus base time)
    rw [claimed] at terminal
    cases terminal
  | observe phase same =>
    rw [same.phase] at terminal
    rcases phase with phase | phase <;> rw [phase] at terminal <;> cases terminal
  | @resume _ _ _ time phase _ _ _ _ _ =>
    have resumed : (retryingStatus base time).status.phase = .running :=
      (congrArg Course.phase (course_retryingStatus base time)).trans phase
    rw [resumed] at terminal
    cases terminal
  | @retry kept reason message time phase same retries cause => exact failed cause
  | sessionReady | functionReady | finalize => cases terminal

/-! ## Runs -/

/-- What is known about every world that guarded steps lead to. -/
structure Quelled (deployment : Deployment) (created : Run) (world : World) : Prop where
  lived : Lived deployment created world
  threads : ∀ pod, ∀ thread ∈ (world.nodes pod).threads, Calm thread.exchanges →
    isBusy (world.nodes pod).server = false
  ended : ∀ pod, world.log.any (·.endedBy pod) = true →
    world.stored.status.phase.isTerminal = true ∧ isBusy (world.nodes pod).server = false

section Steps

variable {deployment : Deployment} {created : Run} {world next : World} {action : Action}
  {pod : String} {i : Nat} {reply : Reply} {thread : Thread}

/-- A Scheduled copy is handed out where nothing is running, or after another one. -/
theorem calm_of_heldBy {request : Call} {rest : Answer request → Process Result}
    {answer : Answer request} {run : Run} (sound : Sound deployment world)
    (guarded : executesAlone (.advance pod i reply) world = true)
    (answers : Answers world pod i reply thread request rest answer)
    (hands : heldBy ⟨request, answer⟩ = some run) (scheduled : run.status.phase = .scheduled) :
    Calm thread.exchanges ∨ isBusy (serverAfter (world.nodes pod).server reply) = false := by
  have soundThread := sound.threads pod thread answers.member
  have conforms := soundThread.conforms
  rw [answers.program] at conforms
  have relied := allowedAnswer_of_answers sound.ordered soundThread answers
  cases request with
  | get | listRuns =>
    obtain ⟨_, rfl, read⟩ := read_of_heldBy (by simp) answers.answered hands
    right
    change isBusy (world.nodes pod).server = false
    simpa [executesAlone, answers.found, answers.program, read, scheduled] using guarded
  | updateStatus =>
    cases answer with
    | error => cases hands
    | ok stored =>
      obtain ⟨_, _, rfl⟩ := relied stored rfl
      cases hands
      obtain ⟨_, _, write⟩ := conforms.1
      rw [storeStatus_phase] at scheduled
      rcases claimed_or_terminal_of_statusWrite write with claimed | terminal
      · rw [scheduled] at claimed
        cases claimed
      · rw [scheduled] at terminal
        cases terminal
  | update =>
    cases answer with
    | error => cases hands
    | ok stored =>
      obtain ⟨base, holds, rfl⟩ := relied stored rfl
      cases hands
      exact .inl (.inr ⟨base, List.mem_of_head? holds, scheduled⟩)
  | updateLogged | execute | query => cases hands

/-- A program becomes calm only where nothing is running. -/
theorem calm_of_resumed {request : Call} {rest : Answer request → Process Result}
    {answer : Answer request} (sound : Sound deployment world)
    (bash : followsBash (.advance pod i reply) world = true)
    (guarded : executesAlone (.advance pod i reply) world = true)
    (answers : Answers world pod i reply thread request rest answer)
    (calm : Calm (⟨request, answer⟩ :: thread.exchanges)) :
    Calm thread.exchanges ∨ isBusy (serverAfter (world.nodes pod).server reply) = false := by
  simp only [followsBash, answers.found, answers.program] at bash
  rcases calm with ⟨exchange, mem, halting⟩ | ⟨run, mem, scheduled⟩
  · rcases List.mem_cons.mp mem with rfl | old
    · exact .inr (not_isBusy_of_halts bash answers.answered halting)
    · exact .inl (.inl ⟨exchange, old, halting⟩)
  · simp only [handed, List.filterMap_cons] at mem
    split at mem
    · exact .inl (.inr ⟨run, mem, scheduled⟩)
    rename_i hands
    rcases List.mem_cons.mp mem with rfl | old
    · exact calm_of_heldBy sound guarded answers hands scheduled
    · exact .inl (.inr ⟨run, old, scheduled⟩)

/-- A program that executes is not calm, and is the only one of its Pod. -/
theorem alone_of_execute {attempt : Int} {rest : Option String → Process Result}
    {answer : Option String} (sound : Sound deployment world)
    (guarded : executesAlone (.advance pod i reply) world = true)
    (answers : Answers world pod i reply thread (.execute attempt) rest answer) :
    (world.nodes pod).threads = [thread] ∧ ¬ Calm thread.exchanges ∧
      world.stored.status.phase.isTerminal = false := by
  simp only [executesAlone, answers.found, answers.program, Bool.and_eq_true,
    Bool.not_eq_true', beq_iff_eq] at guarded
  obtain ⟨only, open'⟩ := guarded
  have conforms := (sound.threads pod thread answers.member).conforms
  rw [answers.program] at conforms
  obtain ⟨_, _, unhalted, unread⟩ := conforms.1
  refine ⟨?_, ?_, open'⟩
  · obtain ⟨_, same⟩ := List.length_eq_one_iff.mp only
    have mem := answers.member
    rw [same] at mem ⊢
    rw [List.mem_singleton.mp mem]
  · rintro (halted | ⟨_, mem, _⟩)
    · exact unhalted halted
    · rw [unread] at mem
      cases mem

theorem Quelled.threads_of_step (quelled : Quelled deployment created world)
    (bash : followsBash action world = true) (guarded : executesAlone action world = true)
    (stepped : step deployment action world = some next) (pod : String) :
    ∀ thread ∈ (next.nodes pod).threads, Calm thread.exchanges →
      isBusy (next.nodes pod).server = false := by
  have sound := quelled.lived.sound
  intro thread mem calm
  by_contra running
  rcases isBusy_of_step bash stepped (eq_true_of_ne_false running) with
    before | ⟨_, _, _, _, _, _, rfl, answers⟩
  · have former (old : Thread) (present : old ∈ (world.nodes pod).threads)
        (known : Calm old.exchanges) : False := by
      cases (quelled.threads pod old present known).symm.trans before
    cases threadChange_of_step stepped mem with
    | kept old => exact former thread old calm
    | reconcile | recover => exact not_calm_nil calm
    | launch | shutdown => exact not_calm_launch _ calm
    | resumed answers performed =>
      subst performed
      rcases calm_of_resumed sound bash guarded answers calm with known | idle
      · exact former _ answers.member known
      · rw [server_of_advance stepped] at running
        exact running idle
  · obtain ⟨only, excited, _⟩ := alone_of_execute sound guarded answers
    cases threadChange_of_step stepped mem with
    | kept old =>
      rw [only] at old
      rw [List.mem_singleton.mp old] at calm
      exact excited calm
    | reconcile | recover => exact not_calm_nil calm
    | launch | shutdown => exact not_calm_launch _ calm
    | resumed others performed =>
      cases performed
      obtain rfl := Option.some.inj (answers.found.symm.trans others.found)
      have same := answers.program.symm.trans others.program
      cases same
      rcases calm with ⟨exchange, mem, halting⟩ | ⟨run, mem, scheduled⟩
      · rcases List.mem_cons.mp mem with rfl | old
        · cases halting
        · exact excited (.inl ⟨exchange, old, halting⟩)
      · exact excited (.inr ⟨run, mem, scheduled⟩)

/-- A status that ends a task is written by a calm program. -/
theorem ended_of_storeChange {ledger : Ledger} (lawful : LawfulRun created world.stored)
    (task : isLongLived created = false) (change : StoreChange deployment world ledger)
    (ended : ledger.log.any (·.endedBy pod) = true) :
    world.log.any (·.endedBy pod) = true ∨ (ledger.stored.status.phase.isTerminal = true ∧
        ∃ thread ∈ (world.nodes pod).threads, Calm thread.exchanges) := by
  cases change with
  | idle | amended => exact .inl ended
  | executed | queried =>
    rcases Bool.or_eq_true_iff.mp ended with newest | former
    · cases newest
    · exact .inl former
  | wrote present write =>
    rcases Bool.or_eq_true_iff.mp ended with newest | former
    · cases write with
      | scheduler | reaper => cases newest
      | runtimed mem holds write =>
        obtain ⟨own, terminal⟩ := Bool.and_eq_true_iff.mp newest
        obtain rfl := beq_iff_eq.mp own
        exact .inr ⟨terminal, _, mem, calm_of_statusWrite lawful task holds write terminal⟩
    · exact .inl former

theorem Quelled.ended_of_step (quelled : Quelled deployment created world)
    (task : isLongLived created = false) (bash : followsBash action world = true)
    (guarded : executesAlone action world = true)
    (stepped : step deployment action world = some next) (pod : String)
    (ended : next.log.any (·.endedBy pod) = true) :
    next.stored.status.phase.isTerminal = true ∧ isBusy (next.nodes pod).server = false := by
  have sound := quelled.lived.sound
  have change := storeChange_of_step sound stepped
  have busy (running : ¬ isBusy (next.nodes pod).server = false) :=
    isBusy_of_step bash stepped (eq_true_of_ne_false running)
  rcases ended_of_storeChange (quelled.lived.lawful _ (.head _)) task change ended with
    former | ⟨terminal, thread, mem, calm⟩
  · obtain ⟨terminal, idle⟩ := quelled.ended pod former
    constructor
    · have kept := (progress_of_storeChange change).phase_of_isTerminal terminal
      rw [show next.stored.status.phase = _ from kept]
      exact terminal
    · by_contra running
      rcases busy running with before | ⟨_, _, _, _, _, _, rfl, answers⟩
      · cases idle.symm.trans before
      · cases (alone_of_execute sound guarded answers).2.2.symm.trans terminal
  · refine ⟨terminal, ?_⟩
    by_contra running
    rcases busy running with before | ⟨_, _, _, _, _, _, rfl, answers⟩
    · cases (quelled.threads pod thread mem calm).symm.trans before
    obtain ⟨only, excited, _⟩ := alone_of_execute sound guarded answers
    rw [only] at mem
    rw [List.mem_singleton.mp mem] at calm
    exact excited calm

theorem quelled_of_step (task : isLongLived created = false)
    (guarded : (followsBash action world && executesAlone action world) = true)
    (quelled : Quelled deployment created world)
    (stepped : step deployment action world = some next) : Quelled deployment created next := by
  obtain ⟨bash, alone⟩ := Bool.and_eq_true_iff.mp guarded
  exact ⟨lived_of_step quelled.lived stepped, quelled.threads_of_step bash alone stepped,
    quelled.ended_of_step task bash alone stepped⟩

theorem quelled_initial (deployment : Deployment) (new : IsNew created) (clock : Time) :
    Quelled deployment created (World.initial created clock) where
  lived := lived_initial deployment new clock
  threads pod thread mem := by cases mem
  ended pod none := by cases none

end Steps

/-- With a Bash Runtime Server that every `Execute` reaches while nothing else of the runtimed
is in progress, no execution outlives its task. -/
theorem noneOutlives_of_guarded_run (deployment : Deployment) {created : Run}
    (new : IsNew created) (task : isLongLived created = false) {clock : Time}
    {actions : List Action} {world : World}
    (ran : run (restrict
      (fun action world => (followsBash action world && executesAlone action world) = true)
      (step deployment)) actions (World.initial created clock) = some world) :
    NoneOutlives world := by
  have quelled := invariant_of_guarded_run _ _ (Quelled deployment created)
    (quelled_of_step task) (quelled_initial deployment new clock) ran
  intro pod ended _ _
  exact (quelled.ended pod ended).2

theorem noneOutlives_finishedActions :
    ∃ world, run (restrict
        (fun action world => (followsBash action world && executesAlone action world) = true)
        (step smallDeployment)) finishedActions (World.initial (retriedRun 3) 0) = some world ∧
      world.stored.status.phase = .succeeded ∧ NoneOutlives world := by
  apply exists_reached_and
  · decide +kernel
  · exact fun _ ran _ => noneOutlives_of_guarded_run smallDeployment (by decide) (by decide) ran

/-- A start is requested; before its goroutine runs, the Run is cancelled, and `Cancel` and
`Forget` find nothing.  Then the goroutine executes, and its `Forget` is refused. -/
def overtakenActions : List Action :=
  [.schedule 0 .backfill] ++ bindTo Scheduler.smallPod 0 ++ claimOn "runtime-0" ++
    .trigger "runtime-0" :: advances "runtime-0" requestReplies ++
    [.terminate (some .immediate), .trigger "runtime-0"] ++
    advances "runtime-0"
      [.version 0, .own, .answer .cancel () {}, .own, .accepted, .answer .forget none {},
        .answer .cleanupRunFiles none {}] ++
    .launch "runtime-0" 0 :: advances "runtime-0"
      [.answer .prepareExecution none {}, .executed none (serving 0 .running), .own,
        .answer .forget (some "request run-uid is still running") (serving 0 .running)]

/-- The execution runs on after the Run was cancelled and everything has returned. -/
theorem exists_not_noneOutlives :
    ∃ actions world, run (restrict (fun action world => followsBash action world = true)
        (step smallDeployment)) actions (World.initial (retriedRun 3) 0) = some world ∧
      world.stored.status.phase = .cancelled ∧ ¬ NoneOutlives world := by
  refine ⟨overtakenActions, exists_reached (fun world => world.stored.status.phase = .cancelled ∧
    world.log.any (·.endedBy "runtime-0") = true ∧ (world.nodes "runtime-0").threads = [] ∧
    (world.nodes "runtime-0").memory.spawned = [] ∧ isBusy (world.nodes "runtime-0").server = true)
    (by decide +kernel) ?_⟩
  rintro world _ ⟨cancelled, ended, returned, unspawned, busy⟩
  refine ⟨cancelled, fun none => ?_⟩
  cases (none "runtime-0" ended returned unspawned).symm.trans busy

end Kruntimes.Lifecycle
