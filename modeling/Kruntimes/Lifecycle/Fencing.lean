import Kruntimes.Lifecycle.Course

/-!
# Assignment fencing

`Reconcile` reads the Run again and dispatches on its phase; that the Run is assigned to
the Pod was only checked on the object of some event.  Optimistic concurrency does not
help: the copy may be the newest one and yet belong to another Pod.  Runtimed writes only
over its own Runs as long as every copy that it reads is assigned to it, and it publishes
results of the right attempt as long as `Status` reports executions of that attempt.
-/

namespace Kruntimes.Lifecycle

open Api Transition Runtimed

/-- A status of runtimed replaces one that is assigned to its Pod, and a result comes from
an execution of the recorded attempt. -/
def Event.Fenced : Event → Prop
  | .wrote (.runtimed pod) _ old new polled =>
    old.status.assignedPod = pod ∧ (new.status.phase = .succeeded → old.spec.mode.session = none →
        polled.map currentAttempt = some new.status.attempt)
  | _ => True

/-- The Run that `Get` returns is assigned to the Pod. -/
def readsOwn (ledger : Ledger) (pod : String) : Reply → Bool
  | .version copy => (ledger.versions[copy]?).all fun run => run.status.assignedPod == pod
  | _ => true

/-- A response to `Status` reports an execution of the attempt on which the program
works. -/
def pollsOwn (node : Node) (thread : Thread) (reply : Reply) : Bool :=
  !reports reply || (held thread.exchanges).any fun run =>
      node.server.execution.any fun execution =>
        currentAttempt execution.attempt == number run

/-- The programs of runtimed are answered about their own Run and attempt. -/
def answersOwn (action : Action) (world : World) : Bool :=
  match action with
  | .advance pod index reply =>
    match (world.nodes pod).threads[index]? with
    | none => true
    | some thread =>
      match thread.program with
      | .call .get _ => readsOwn world.toLedger pod reply
      | .call (.query .status) _ => pollsOwn (world.nodes pod) thread reply
      | _ => true
  | _ => true

/-- A program works on copies that are assigned to its Pod, and its last response came from
an execution of an attempt on which it worked. -/
structure FencedThread (ledger : Ledger) (pod : String) (thread : Thread) : Prop where
  own : ∀ run ∈ handed thread.exchanges, run.status.assignedPod = pod
  polled : ∀ response,
    (⟨.query .status, .response response⟩ : Exchange runtimed) ∈ thread.exchanges →
      ∃ run ∈ handed thread.exchanges, thread.polled.map currentAttempt = some (number run)

section Answers

variable {deployment : Deployment} {world : World} {pod : String} {i : Nat}
  {reply : Reply} {thread : Thread} {request : Call}
  {rest : Answer request → Process Result} {answer : Answer request}

/-- The updates of runtimed leave the assignment. -/
theorem assignedPod_of_statusWrite {controller : Controller} {history : History}
    {base run : Run} {thereafter : List Edit}
    (write : StatusWrite controller history base run thereafter) :
    run.status.assignedPod = base.status.assignedPod := by
  cases write with
  | claim => exact congrArg Course.assignedPod (course_claimStatus _ _)
  | observe phase same | succeed phase same polled halted steady
  | retry phase same | finish active same => exact same.assignedPod
  | resume =>
    exact congrArg Course.assignedPod (course_retryingStatus _ _)
  | sessionReady | functionReady | finalize => rfl

section Answered

variable (sound : Sound deployment world)
  (reads : request = .get → readsOwn world.toLedger pod reply = true)
  (answers : Answers world pod i reply thread request rest answer)

include sound reads answers

/-- Whatever a call hands to the program is assigned to the Pod. -/
theorem assignedPod_of_heldBy {run : Run}
    (own : ∀ run ∈ handed thread.exchanges, run.status.assignedPod = pod)
    (hands : heldBy ⟨request, answer⟩ = some run) : run.status.assignedPod = pod := by
  have soundThread := sound.threads pod thread answers.member
  have conforms := soundThread.conforms
  rw [answers.program] at conforms
  have allowed := allowedAnswer_of_answers sound.ordered soundThread answers
  cases request with
  | get =>
    obtain ⟨_, rfl, read⟩ := read_of_heldBy (.inl rfl) answers.answered hands
    simpa [readsOwn, read] using reads rfl
  | listRuns podName =>
    have named : podName = (deployment.controllers pod).podName := conforms.1
    change (answer : Option Run).filter (fun run => run.status.assignedPod == podName) =
      some run at hands
    have listed := (Option.filter_eq_some_iff.mp hands).2
    rw [named, deployment.podName] at listed
    exact beq_iff_eq.mp listed
  | updateStatus =>
    obtain ⟨base, holds, write⟩ := conforms.1
    cases given : (answer : Except String Run) with
    | error =>
      rw [given] at hands
      cases hands
    | ok stored =>
      obtain ⟨_, holdsSame, rfl⟩ := allowed stored given
      obtain rfl := Option.some.inj (holds.symm.trans holdsSame)
      rw [given] at hands
      cases hands
      exact (assignedPod_of_statusWrite write).trans (own base (List.mem_of_head? holds))
  | update =>
    cases given : (answer : Except String Run) with
    | error =>
      rw [given] at hands
      cases hands
    | ok stored =>
      obtain ⟨base, holds, rfl⟩ := allowed stored given
      rw [given] at hands
      cases hands
      exact own base (List.mem_of_head? holds)
  | updateLogged | execute | query => cases hands

/-- A program that read only what is assigned to its Pod goes on to do so. -/
theorem assignedPod_of_resumed
    (own : ∀ run ∈ handed thread.exchanges, run.status.assignedPod = pod) :
    ∀ run ∈ handed (⟨request, answer⟩ :: thread.exchanges), run.status.assignedPod = pod := by
  intro run mem
  simp only [handed, List.filterMap_cons] at mem
  split at mem
  · exact own run mem
  rename_i hands
  rcases List.mem_cons.mp mem with rfl | old
  · exact assignedPod_of_heldBy sound reads answers own hands
  · exact own run old

end Answered

theorem readsOwn_of_answersOwn (guarded : answersOwn (.advance pod i reply) world = true)
    (answers : Answers world pod i reply thread request rest answer)
    (get : request = .get) : readsOwn world.toLedger pod reply = true := by
  subst get
  simpa only [answersOwn, answers.found, answers.program] using guarded

/-- A response comes from an execution of the attempt on which the program works. -/
theorem polled_of_response {response : StatusResponse}
    {rest : Polled StatusResponse → Process Result}
    (guarded : answersOwn (.advance pod i reply) world = true)
    (answers : Answers world pod i reply thread (.query .status) rest (.response response)) :
    ∃ run ∈ handed thread.exchanges,
      ((world.nodes pod).server.execution.map Execution.attempt).map currentAttempt =
        some (number run) := by
  simp only [answersOwn, answers.found, answers.program, pollsOwn,
    reports_of_answered answers.answered, Bool.not_true, Bool.false_or] at guarded
  obtain ⟨run, holds, reported⟩ := (Option.any_eq_true _ _).mp guarded
  obtain ⟨_, held, same⟩ := (Option.any_eq_true _ _).mp reported
  refine ⟨run, List.mem_of_head? holds, ?_⟩
  rw [held]
  exact congrArg some (beq_iff_eq.mp same)

theorem FencedThread.resumed (sound : Sound deployment world)
    (guarded : answersOwn (.advance pod i reply) world = true)
    (answers : Answers world pod i reply thread request rest answer)
    (fenced : FencedThread world.toLedger pod thread) (ledger : Ledger)
    (program : Process Result) :
    FencedThread ledger pod (thread.resumed (world.nodes pod).server program request answer) where
  own := assignedPod_of_resumed sound (readsOwn_of_answersOwn guarded answers) answers fenced.own
  polled response mem := by
    have older : ∀ run ∈ handed thread.exchanges,
        run ∈ handed (⟨request, answer⟩ :: thread.exchanges) := fun run known =>
      ((List.suffix_cons _ _).filterMap heldBy).subset known
    -- A response replaces what the program was told before; nothing else touches it.
    have settled : (∃ run ∈ handed thread.exchanges,
        (polledAfter (world.nodes pod).server thread.polled request answer).map
          currentAttempt = some (number run)) := by
      rcases List.mem_cons.mp mem with same | old
      · cases same
        exact polled_of_response guarded answers
      cases request with
      | query query =>
        cases query with
        | status =>
          cases given : (answer : Polled StatusResponse) with
          | response =>
            subst given
            exact polled_of_response guarded answers
          | notFound | unavailable => exact fenced.polled response old
        | _ => exact fenced.polled response old
      | _ => exact fenced.polled response old
    obtain ⟨run, known, same⟩ := settled
    exact ⟨run, older run known, same⟩

end Answers

/-- What a fenced program writes is fenced. -/
theorem fenced_of_statusWrite {controller : Controller} {base run : Run}
    {thereafter : List Edit} {ledger : Ledger} {pod : String} {thread : Thread}
    (fenced : FencedThread ledger pod thread) (holds : held thread.exchanges = some base)
    (write : StatusWrite controller thread.exchanges base run thereafter) (time : Time) :
    Event.Fenced (.wrote (.runtimed pod) time base (storeStatus base run.status)
      thread.polled) := by
  refine ⟨fenced.own base (List.mem_of_head? holds), ?_⟩
  intro succeeded task
  cases write with
  | succeed phase same polled halted steady =>
    obtain ⟨read, known, matched⟩ := fenced.polled _ polled
    rw [matched, number, steady read known, ← same.attempt]
    rfl
  | finish active same cause =>
    rcases cause with ⟨rfl, _⟩ | ⟨_, _, session⟩ | ⟨rfl | rfl, _⟩
    · cases succeeded
    · rw [task] at session
      cases session
    · cases succeeded
    · cases succeeded
  | claim =>
    cases (congrArg Course.phase (course_claimStatus base _)).symm.trans succeeded
  | observe phase same =>
    rw [storeStatus_phase, same.phase] at succeeded
    rcases phase with running | finalizing
    · cases running.symm.trans succeeded
    · cases finalizing.symm.trans succeeded
  | resume phase =>
    have kept := (congrArg Course.phase (course_retryingStatus base _)).symm.trans succeeded
    cases phase.symm.trans kept
  | retry phase same =>
    rcases phase with running | ready
    · cases running.symm.trans (same.phase.symm.trans succeeded)
    · cases ready.symm.trans (same.phase.symm.trans succeeded)
  | sessionReady | functionReady | finalize => cases succeeded

/-! ## Whole runs -/

/-- Every write so far was fenced, and every program is. -/
structure FencedWorld (deployment : Deployment) (world : World) : Prop where
  sound : Sound deployment world
  threads : AllThreads FencedThread world
  log : ∀ event ∈ world.log, event.Fenced

theorem fenced_log_of_storeChange {deployment : Deployment} {world : World}
    {ledger : Ledger} (fenced : FencedWorld deployment world)
    (change : StoreChange deployment world ledger) :
    ∀ event ∈ ledger.log, event.Fenced := by
  cases change with
  | idle | amended => exact fenced.log
  | wrote present write =>
    refine List.forall_mem_cons.mpr ⟨?_, fenced.log⟩
    cases write with
    | scheduler | reaper => trivial
    | runtimed mem holds write =>
      exact fenced_of_statusWrite (fenced.threads _ _ mem) holds write _
  | executed | queried => exact List.forall_mem_cons.mpr ⟨trivial, fenced.log⟩

theorem fencedThread_begin (ledger : Ledger) (pod : String) (worker : Bool)
    (program : Process Result) : FencedThread ledger pod { worker, program } where
  own run mem := by cases mem
  polled response mem := by cases mem

theorem fencedThread_launch (ledger : Ledger) (pod : String) (program : Process Result)
    (goroutine : Goroutine) :
    FencedThread ledger pod
      { worker := false, program, exchanges := [⟨.query .arguments, goroutine⟩] } where
  own run mem := by cases mem
  polled response mem := by cases List.mem_singleton.mp mem

/-- A guarded step keeps the fence. -/
theorem fencedWorld_of_step {deployment : Deployment} {action : Action} {world next : World}
    (guarded : answersOwn action world = true) (fenced : FencedWorld deployment world)
    (stepped : step deployment action world = some next) : FencedWorld deployment next where
  sound := sound_of_step fenced.sound stepped
  threads := by
    refine allThreads_of_step ?_ ?_ ?_ ?_ fenced.threads stepped
    · intro pod thread known
      exact ⟨known.own, known.polled⟩
    · intro pod controller _
      exact ⟨fencedThread_begin _ _ _ _, fencedThread_begin _ _ _ _⟩
    · intro pod goroutine _
      exact fencedThread_launch _ _ _ _
    · intro pod i reply thread request rest answer answers performed _ known
      subst performed
      exact known.resumed fenced.sound guarded answers _ _
  log := fenced_log_of_storeChange fenced (storeChange_of_step fenced.sound stepped)

theorem fencedWorld_initial (deployment : Deployment) (created : Run) (clock : Time) :
    FencedWorld deployment (World.initial created clock) where
  sound := sound_initial deployment created clock
  threads pod thread mem := by cases mem
  log event mem := by cases mem

/-- As long as runtimed is answered about its own Run and attempt, every status that it
stores replaces one of its own, and every result comes from the recorded attempt. -/
theorem fenced_of_guarded_run (deployment : Deployment) (created : Run) {clock : Time}
    {actions : List Action} {world : World}
    (ran : run (restrict (fun action world => answersOwn action world = true)
      (step deployment)) actions (World.initial created clock) = some world) :
    ∀ event ∈ world.log, event.Fenced :=
  (invariant_of_guarded_run _ _ (FencedWorld deployment) fencedWorld_of_step
    (fencedWorld_initial deployment created clock) ran).log

theorem fenced_finishedActions :
    ∃ world, run (restrict (fun action world => answersOwn action world = true)
        (step smallDeployment)) finishedActions
        (World.initial (smallRunWith ⟨true, none, none⟩ none) 0) = some world ∧
      world.stored.status.phase = .succeeded ∧ ∀ event ∈ world.log, event.Fenced := by
  apply exists_reached_and
  · decide +kernel
  · exact fun _ ran _ => fenced_of_guarded_run smallDeployment _ ran

/-- The heartbeat of the first Pod is late, and the task moves to a second Pod; then the
first one comes back to the task for its delayed requeue. -/
def fencedOffActions : List Action :=
  [.schedule 0 .backfill] ++ bindTo Scheduler.smallPod 0 ++ claimOn "runtime-0" ++
    startOn "runtime-0" 0 ++
    [.tick (40 * second), .reap 0 (some Scheduler.smallPod) (40 * second) (40 * second),
      .tick (42 * second)] ++
    bindTo Scheduler.sparePod (42 * second) ++ claimOn "runtime-1" ++ succeedOn "runtime-0" 0

/-- The first Pod publishes the result of the first attempt for the Run of the second. -/
theorem exists_not_fenced :
    ∃ actions world, run (step smallDeployment) actions
        (World.initial (smallRunWith ⟨true, none, none⟩ (some ⟨3, second, []⟩)) 0) = some world ∧
      ∃ time old new polled, .wrote (.runtimed "runtime-0") time old new polled ∈ world.log ∧
        old.status.assignedPod = "runtime-1" ∧ new.status.phase = .succeeded ∧
        new.status.attempt = 2 ∧ polled.map currentAttempt = some 1 ∧
        ¬ Event.Fenced (.wrote (.runtimed "runtime-0") time old new polled) := by
  refine ⟨fencedOffActions, exists_reached (fun world => (world.log.any fun event =>
      match event with
      | .wrote (.runtimed pod) _ old new polled =>
        decide (pod = "runtime-0" ∧ old.status.assignedPod = "runtime-1" ∧
          new.status.phase = .succeeded ∧ new.status.attempt = 2 ∧
          polled.map currentAttempt = some 1)
      | _ => false) = true) (by decide +kernel) fun world _ found => ?_⟩
  obtain ⟨_, member, broken⟩ := List.any_eq_true.mp found
  split at broken
  next time old new polled =>
    obtain ⟨rfl, moved, succeeded, attempt, first⟩ := of_decide_eq_true broken
    refine ⟨time, old, new, polled, member, moved, succeeded, attempt, first, ?_⟩
    intro fenced
    have own := moved.symm.trans fenced.1
    revert own
    decide
  · cases broken

end Kruntimes.Lifecycle
