import Kruntimes.Lifecycle.Changes

/-!
# What is written, and over which version

Optimistic concurrency turns every accepted update into an update of the stored version,
however old the copies are that the writers read.  `Write` lists the status updates that
can be accepted, each with its reason, and `storeChange_of_step` says that a step changes
the ledger in no other way.
-/

namespace Kruntimes.Lifecycle

open Api Transition Runtimed

variable {request : Call} {deployment : Deployment} {ledger : Ledger} {i : Nat} {node : Node}
  {reply : Reply} {pod : String} {thread : Thread} {world : World}
  {rest : Answer request → Process Result} {answer : Answer request}

/-! ## Sound worlds -/

/-- A program keeps the contract with copies that were stored at some time. -/
structure SoundThread (deployment : Deployment) (ledger : Ledger) (pod : String)
    (thread : Thread) : Prop where
  conforms : Conforms (deployment.controllers pod) thread.program thread.exchanges
  versions : ∀ run ∈ handed thread.exchanges, run ∈ ledger.versions
  read : ∀ time : Time, (⟨.query .clock, time⟩ : Exchange runtimed) ∈ thread.exchanges →
    time ≤ ledger.clock

theorem SoundThread.extends {next : Ledger} (sound : SoundThread deployment ledger pod thread)
    (later : ledger.Extends next) : SoundThread deployment next pod thread where
  conforms := sound.conforms
  versions run mem := later.versions.subset (sound.versions run mem)
  read time mem := (sound.read time mem).trans later.clock

/-- Versions are told apart, and every program is sound. -/
structure Sound (deployment : Deployment) (world : World) : Prop where
  ordered : world.Ordered
  threads : AllThreads (SoundThread deployment) world

/-- What a reading call hands out is the version that the reply names. -/
theorem read_of_heldBy {run : Run} (reading : request = .get ∨ ∃ name, request = .listRuns name)
    (answered : answerCall world node request reply = some answer)
    (hands : heldBy ⟨request, answer⟩ = some run) :
    ∃ copy, reply = .version copy ∧ world.versions[copy]? = some run := by
  rcases reading with rfl | ⟨podName, rfl⟩
  · cases reply with
    | version copy =>
      obtain ⟨_, read, rfl⟩ := Option.map_eq_some_iff.mp answered
      cases hands
      exact ⟨copy, rfl, read⟩
    | absent =>
      obtain ⟨_, same⟩ := Option.ite_none_right_eq_some.mp answered
      cases same
      cases hands
    | _ => cases answered
  · cases reply with
    | version copy =>
      obtain ⟨found, read, rfl⟩ := Option.map_eq_some_iff.mp answered
      change (some found).filter (fun run => run.status.assignedPod == podName) = some run at hands
      obtain ⟨same, _⟩ := Option.filter_eq_some_iff.mp hands
      cases same
      exact ⟨copy, rfl, read⟩
    | absent =>
      cases answered
      cases hands
    | _ => cases answered

/-- A version that a call hands out is stored by then. -/
theorem mem_versions_of_heldBy {run : Run}
    (answered : answerCall world (world.nodes pod) request reply = some answer)
    (hands : heldBy ⟨request, answer⟩ = some run) :
    run ∈ (afterCall world pod thread request reply).versions := by
  cases request with
  | get | listRuns =>
    obtain ⟨_, rfl, read⟩ := read_of_heldBy (by simp) answered hands
    exact List.mem_of_getElem? read
  | updateStatus | update =>
    cases reply with
    | accepted =>
      obtain ⟨_, same⟩ := Option.ite_none_right_eq_some.mp answered
      cases same
      cases hands
      exact .head _
    | refused =>
      cases answered
      cases hands
    | lost =>
      cases (Option.ite_none_right_eq_some.mp answered).2
      cases hands
    | _ => cases answered
  | updateLogged | execute | query => cases hands

/-- The clock is read truly. -/
theorem eq_clock_of_answerCall {time : Time}
    (answered : answerCall world node (.query .clock) reply = some time) :
    time = world.clock := by
  cases reply with
  | own => exact (Option.some.inj answered).symm
  | answer asked answer after =>
    change answerQuery world node .clock (.answer asked answer after) = some time at answered
    simp [answerQuery, isExternal] at answered
  | _ => cases answered

/-- What is answered from outside is the reply. -/
theorem reply_of_isExternal {query : Query} {answer : query.Answer}
    (external : isExternal query = true)
    (answered : answerCall world node (.query query) reply = some answer) :
    ∃ after, reply = .answer query answer after := by
  change answerQuery world node query reply = some answer at answered
  cases reply with
  | answer asked given after =>
    by_cases same : asked = query
    · subst same
      simp only [answerQuery, external, and_self, dite_true, Option.some.injEq] at answered
      exact ⟨after, by rw [answered]⟩
    · simp [answerQuery, same] at answered
  | own =>
    cases query with
    | clock | memory => cases external
    | _ => cases answered
  | _ => cases answered

/-- The reply is a response to `Status`. -/
def reports : Reply → Bool
  | .answer .status answer _ =>
    match (answer : Polled StatusResponse) with
    | .response _ => true
    | _ => false
  | _ => false

theorem reports_of_answered {response : StatusResponse}
    (answered : answerCall world node (.query .status) reply = some (.response response)) :
    reports reply = true := by
  obtain ⟨_, rfl⟩ := reply_of_isExternal rfl answered
  rfl

/-- The memory is read truly. -/
theorem eq_memory_of_answerCall {seen : Memory}
    (answered : answerCall world node (.query .memory) reply = some seen) :
    seen = node.memory := by
  cases reply with
  | own => exact (Option.some.inj answered).symm
  | answer asked answer after =>
    change answerQuery world node .memory (.answer asked answer after) = some seen at answered
    simp [answerQuery, isExternal] at answered
  | _ => cases answered

/-- Arguments are handed over at the start only. -/
theorem answerCall_arguments (world : World) (node : Node) (reply : Reply) :
    answerCall world node (.query .arguments) reply = none := by
  cases reply with
  | answer asked answer after =>
    change answerQuery world node .arguments (.answer asked answer after) = none
    simp [answerQuery, isExternal]
  | _ => rfl

section Order

variable (ordered : world.Ordered) (sound : SoundThread deployment world.toLedger pod thread)

include ordered sound

/-- The object that a program holds is the stored one, if its resource version is. -/
theorem held_eq_stored {base run : Run} (holds : held thread.exchanges = some base)
    (same : run.resourceVersion = base.resourceVersion) (accepted : world.accepts run = true) :
    base = world.stored := by
  have version := ((Ledger.accepts_iff run).mp accepted).2
  exact ordered.eq_stored (sound.versions base (List.mem_of_head? holds)) (same.symm.trans version)

/-- The answers are those that programs rely on. -/
theorem allowedAnswer_of_answers
    (answers : Answers world pod i reply thread request rest answer) :
    allowedAnswer thread.exchanges ⟨request, answer⟩ := by
  have conforms := sound.conforms
  rw [answers.program] at conforms
  have answered := answers.answered
  cases request with
  | updateStatus =>
    obtain ⟨base, holds, write⟩ := conforms.1
    intro stored given
    cases reply with
    | accepted =>
      obtain ⟨accepted, same⟩ := Option.ite_none_right_eq_some.mp answered
      cases same
      cases given
      exact ⟨base, holds, by rw [held_eq_stored ordered sound holds write.resourceVersion accepted]⟩
    | refused =>
      cases answered
      cases given
    | lost =>
      cases (Option.ite_none_right_eq_some.mp answered).2
      cases given
    | _ => cases answered
  | update =>
    obtain ⟨base, holds, version⟩ := conforms.1
    intro stored given
    cases reply with
    | accepted =>
      obtain ⟨accepted, same⟩ := Option.ite_none_right_eq_some.mp answered
      cases same
      cases given
      exact ⟨base, holds, by rw [held_eq_stored ordered sound holds version accepted]⟩
    | refused =>
      cases answered
      cases given
    | lost =>
      cases (Option.ite_none_right_eq_some.mp answered).2
      cases given
    | _ => cases answered
  | _ => trivial

/-- An answer leaves a program sound. -/
theorem SoundThread.resumed (answers : Answers world pod i reply thread request rest answer) :
    SoundThread deployment (afterCall world pod thread request reply) pod
      (thread.resumed (world.nodes pod).server
        ((world.nodes pod).settled request rest answer reply).1 request answer) where
  conforms := by
    have conforms := sound.conforms
    rw [answers.program] at conforms
    have continues := conforms.2 answer (allowedAnswer_of_answers ordered sound answers)
    exact continues.settled
  versions run mem := by
    have later := extends_afterCall world pod thread request reply
    simp only [handed, Thread.resumed, List.filterMap_cons] at mem
    split at mem
    · exact later.versions.subset (sound.versions run mem)
    rename_i hands
    rcases List.mem_cons.mp mem with rfl | old
    · exact mem_versions_of_heldBy answers.answered hands
    · exact later.versions.subset (sound.versions run old)
  read time mem := by
    have later := extends_afterCall world pod thread request reply
    rcases List.mem_cons.mp mem with same | old
    · cases same
      rw [eq_clock_of_answerCall answers.answered]
      exact later.clock
    · exact (sound.read time old).trans later.clock

end Order

theorem soundThread_begin {worker : Bool} {program : Process Result}
    (conforms : Conforms (deployment.controllers pod) program []) :
    SoundThread deployment ledger pod { worker, program } where
  conforms := conforms
  versions run mem := by cases mem
  read time mem := by cases mem

theorem soundThread_launch (deployment : Deployment) (ledger : Ledger) (pod : String)
    (run : Run) (goroutine : Goroutine) :
    SoundThread deployment ledger pod
      (.ofGoroutine (deployment.controllers pod) run goroutine) where
  conforms := conforms_goroutine _ _ _
  versions run mem := by cases mem
  read time mem := by
    rcases List.mem_singleton.mp mem with same
    cases same

/-! ## Changes of the ledger -/

/-- The reasons of a status update over the stored version. -/
inductive Write (deployment : Deployment) (world : World) : Writer → RunStatus → Option Int → Prop
  | scheduler {decision : Decision} {chosen : Run}
      (made : decided deployment.platform world.stored decision = some chosen)
      (timely : decision.now.all (· ≤ world.clock) = true) :
      Write deployment world .scheduler chosen.status none
  | reaper {pod : Option Pod} {now recorded : Time} {verdict : Reaper.Verdict}
      (found : Reaper.reconcile deployment.reaper world.stored pod now = some verdict)
      (timely : recorded ≤ world.clock)
      (named : pod.all (fun pod => pod.name == world.stored.status.assignedPod) = true) :
      Write deployment world .reaper
        (Reaper.handleStaleRun world.stored verdict recorded).status none
  | runtimed {pod : String} {thread : Thread} {run : Run} {thereafter : List Edit}
      (member : thread ∈ (world.nodes pod).threads)
      (holds : held thread.exchanges = some world.stored)
      (write : StatusWrite (deployment.controllers pod) thread.exchanges world.stored run
        thereafter) :
      Write deployment world (.runtimed pod) run.status thread.polled

/-- The ways in which the ledger changes. -/
inductive StoreChange (deployment : Deployment) (world : World) : Ledger → Prop
  | idle {time : Time} (later : world.clock ≤ time) :
      StoreChange deployment world { world.toLedger with clock := time }
  | amended {run : Run} {gone : Bool} (present : world.gone = false)
      (key : Scheduler.reservationKeyFor run = Scheduler.reservationKeyFor world.stored)
      (name : run.name = world.stored.name) (status : run.status = world.stored.status)
      (spec : run.fixedSpec = world.stored.fixedSpec)
      (version : run.resourceVersion = world.stored.resourceVersion + 1) :
      StoreChange deployment world { world.store run with gone }
  | wrote {writer : Writer} {status : RunStatus} {polled : Option Int}
      (present : world.gone = false)
      (write : Write deployment world writer status polled) :
      StoreChange deployment world (world.storeStatus writer status polled)
  | executed {pod : String} {thread : Thread} {attempt : Int}
      {rest : Option String → Process Result}
      (member : thread ∈ (world.nodes pod).threads)
      (program : thread.program = .call (.execute attempt) rest) :
      StoreChange deployment world
        (world.record (.executed pod world.clock (number world.stored) attempt
          (world.nodes pod).prepared))
  | queried {pod : String} {thread : Thread} {query : Query} {rest : query.Answer → Process Result}
      (member : thread ∈ (world.nodes pod).threads)
      (program : thread.program = .call (.query query) rest) :
      StoreChange deployment world (world.record (.queried pod world.clock (number world.stored)
          (held thread.exchanges) query))

theorem storeChange_kept (deployment : Deployment) (world : World) :
    StoreChange deployment world world.toLedger :=
  .idle le_rfl

/-- What the scheduler stores for a decision. -/
inductive Decided (platform : Platform) (run : Run) : Decision → Run → Prop
  | backfill : Decided platform run .backfill { run with
      status := { run.status with
        mode := run.spec.mode.name
        phase := if run.status.phase = .unset then .pending else run.status.phase } }
  | terminate {now : Time} {phase : RunPhase} {reason message : String}
      (pending : run.status.phase.isPending = true) (terminal : phase.isTerminal = true) :
      Decided platform run (.terminate now) (setTerminal run phase reason message now)
  | wait {now : Time} {message : String} (admitted : isAdmitted platform run now = true) :
      Decided platform run (.wait now message)
        { run with status := { run.status with phase := .pending, message } }
  | fail {now : Time} {message : String} (admitted : isAdmitted platform run now = true) :
      Decided platform run (.fail now message) (Scheduler.selectionFailure run message)
  | bind {now recorded : Time} {pod : Pod} (admitted : isAdmitted platform run now = true) :
      Decided platform run (.bind now pod recorded) (Scheduler.bindStatus run pod recorded)

section Decided

variable {platform : Platform} {run chosen : Run} {decision : Decision}

theorem decided_cases (made : decided platform run decision = some chosen) :
    Decided platform run decision chosen := by
  cases decision with
  | backfill =>
    cases (Option.ite_none_right_eq_some.mp made).2
    exact .backfill
  | terminate =>
    simp only [decided] at made
    split at made
    next ended =>
      cases made
      obtain ⟨_, _, _, rfl, terminal, pending⟩ := Scheduler.admission_eq_terminate ended
      exact .terminate pending terminal
    · cases made
  | wait =>
    obtain ⟨⟨_, admitted⟩, waits⟩ := Option.ite_none_right_eq_some.mp made
    cases (Option.ite_none_right_eq_some.mp waits).2
    exact .wait admitted
  | fail =>
    obtain ⟨⟨_, admitted⟩, same⟩ := Option.ite_none_right_eq_some.mp made
    cases same
    exact .fail admitted
  | bind =>
    obtain ⟨⟨_, admitted⟩, same⟩ := Option.ite_none_right_eq_some.mp made
    cases same
    exact .bind admitted

theorem isPending_of_isAdmitted {now : Time} (admitted : isAdmitted platform run now = true) :
    run.status.phase.isPending = true := by
  unfold isAdmitted at admitted
  split at admitted
  next scheduled => exact (Scheduler.admission_eq_schedule scheduled).1
  · cases admitted

/-- The scheduler decides over the version that is stored. -/
theorem decided_stored {copy : Nat} (sound : Sound deployment world)
    (read : world.versions[copy]? = some run)
    (made : decided platform run decision = some chosen)
    (accepted : world.accepts chosen = true) :
    decided platform world.stored decision = some chosen := by
  have same : chosen.resourceVersion = run.resourceVersion := by
    cases decided_cases made <;> rfl
  have version := same.symm.trans ((Ledger.accepts_iff chosen).mp accepted).2
  rwa [sound.ordered.eq_stored (List.mem_of_getElem? read) version] at made

end Decided

/-- What an answered call does to the ledger. -/
theorem storeChange_of_answers (sound : Sound deployment world)
    (answers : Answers world pod i reply thread request rest answer) :
    StoreChange deployment world (afterCall world pod thread request reply) := by
  have soundThread := sound.threads pod thread answers.member
  have conforms := soundThread.conforms
  rw [answers.program] at conforms
  have answered := answers.answered
  cases request with
  | get | listRuns => exact storeChange_kept deployment world
  | updateStatus run =>
    obtain ⟨_, holds, write⟩ := conforms.1
    cases reply with
    | accepted | lost =>
      obtain ⟨accepted, _⟩ := Option.ite_none_right_eq_some.mp answered
      obtain rfl := held_eq_stored sound.ordered soundThread holds write.resourceVersion accepted
      exact .wrote ((Ledger.accepts_iff run).mp accepted).1 (.runtimed answers.member holds write)
    | _ => exact storeChange_kept deployment world
  | update run | updateLogged run =>
    cases reply with
    | accepted | lost =>
      obtain ⟨accepted, _⟩ := Option.ite_none_right_eq_some.mp answered
      exact .amended ((Ledger.accepts_iff run).mp accepted).1 rfl rfl rfl rfl rfl
    | _ => exact storeChange_kept deployment world
  | execute => exact .executed answers.member answers.program
  | query =>
    cases reply with
    | answer => exact .queried answers.member answers.program
    | _ => exact storeChange_kept deployment world

/-- What a step does to the ledger. -/
theorem storeChange_of_step {action : Action} {next : World} (sound : Sound deployment world)
    (stepped : step deployment action world = some next) :
    StoreChange deployment world next.toLedger := by
  cases change_of_step stepped with
  | tick later => exact .idle later
  | terminate present | delete present
  | finalizers present => exact .amended present rfl rfl rfl rfl rfl
  | schedule read made accepted timely =>
    have stored := decided_stored sound read made accepted
    exact .wrote ((Ledger.accepts_iff _).mp accepted).1 (.scheduler stored timely)
  | abandon read found accepted =>
    exact .amended ((Ledger.accepts_iff _).mp accepted).1 rfl rfl rfl rfl rfl
  | reap read found accepted timely named =>
    obtain ⟨present, version⟩ := (Ledger.accepts_iff _).mp accepted
    obtain rfl := sound.ordered.eq_stored (List.mem_of_getElem? read) version
    exact .wrote present (.reaper found timely named)
  | advance answers => exact storeChange_of_answers sound answers
  | _ => exact storeChange_kept deployment world

/-- A change leaves the former versions, and stores at most one. -/
theorem mem_versions_of_storeChange (change : StoreChange deployment world ledger) {version : Run}
    (mem : version ∈ ledger.versions) :
    version = ledger.stored ∨ version ∈ world.versions := by
  rcases List.mem_cons.mp mem with rfl | former
  · exact .inl rfl
  cases change with
  | idle => exact .inr (.tail _ former)
  | amended | wrote => exact .inr former
  | executed | queried => exact .inr (.tail _ former)

theorem StoreChange.ordered (change : StoreChange deployment world ledger)
    (ordered : world.Ordered) :
    ledger.Ordered := by
  cases change with
  | idle | executed | queried => exact ordered
  | amended present key name status spec version => exact ordered.store version
  | wrote => exact ordered.store rfl

/-- Steps keep worlds sound. -/
theorem sound_of_step {action : Action} {next : World} (sound : Sound deployment world)
    (stepped : step deployment action world = some next) :
    Sound deployment next where
  ordered := (storeChange_of_step sound stepped).ordered sound.ordered
  threads := by
    refine allThreads_of_step ?_ ?_ ?_ ?_ sound.threads stepped
    · intro pod thread known
      exact known.extends (extends_of_step stepped)
    · rintro _ _ rfl
      exact ⟨soundThread_begin (conforms_reconcile _),
        soundThread_begin (conforms_recoverActiveRunsOnce _)⟩
    · intro pod goroutine _
      exact soundThread_launch _ _ _ _ _
    · intro pod i reply thread request rest answer answers _ after known
      rw [after]
      exact known.resumed sound.ordered answers

theorem sound_initial (deployment : Deployment) (run : Run) (clock : Time) :
    Sound deployment (World.initial run clock) where
  ordered := List.pairwise_singleton _ _
  threads pod thread mem := by cases mem

/-! ## Memory -/

/-- The edits that follow a stored status. -/
theorem editsAfter_of_answers (sound : SoundThread deployment world.toLedger pod thread)
    (answers : Answers world pod i reply thread request rest answer) :
    editsAfter request reply = [] ∨
      ∃ handle, editsAfter request reply = [.setStarted handle false] := by
  have conforms := sound.conforms
  rw [answers.program] at conforms
  cases request with
  | updateStatus =>
    cases reply with
    | accepted =>
      obtain ⟨_, _, write⟩ := conforms.1
      cases write with
      | resume => exact .inr ⟨_, rfl⟩
      | _ => exact .inl rfl
    | _ => exact .inl rfl
  | _ => exact .inl rfl

/-- What the edits of a program keep is kept by an answer. -/
theorem memory_settled (Inv : Memory → Prop) (sound : Sound deployment world)
    (answers : Answers world pod i reply thread request rest answer)
    (own : ∀ edit memory, allowedEdit (⟨request, answer⟩ :: thread.exchanges) edit →
      Inv memory → Inv (Memory.edit edit memory)) (following : ∀ handle memory, Inv memory →
      Inv (Memory.edit (.setStarted handle false) memory))
    (initial : Inv (world.nodes pod).memory) :
    Inv ((world.nodes pod).settled request rest answer reply).2 := by
  have soundThread := sound.threads pod thread answers.member
  have conforms := soundThread.conforms
  rw [answers.program] at conforms
  have continues := conforms.2 answer (allowedAnswer_of_answers sound.ordered soundThread answers)
  apply continues.settle own
  rcases editsAfter_of_answers soundThread answers with nothing | ⟨handle, restarted⟩
  · rw [nothing]
    exact initial
  · rw [restarted]
    exact following handle _ initial

/-- Every reachable world is sound. -/
theorem sound_of_run {actions : List Action} {created : Run} {clock : Time}
    (ran : run (step deployment) actions (World.initial created clock) = some world) :
    Sound deployment world :=
  invariant_of_run sound_of_step (sound_initial deployment created clock) ran

end Kruntimes.Lifecycle
