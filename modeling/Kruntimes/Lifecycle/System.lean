import Kruntimes.Reaper
import Kruntimes.Runtimed.Controller
import Kruntimes.Scheduler.System

/-!
# The life of one Run

One Run in the API server, the scheduler, the stale-Run reaper, and a runtimed with its
Runtime Server on every Pod.  Everybody reads copies of the Run that may be older than the
stored one by any amount; an update over an outdated copy is refused.  An update of runtimed
may be stored although it reports an error.

Several programs of one runtimed run side by side: at most one `Reconcile` of the Run,
startup recovery, the goroutines they started, and the drain of a shutdown.  One action
answers one call of one program, so that anything may happen between two calls.  What the
Runtime Server answers, and the state it is left in, is part of the action.
-/

namespace Kruntimes.Lifecycle

open Api Data Transition Runtimed

/-! ## State -/

/-- The configuration of all components.  The runtimed of a Pod knows its name. -/
structure Deployment where
  platform : Platform
  reaper : Reaper.StaleRunReaper
  controllers : String → Controller
  podName : ∀ pod, (controllers pod).podName = pod
  samePlatform : ∀ pod, (controllers pod).platform = platform

/-- An execution that the Runtime Server holds for the Run.  `attempt` is the recorded
attempt of the Run copy for which it was started. -/
structure Execution where
  attempt : Int
  state : ExecutionState
  deriving DecidableEq

/-- What a Runtime Server holds for the Run. -/
structure Server where
  execution : Option Execution := none
  session : Option SessionState := none
  function : Option FunctionRegistration := none
  deriving DecidableEq

/-- A program in progress with its exchanges.  `worker` marks a `Reconcile`, and `polled`
is the attempt of the execution that was reported by the last `Status` response. -/
structure Thread where
  worker : Bool
  program : Process Result
  exchanges : History := []
  polled : Option Int := none

/-- A Pod.  `recovered` says that startup recovery has begun, and `prepared` that the
source was prepared in the working directory and the directory was not removed since. -/
structure Node where
  memory : Memory := {}
  threads : List Thread := []
  recovered : Bool := false
  prepared : Bool := false
  server : Server := {}

/-- Who stores a status. -/
inductive Writer
  | scheduler
  | reaper
  | runtimed (pod : String)
  deriving DecidableEq

/-- The number of the attempt that a status records. -/
def number (run : Run) : Int :=
  currentAttempt run.status.attempt

/-- What happened so far.  Calls are recorded with the number of the stored attempt. -/
inductive Event
  /-- A status was stored. -/
  | wrote (writer : Writer) (time : Time) (old new : Run) (polled : Option Int)
  /-- `Execute` was requested by a start that began for a copy at `attempt`. -/
  | executed (pod : String) (time : Time) (number attempt : Int) (prepared : Bool)
  /-- Another request was made by a program that worked on `copy`. -/
  | queried (pod : String) (time : Time) (number : Int) (copy : Option Run) (query : Query)
  deriving DecidableEq

/-- The API server and the history.  `earlier` holds the former versions of the Run, the
newest first. -/
structure Ledger where
  clock : Time
  stored : Run
  earlier : List Run := []
  gone : Bool := false
  log : List Event := []

namespace Ledger

/-- Every version of the Run, the newest first. -/
def versions (ledger : Ledger) : List Run :=
  ledger.stored :: ledger.earlier

/-- Put a version into the store. -/
def store (ledger : Ledger) (run : Run) : Ledger :=
  { ledger with stored := run, earlier := ledger.stored :: ledger.earlier }

/-- Write down an event. -/
def record (ledger : Ledger) (event : Event) : Ledger :=
  { ledger with log := event :: ledger.log }

/-- The API server takes updates over the stored version only. -/
def accepts (ledger : Ledger) (run : Run) : Bool :=
  !ledger.gone && run.resourceVersion == ledger.stored.resourceVersion

/-- An accepted status update. -/
def storeStatus (ledger : Ledger) (writer : Writer) (status : RunStatus)
    (polled : Option Int) : Ledger :=
  (ledger.store (Api.storeStatus ledger.stored status)).record
    (.wrote writer ledger.clock ledger.stored (Api.storeStatus ledger.stored status) polled)

/-- An accepted metadata update.  A deleted object without finalizers goes away. -/
def storeMetadata (ledger : Ledger) (finalizers : List String) : Ledger :=
  { ledger.store (Api.storeMetadata ledger.stored finalizers) with
    gone := ledger.stored.deleting && finalizers.isEmpty }

/-- A changed termination request. -/
def storeTermination (ledger : Ledger) (mode : Option RunTerminationMode) : Ledger :=
  ledger.store { ledger.stored with
      spec := { ledger.stored.spec with termination := mode }
      resourceVersion := ledger.stored.resourceVersion + 1 }

/-- A deletion. -/
def storeDeletion (ledger : Ledger) : Ledger :=
  { ledger.store { ledger.stored with
        deleting := true, resourceVersion := ledger.stored.resourceVersion + 1 } with
    gone := ledger.stored.finalizers.isEmpty }

end Ledger

/-- The state of the whole system. -/
structure World extends Ledger where
  nodes : String → Node := fun _ => {}

namespace World

/-- Replace the state of the API server. -/
def setLedger (world : World) (ledger : Ledger) : World :=
  { world with toLedger := ledger }

/-- Replace the state of a Pod. -/
def setNode (world : World) (pod : String) (node : Node) : World :=
  { world with nodes := Function.update world.nodes pod node }

end World

/-! ## Calls of runtimed -/

/-- How a call is answered. -/
inductive Reply
  /-- The own clock and memory. -/
  | own
  /-- A version of the Run. -/
  | version (index : Nat)
  /-- The Run was not found. -/
  | absent
  /-- An update is stored. -/
  | accepted
  /-- An update is refused. -/
  | refused (message : String)
  /-- An update is stored, but its answer is lost. -/
  | lost (message : String)
  /-- An answer from outside, and what the Runtime Server holds after it. -/
  | answer (query : Query) (answer : query.Answer) (after : Server)
  /-- The answer to `Execute`, and what the Runtime Server holds after it. -/
  | executed (failure : Option String) (after : Server)

/-- The reply to an update that is stored. -/
def Reply.stores : Reply → Bool
  | .accepted | .lost _ => true
  | _ => false

/-- The queries that are answered from outside the process. -/
def isExternal : Query → Bool
  | .clock | .memory | .arguments => false
  | _ => true

/-- The answer to a query. -/
def answerQuery (world : World) (node : Node) (query : Query) :
    Reply → Option query.Answer
  | .own =>
    match query with
    | .clock => some world.clock
    | .memory => some node.memory
    | _ => none
  | .answer asked answer _ =>
    if same : asked = query ∧ isExternal query = true then some (same.1 ▸ answer) else none
  | _ => none

/-- The answer to a call, if the reply fits. -/
def answerCall (world : World) (node : Node) : (request : Call) → Reply → Option (Answer request)
  | .get, .version index => (world.versions[index]?).map some
  | .get, .absent => if world.gone then some none else none
  | .listRuns _, .version index => (world.versions[index]?).map some
  | .listRuns _, .absent => some none
  | .updateStatus run _, .accepted =>
    if world.accepts run then some (.ok (Api.storeStatus world.stored run.status)) else none
  | .updateStatus _ _, .refused message => some (.error message)
  | .updateStatus run _, .lost message => if world.accepts run then some (.error message) else none
  | .update run, .accepted =>
    if world.accepts run then some (.ok (Api.storeMetadata world.stored run.finalizers))
    else none
  | .update _, .refused message => some (.error message)
  | .update run, .lost message => if world.accepts run then some (.error message) else none
  | .updateLogged run, .accepted => if world.accepts run then some none else none
  | .updateLogged _, .refused message => some (some message)
  | .updateLogged run, .lost message => if world.accepts run then some (some message) else none
  | .execute _, .executed failure _ => some failure
  | .query query, reply => answerQuery world node query reply
  | _, _ => none

/-- What a call does to the store and to the history. -/
def afterCall (world : World) (pod : String) (thread : Thread) : Call → Reply → Ledger
  | .updateStatus run _, .accepted | .updateStatus run _, .lost _ =>
    world.storeStatus (.runtimed pod) run.status thread.polled
  | .update run, .accepted | .update run, .lost _ | .updateLogged run, .accepted
  | .updateLogged run, .lost _ => world.storeMetadata run.finalizers
  | .execute attempt, _ =>
    world.record (.executed pod world.clock (number world.stored) attempt
      (world.nodes pod).prepared)
  | .query query, .answer _ _ _ =>
    world.record (.queried pod world.clock (number world.stored) (held thread.exchanges) query)
  | _, _ => world.toLedger

/-- What a call leaves in the Runtime Server. -/
def serverAfter (server : Server) : Reply → Server
  | .answer _ _ after => after
  | .executed _ after => after
  | _ => server

/-- The edits that follow directly on an accepted status update. -/
def editsAfter : Call → Reply → List Edit
  | .updateStatus _ thereafter, .accepted => thereafter
  | _, _ => []

/-- The working directory after a call: `prepareSource` fills it, `cleanupRunFiles` removes
it. -/
def preparedAfter (prepared : Bool) : (request : Call) → Answer request → Bool
  | .query .prepareSource, answer => (answer : Option String).isNone || prepared
  | .query .cleanupRunFiles, _ => false
  | _, _ => prepared

/-- The execution that a response reports. -/
def polledAfter (server : Server) (polled : Option Int) :
    (request : Call) → Answer request → Option Int
  | .query .status, answer =>
    match (answer : Polled StatusResponse) with
    | .response _ => server.execution.map Execution.attempt
    | _ => polled
  | _, _ => polled

/-- The program has ended. -/
def isDone {α : Type} : Process α → Bool
  | .done _ => true
  | _ => false

/-- The rest of a program after an answer, and the memory after the edits up to its next
call. -/
def Node.settled (node : Node) (request : Call) (next : Answer request → Process Result)
    (answer : Answer request) (reply : Reply) : Process Result × Memory :=
  (next answer).settle Memory.edit
    ((editsAfter request reply).foldl (fun memory edit => memory.edit edit) node.memory)

/-- A program after the answer to its call. -/
def Thread.resumed (thread : Thread) (server : Server) (program : Process Result)
    (request : Call) (answer : Answer request) : Thread :=
  { thread with
    program
    exchanges := ⟨request, answer⟩ :: thread.exchanges
    polled := polledAfter server thread.polled request answer }

/-- Continue a program with the answer to its call.  It moves to the front; a program that
has ended is dropped. -/
def Node.resume (node : Node) (index : Nat) (thread : Thread) (request : Call)
    (next : Answer request → Process Result) (answer : Answer request) (reply : Reply) :
    Node :=
  let settled := node.settled request next answer reply
  { node with
    memory := settled.2
    threads :=
      if isDone settled.1 then node.threads.eraseIdx index
      else thread.resumed node.server settled.1 request answer :: node.threads.eraseIdx index
    prepared := preparedAfter node.prepared request answer
    server := serverAfter node.server reply }

/-- Answer the call of a program. -/
def performAdvance (world : World) (pod : String) (index : Nat) (reply : Reply) :
    Option World :=
  match (world.nodes pod).threads[index]? with
  | none => none
  | some thread =>
    match thread.program with
    | .call request next =>
      (answerCall world (world.nodes pod) request reply).map fun answer =>
        (world.setLedger (afterCall world pod thread request reply)).setNode pod
          ((world.nodes pod).resume index thread request next answer reply)
    | _ => none

/-! ## The scheduler and the reaper -/

/-- What the scheduler decides about a Run, with the clock reading of its checks.  The
choice of the Pod and the messages are left open. -/
inductive Decision
  | backfill
  | terminate (now : Time)
  | wait (now : Time) (message : String)
  | fail (now : Time) (message : String)
  | bind (now : Time) (pod : Pod) (recorded : Time)

/-- The clock reading of a decision. -/
def Decision.now : Decision → Option Time
  | .backfill => none
  | .terminate now | .wait now _ | .fail now _ | .bind now _ _ => some now

/-- The Run passes the checks in front of the snapshot. -/
def isAdmitted (platform : Platform) (run : Run) (now : Time) : Bool :=
  match Scheduler.admission platform run now with
  | .schedule _ => true
  | _ => false

/-- The Run that the scheduler stores. -/
def decided (platform : Platform) (run : Run) : Decision → Option Run
  | .backfill => Scheduler.modeBackfill run
  | .terminate now =>
    match Scheduler.modeBackfill run, Scheduler.admission platform run now with
    | none, .terminate terminal => some terminal
    | _, _ => none
  | .wait now message =>
    if Scheduler.modeBackfill run = none ∧ isAdmitted platform run now = true then
      Scheduler.waitingStatus run message
    else none
  | .fail now message =>
    if Scheduler.modeBackfill run = none ∧ isAdmitted platform run now = true then
      some (Scheduler.selectionFailure run message)
    else none
  | .bind now pod recorded =>
    if Scheduler.modeBackfill run = none ∧ isAdmitted platform run now = true then
      some (Scheduler.bindStatus run pod recorded)
    else none

/-- A status update of the scheduler over some copy. -/
def performSchedule (deployment : Deployment) (ledger : Ledger) (copy : Nat)
    (decision : Decision) : Option Ledger :=
  match ledger.versions[copy]? with
  | none => none
  | some run =>
    match decided deployment.platform run decision with
    | none => none
    | some chosen =>
      if ledger.accepts chosen = true ∧ decision.now.all (· ≤ ledger.clock) = true then
        some (ledger.storeStatus .scheduler chosen.status none)
      else none

/-- `Reconcile` of the reaper over some copy, with the Pod it finds and the clock readings
of the check and of the write.  The removal of the finalizer is an update of its own; the
status update then comes with the next action. -/
def performReap (deployment : Deployment) (ledger : Ledger) (copy : Nat) (pod : Option Pod)
    (now recorded : Time) : Option Ledger :=
  match ledger.versions[copy]? with
  | none => none
  | some run =>
    match Reaper.reconcile deployment.reaper run pod now with
    | none => none
    | some verdict =>
      let stale := Reaper.handleStaleRun run verdict recorded
      if ledger.accepts run = true ∧ recorded ≤ ledger.clock ∧
          pod.all (fun pod => pod.name == run.status.assignedPod) = true then
        match Reaper.abandonedRegistration stale verdict with
        | none => some (ledger.storeStatus .reaper stale.status none)
        | some unmarked => some (ledger.storeMetadata unmarked.finalizers)
      else none

/-! ## The system -/

/-- The actions. -/
inductive Action
  /-- Time passes. -/
  | tick (time : Time)
  /-- The termination request changes. -/
  | terminate (mode : Option RunTerminationMode)
  /-- The Run is deleted. -/
  | delete
  /-- Another controller changes the finalizers. -/
  | finalizers (finalizers : List String)
  | schedule (copy : Nat) (decision : Decision)
  | reap (copy : Nat) (pod : Option Pod) (now recorded : Time)
  /-- A runtimed takes the Run from its workqueue. -/
  | trigger (pod : String)
  /-- A runtimed begins startup recovery. -/
  | recover (pod : String)
  /-- A goroutine begins. -/
  | launch (pod : String) (index : Nat)
  /-- A runtimed is shut down and drains its Runs. -/
  | shutdown (pod : String)
  /-- A call is answered. -/
  | advance (pod : String) (index : Nat) (reply : Reply)
  /-- A runtimed restarts. -/
  | restart (pod : String)
  /-- The Runtime Server changes its state by itself. -/
  | serve (pod : String) (server : Server)
  /-- Other Runs of the Pod come and go. -/
  | neighbours (pod : String) (others : Nat) (otherSession : Bool)

/-- Begin a program. -/
def Node.begin (node : Node) (thread : Thread) : Node :=
  { node with threads := thread :: node.threads }

/-- A `Reconcile` begins when the workqueue holds the Run and no other worker has it.  The
workqueue is filled by events about versions that pass the filter, and by earlier results. -/
def performTrigger (deployment : Deployment) (world : World) (pod : String) : Option World :=
  if (∀ thread ∈ (world.nodes pod).threads, thread.worker = false) ∧
      (∃ version ∈ world.versions, runFilter (deployment.controllers pod) version = true) then
    some (world.setNode pod ((world.nodes pod).begin
      { worker := true, program := reconcile (deployment.controllers pod) }))
  else none

/-- Startup recovery begins once. -/
def performRecover (deployment : Deployment) (world : World) (pod : String) : Option World :=
  if (world.nodes pod).recovered then none
  else
    some (world.setNode pod ({ world.nodes pod with recovered := true }.begin
        { worker := false, program := recoverActiveRunsOnce (deployment.controllers pod) }))

/-- A goroutine at its beginning. -/
def Thread.ofGoroutine (controller : Controller) (run : Run) (goroutine : Goroutine) : Thread :=
  { worker := false, program := goroutine.program controller run
    exchanges := [⟨.query .arguments, goroutine⟩] }

/-- A goroutine that was started begins. -/
def performLaunch (deployment : Deployment) (world : World) (pod : String) (index : Nat) :
    Option World :=
  ((world.nodes pod).memory.spawned[index]?).map fun goroutine =>
    world.setNode pod
      ({ world.nodes pod with memory := (world.nodes pod).memory.withoutSpawned index }.begin
        (.ofGoroutine (deployment.controllers pod) world.stored goroutine))

/-- One action of the system. -/
def step (deployment : Deployment) : Step Action World := fun action world =>
  match action with
  | .tick time =>
    if world.clock ≤ time then
      some (world.setLedger { world.toLedger with clock := time })
    else none
  | .terminate mode =>
    if world.gone then none else some (world.setLedger (world.storeTermination mode))
  | .delete => if world.gone then none else some (world.setLedger world.storeDeletion)
  | .finalizers finalizers =>
    if world.gone then none else some (world.setLedger (world.storeMetadata finalizers))
  | .schedule copy decision =>
    (performSchedule deployment world.toLedger copy decision).map world.setLedger
  | .reap copy pod now recorded =>
    (performReap deployment world.toLedger copy pod now recorded).map world.setLedger
  | .trigger pod => performTrigger deployment world pod
  | .recover pod => performRecover deployment world pod
  | .launch pod index => performLaunch deployment world pod index
  | .shutdown pod =>
    some (world.setNode pod
      ((world.nodes pod).begin (.ofGoroutine (deployment.controllers pod) world.stored .drain)))
  | .advance pod index reply => performAdvance world pod index reply
  | .restart pod =>
    some (world.setNode pod
      { world.nodes pod with memory := {}, threads := [], recovered := false })
  | .serve pod server => some (world.setNode pod { world.nodes pod with server })
  | .neighbours pod others otherSession =>
    let memory := { (world.nodes pod).memory with others, otherSession }
    some (world.setNode pod { world.nodes pod with memory })

/-- A Run as it is created. -/
def IsNew (run : Run) : Prop :=
  run.status = {} ∨ run.status = { phase := .unset }

instance (run : Run) : Decidable (IsNew run) :=
  inferInstanceAs (Decidable (_ ∨ _))

/-- The system right after the creation of a Run. -/
def World.initial (run : Run) (clock : Time) : World :=
  { clock, stored := run }

/-! ## A small deployment -/

/-- One runtimed with two workers per Pod, and thirty seconds before the reaper steps
in. -/
def smallDeployment : Deployment where
  platform := Scheduler.smallReconciler.platform
  reaper := { stalenessThreshold := 30 * second }
  controllers pod :=
    { platform := Scheduler.smallReconciler.platform, durationString := fun _ => "1s"
      podName := pod, workers := 2 }
  podName _ := rfl
  samePlatform _ := rfl

/-- A small Run with a retry policy. -/
def smallRunWith (mode : RunMode) (policy : Option RetryPolicy) : Run :=
  let run := Scheduler.smallRun "run-uid" mode
  { run with spec := { run.spec with retryPolicy := policy } }

/-- A task with a number of attempts and a backoff of one second. -/
def retriedRun (maxAttempts : Int) : Run :=
  smallRunWith ⟨true, none, none⟩ (some ⟨maxAttempts, second, []⟩)

/-- The scheduler binds the stored version. -/
def bindTo (pod : Pod) (now : Time) : List Action :=
  [.schedule 0 (.bind now pod now)]

/-- The newest program of a Pod receives these answers one after the other. -/
def advances (pod : String) (replies : List Reply) : List Action :=
  replies.map fun reply => .advance pod 0 reply

/-- The answers to a `Reconcile` that claims a task. -/
def claimReplies : List Reply :=
  [.version 0, .own, .answer .health true {}, .own, .own, .own, .accepted,
    .answer .prepareSource none {}, .own, .own]

/-- A Pod claims a task that it was assigned. -/
def claimOn (pod : String) : List Action :=
  .trigger pod :: advances pod claimReplies

/-- The answers to a `Reconcile` that claims a task and cannot prepare its source. -/
def unpreparedReplies : List Reply :=
  [.version 0, .own, .answer .health true {}, .own, .own, .own, .accepted,
    .answer .prepareSource (some "git clone: timeout") {}, .own, .accepted,
    .answer .forget none {}]

/-- A Runtime Server with an execution. -/
def serving (attempt : Int) (state : ExecutionState) : Server :=
  { execution := some ⟨attempt, state⟩ }

/-- The answers to a `Reconcile` that finds no execution and requests one. -/
def requestReplies : List Reply :=
  [.version 0, .own, .own, .own, .answer .status .notFound {}, .own, .own, .own, .own, .own, .own]

/-- The answers to the goroutine that starts the execution. -/
def executeReplies (attempt : Int) : List Reply :=
  [.answer .prepareExecution none {}, .executed none (serving attempt .running), .own]

/-- A Pod starts the execution of a task that it has claimed. -/
def startOn (pod : String) (attempt : Int) : List Action :=
  .trigger pod :: advances pod requestReplies ++
    .launch pod 0 :: advances pod (executeReplies attempt)

/-- The answers to a `Reconcile` that publishes the result of an execution. -/
def successReplies (attempt : Int) : List Reply :=
  [.version 0, .own, .own, .own,
    .answer .status (.response { state := .succeeded }) (serving attempt .succeeded), .own,
    .answer .readOutputs (.ok ∅) (serving attempt .succeeded), .own, .accepted,
    .answer .forget none {}, .answer .cleanupRunFiles none {}]

/-- The execution ends, and a Pod publishes its result. -/
def succeedOn (pod : String) (attempt : Int) : List Action :=
  .serve pod (serving attempt .succeeded) :: .trigger pod ::
    advances pod (successReplies attempt)

/-- The answers to a `Reconcile` that finds a failed execution. -/
def failureReplies (attempt : Int) : List Reply :=
  [.version 0, .own, .own, .own,
    .answer .status (.response { state := .failed, exitCode := 1 }) (serving attempt .failed),
    .own, .own, .accepted, .answer .forget none {}]

/-- The execution fails, and a Pod records it. -/
def failOn (pod : String) (attempt : Int) : List Action :=
  .serve pod (serving attempt .failed) :: .trigger pod :: advances pod (failureReplies attempt)

/-- A Pod ends the backoff. -/
def resumeOn (pod : String) : List Action :=
  .trigger pod :: advances pod [.version 0, .own, .own, .own, .accepted, .own, .own]

/-- A task is claimed, executed and published by its Pod. -/
def finishedActions : List Action :=
  [.schedule 0 .backfill] ++ bindTo Scheduler.smallPod 0 ++ claimOn "runtime-0" ++
    startOn "runtime-0" 0 ++ succeedOn "runtime-0" 0

/-- A Session with a retry policy. -/
def smallSession (policy : Option RetryPolicy) : Run :=
  smallRunWith ⟨false, none, some ⟨none⟩⟩ policy

/-- The answers to a `Reconcile` that claims a Session; the first claim also marks it with the
finalizer of its registration. -/
def sessionClaimReplies (marked : Bool) : List Reply :=
  [.version 0, .own, .answer .health true {}] ++ (if marked then [] else [.accepted]) ++
    [.own, .own, .own, .accepted, .own, .own]

/-- The Session as its Pod registers it. -/
def smallIdentity (pod : Pod) : SessionIdentity :=
  { runUid := "run-uid", assignedPodUid := pod.uid }

/-- A Runtime Server with a Session. -/
def hosting (state : SessionState) : Server :=
  { session := some state }

/-- The answers to a `Reconcile` that finds no Session and requests its registration. -/
def registrationReplies (identity : SessionIdentity) : List Reply :=
  [.version 0, .own, .answer (.sessionStatus identity) .notFound {}, .own, .own, .own, .own, .own]

/-- The answers to the goroutine that registers the Session. -/
def registerReplies (identity : SessionIdentity) : List Reply :=
  [.own, .own, .answer .prepareSource none {}, .answer .stageInputs none {}, .own,
    .answer (.registerSession identity) (.ok .ready) (hosting .ready)]

/-- The answers to a `Reconcile` that finds the Session registered. -/
def readyReplies (identity : SessionIdentity) : List Reply :=
  [.version 0, .own, .answer (.sessionStatus identity) (.response .ready) (hosting .ready), .own,
    .accepted, .answer .ensureOperations none (hosting .ready), .own, .own]

/-- A Pod claims a Session, registers it, and reports it Ready. -/
def serveOn (pod : Pod) (marked : Bool) : List Action :=
  .trigger pod.name :: advances pod.name (sessionClaimReplies marked) ++
    .trigger pod.name :: advances pod.name (registrationReplies (smallIdentity pod)) ++
    .launch pod.name 0 :: advances pod.name (registerReplies (smallIdentity pod)) ++
    .trigger pod.name :: advances pod.name (readyReplies (smallIdentity pod))

/-- A Session becomes Ready on the first Pod. -/
def readyActions : List Action :=
  [.schedule 0 .backfill] ++ bindTo Scheduler.smallPod 0 ++ serveOn Scheduler.smallPod false

end Kruntimes.Lifecycle
