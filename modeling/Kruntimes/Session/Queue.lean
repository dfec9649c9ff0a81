import Kruntimes.Data.Table
import Kruntimes.Transition.Run

/-!
# The operation queue of a Session Run

The owner runtimed serializes the mutating operations of each Session Run.  A
request enters the queue under the mutex of the queue manager, a worker goroutine
for each entry takes the jobs from a buffered channel, and the caller waits for the
result or for the end of its context.

A state holds the map from Run UIDs to queue entries, every entry ever created and
every job ever put into a channel: an entry that `Close` took out of the map lives on
in its worker, and a job lives on after its caller has returned.  Each action is what
one goroutine does between two points at which another one can see the difference.
The lease bookkeeping of the queue entries has no influence on the operations and is
left out.
-/

namespace Kruntimes.Session

open Data Transition

/-! ## Errors -/

/-- The status codes of gRPC that the Session data plane uses. -/
inductive Code
  | canceled
  | unknown
  | invalidArgument
  | deadlineExceeded
  | notFound
  | alreadyExists
  | resourceExhausted
  | failedPrecondition
  | internal
  | unavailable
  deriving DecidableEq

/-- The number of a status code. -/
def Code.number : Code → Nat
  | canceled => 1
  | unknown => 2
  | invalidArgument => 3
  | deadlineExceeded => 4
  | notFound => 5
  | alreadyExists => 6
  | resourceExhausted => 8
  | failedPrecondition => 9
  | internal => 13
  | unavailable => 14

/-- `ctx.Err()` of a context that has ended. -/
inductive ContextErr
  | canceled
  | deadlineExceeded
  deriving DecidableEq

/-- An error value. -/
inductive Failure
  | status (code : Code) (message : String)
  | context (err : ContextErr)
  | other (message : String)
  deriving DecidableEq

/-- The text of a context error. -/
def ContextErr.message : ContextErr → String
  | canceled => "context canceled"
  | deadlineExceeded => "context deadline exceeded"

/-- `status.FromContextError(err).Err()`. -/
def fromContextError : ContextErr → Failure
  | .canceled => .status .canceled ContextErr.canceled.message
  | .deadlineExceeded => .status .deadlineExceeded ContextErr.deadlineExceeded.message

/-- `status.Code(err)`. -/
def Failure.code : Failure → Code
  | status code _ => code
  | context _ => .unknown
  | other _ => .unknown

/-- `status.Convert(err).Message()`. -/
def Failure.message : Failure → String
  | status _ message => message
  | context err => err.message
  | other message => message

/-! ## Limits -/

/-- `spec.mode.session` of a Run, as far as the queue reads it.  Durations are in
nanoseconds. -/
structure SessionMode where
  queueSize : Option Int := none
  operationTimeout : Option Int := none
  deriving DecidableEq

/-- A Run as the queue reads it. -/
structure SessionRun where
  uid : String
  session : Option SessionMode := some {}
  deriving DecidableEq

/-- What `limits` answers. -/
structure Limits where
  uid : String
  queueSize : Nat
  timeout : Int
  deriving DecidableEq

/-- The limits the queue manager was built with. -/
structure QueueConfig where
  maxQueueSize : Nat
  maxOperationTimeout : Int
  positive : 0 < maxQueueSize
  deriving DecidableEq

/-- `NewSessionOperationQueue`: non-positive limits take the defaults. -/
def newQueueConfig (maxQueueSize maxOperationTimeout : Int) : QueueConfig where
  maxQueueSize := if maxQueueSize ≤ 0 then 32 else maxQueueSize.toNat
  maxOperationTimeout :=
    if maxOperationTimeout ≤ 0 then 5 * 60 * 1000000000 else maxOperationTimeout
  positive := by
    split
    · decide
    · omega

/-- `limits`: a Run can only reduce the limits of the process. -/
def QueueConfig.limits (config : QueueConfig) (run : SessionRun) : Except String Limits :=
  match run.session with
  | none => .error "session Run is required"
  | some session =>
    if run.uid = "" then .error "session Run is required"
    else if session.queueSize.any (· ≤ 0) then
      .error "session queue size must be positive"
    else if session.operationTimeout.any (· ≤ 0) then
      .error "session operation timeout must be positive"
    else
      .ok {
        uid := run.uid
        queueSize := (session.queueSize.map fun limit =>
          min config.maxQueueSize limit.toNat).getD config.maxQueueSize
        timeout := (session.operationTimeout.map fun limit =>
          min config.maxOperationTimeout limit).getD config.maxOperationTimeout }

/-! ## Jobs and entries -/

/-- The result of a command operation, as far as the queue and the stream read it. -/
structure CommandResult where
  exitCode : Int := 0
  stdout : List UInt8 := []
  stderr : List UInt8 := []
  timedOut : Bool := false
  deriving DecidableEq

/-- `pb.SessionOperationResult`. -/
structure OperationResult where
  command : Option CommandResult := none
  deriving DecidableEq

/-- What an operation callback returns and the worker delivers. -/
structure Outcome where
  response : Option OperationResult := none
  err : Option Failure := none
  deriving DecidableEq

/-- Where a call of `ExecuteWithAdmission` stands after its job went into the
channel. -/
inductive Caller
  /-- `onAdmitted` runs. -/
  | admitting
  /-- `onAdmitted` has returned; `job.admitted` is not closed yet. -/
  | closing (err : Option Failure)
  /-- The caller waits for its result or for the end of its context. -/
  | waiting
  | returned (outcome : Outcome)
  deriving DecidableEq

/-- A job together with the call that made it. -/
structure Job where
  uid : String
  entry : Nat
  /-- `Err()` of the context the caller was given. -/
  callerErr : Option ContextErr := none
  /-- `Err()` of the context of the job. -/
  ctxErr : Option ContextErr := none
  admitted : Bool := false
  caller : Caller := .admitting
  result : Option Outcome := none
  deriving DecidableEq

/-- Where the worker of an entry stands in its loop. -/
inductive Worker
  | idle
  /-- It waits for the admission of the job or for the end of its context. -/
  | awaiting (job : Nat)
  /-- It has seen `job.admitted` closed. -/
  | admitted (job : Nat)
  /-- It has also seen the entry not closed. -/
  | unclosed (job : Nat)
  /-- It has also seen the context of the job not done. -/
  | starting (job : Nat)
  /-- The callback runs; `err` is `Err()` of its operation context. -/
  | running (job : Nat) (err : Option ContextErr)
  | delivering (job : Nat) (outcome : Outcome)
  | completing (job : Nat)
  | exited
  deriving DecidableEq

/-- `sessionOperationQueueEntry`.  The channel of jobs is closed together with the
entry. -/
structure Entry where
  uid : String
  capacity : Nat
  jobs : List Nat := []
  closed : Bool := false
  draining : Bool := false
  pending : Nat := 0
  worker : Worker := .idle
  /-- A call of `Close` is between releasing the mutex and `cancelActive`. -/
  cancelDue : Bool := false
  deriving DecidableEq

def Entry.accepting (entry : Entry) : Bool :=
  !entry.closed && !entry.draining

/-- A context ends once; the first cause stays. -/
def endErr (err : ContextErr) (current : Option ContextErr) : Option ContextErr :=
  current <|> some err

/-- The context of a running operation ends with that of its job. -/
def Worker.endContext (job : Nat) (err : ContextErr) : Worker → Worker
  | running held current =>
    if held = job then running held (endErr err current) else running held current
  | worker => worker

/-- `cancel()` of the operation context that runs, if there is one. -/
def Worker.cancelActive : Worker → Worker
  | running held current => running held (endErr .canceled current)
  | worker => worker

/-- The context of the job ends. -/
@[simps]
def Job.endContext (err : ContextErr) (job : Job) : Job :=
  { job with ctxErr := endErr err job.ctxErr }

/-- The call that made the job moves on. -/
@[simps]
def Job.proceed (caller : Caller) (job : Job) : Job :=
  { job with caller }

/-- `close(job.admitted)`. -/
@[simps]
def Job.letIn (job : Job) : Job :=
  { job with admitted := true }

/-- The worker sends the result. -/
@[simps]
def Job.deliver (outcome : Outcome) (job : Job) : Job :=
  { job with result := some outcome }

/-- The worker moves on. -/
@[simps]
def Entry.proceed (worker : Worker) (entry : Entry) : Entry :=
  { entry with worker }

/-- What happened to the queue of a session. -/
inductive Event
  /-- An entry was put into the map. -/
  | created (uid : String) (entry : Nat)
  /-- A job went into the channel of an entry. -/
  | accepted (uid : String) (entry job : Nat)
  /-- A call was turned away. -/
  | refused (uid : String)
  /-- `onAdmitted` of a job returned an error. -/
  | failed (uid : String) (entry job : Nat)
  /-- The callback of a job started. -/
  | started (uid : String) (entry job : Nat)
  /-- The worker sent the result of a job. -/
  | delivered (uid : String) (entry job : Nat)
  /-- `Drain` answered; `found` says whether it found an entry. -/
  | drained (uid : String) (found answer : Bool)
  | closed (uid : String)
  deriving DecidableEq

/-- The operation queues of one runtimed. -/
structure Queue where
  config : QueueConfig
  sessions : Table String Nat := ∅
  entries : List Entry := []
  jobs : List Job := []
  log : List Event := []
  deriving DecidableEq

namespace Queue

/-- Record what happened. -/
@[simps]
def note (event : Event) (queue : Queue) : Queue :=
  { queue with log := queue.log ++ [event] }

/-- Change one entry. -/
@[simps]
def onEntry (entry : Nat) (change : Entry → Entry) (queue : Queue) : Queue :=
  { queue with entries := queue.entries.modify entry change }

/-- Change one job. -/
@[simps]
def onJob (job : Nat) (change : Job → Job) (queue : Queue) : Queue :=
  { queue with jobs := queue.jobs.modify job change }

/-! ## Entering the queue -/

/-- Put a new entry with a fresh worker into the map. -/
@[simps!]
def create (limits : Limits) (queue : Queue) : Queue :=
  note (.created limits.uid queue.entries.length) { queue with
      sessions := queue.sessions.insert limits.uid queue.entries.length
      entries := queue.entries ++ [{ uid := limits.uid, capacity := limits.queueSize }] }

/-- `q.sessions[uid]`, created first when there is none. -/
def ensureEntry (limits : Limits) (queue : Queue) : Nat × Queue :=
  match queue.sessions.lookup limits.uid with
  | some entry => (entry, queue)
  | none => (queue.entries.length, queue.create limits)

def ensure (run : SessionRun) (queue : Queue) : Queue :=
  match queue.config.limits run with
  | .error _ => queue
  | .ok limits => (queue.ensureEntry limits).2

/-- Put a new job into the channel of an entry. -/
@[simps!]
def enqueue (uid : String) (entry : Nat) (queue : Queue) : Queue :=
  note (.accepted uid entry queue.jobs.length) (onEntry entry (fun found =>
        { found with
          jobs := found.jobs ++ [queue.jobs.length]
          pending := found.pending + 1 })
      { queue with jobs := queue.jobs ++ [{ uid := uid, entry := entry }] })

/-- The part of `ExecuteWithAdmission` under the mutex: it ends with a new job in the
channel, or with the error the call returns. -/
def execute (run : SessionRun) (queue : Queue) : Option (Except Failure Nat × Queue) :=
  match queue.config.limits run with
  | .error message =>
    some (.error (.status .invalidArgument message), queue.note (.refused run.uid))
  | .ok limits =>
    let (index, queue) := queue.ensureEntry limits
    queue.entries[index]?.map fun entry =>
      if !entry.accepting then
        (.error (.status .failedPrecondition "session is finalizing"),
          queue.note (.refused run.uid))
      else if entry.jobs.length < entry.capacity then
        (.ok queue.jobs.length, queue.enqueue run.uid index)
      else
        (.error (.status .resourceExhausted "session operation queue is full"),
          queue.note (.refused run.uid))

/-! ## The caller -/

/-- End the context of a job, and with it that of its running operation. -/
def endJob (job : Nat) (err : ContextErr) (queue : Queue) : Queue :=
  match queue.jobs[job]? with
  | none => queue
  | some found =>
    (queue.onJob job (Job.endContext err)).onEntry found.entry fun entry =>
      entry.proceed (entry.worker.endContext job err)

/-- `onAdmitted` returns; an error cancels the job before anything else happens. -/
def onAdmitted (job : Nat) (err : Option Failure) (queue : Queue) : Option Queue :=
  match queue.jobs[job]? with
  | some { caller := .admitting, uid := uid, entry := entry, .. } =>
    let queue :=
      if err.isSome then (queue.endJob job .canceled).note (.failed uid entry job) else queue
    some (queue.onJob job (Job.proceed (.closing err)))
  | _ => none

/-- The call returns; its deferred `cancel()` ends the context of the job. -/
def leave (job : Nat) (outcome : Outcome) (queue : Queue) : Queue :=
  (queue.onJob job (Job.proceed (.returned outcome))).endJob job .canceled

/-- `close(job.admitted)`, after which the call waits or returns the error. -/
def closeAdmitted (job : Nat) (queue : Queue) : Option Queue :=
  match queue.jobs[job]? with
  | some { caller := .closing none, .. } =>
    some ((queue.onJob job Job.letIn).onJob job (Job.proceed .waiting))
  | some { caller := .closing (some err), .. } =>
    some ((queue.onJob job Job.letIn).leave job { err := some err })
  | _ => none

/-- The context the caller was given ends. -/
def endContext (job : Nat) (err : ContextErr) (queue : Queue) : Option Queue :=
  match queue.jobs[job]? with
  | some { callerErr := none, .. } =>
    some ((queue.onJob job fun found => { found with callerErr := some err }).endJob job err)
  | _ => none

/-- The caller takes its result. -/
def receive (job : Nat) (queue : Queue) : Option Queue :=
  match queue.jobs[job]? with
  | some { caller := .waiting, result := some outcome, .. } => some (queue.leave job outcome)
  | _ => none

/-- The caller sees the end of its context. -/
def giveUp (job : Nat) (queue : Queue) : Option Queue :=
  match queue.jobs[job]? with
  | some { caller := .waiting, callerErr := some err, .. } =>
    some (queue.leave job { err := some (fromContextError err) })
  | _ => none

/-! ## The worker -/

/-- Move the worker of an entry. -/
def moveWorker (index : Nat) (worker : Worker) (queue : Queue) : Queue :=
  queue.onEntry index (Entry.proceed worker)

/-- The error of an operation that finds its entry closed. -/
def sessionClosed : Outcome where
  err := some (.status .canceled "session closed")

/-- One step of the worker's loop up to the next point another goroutine can see.  When
both channels of the first `select` are ready, `seesDone` says which one it takes. -/
def work (index : Nat) (seesDone : Bool) (queue : Queue) : Option Queue :=
  match queue.entries[index]? with
  | none => none
  | some entry =>
    match entry.worker with
    | .idle =>
      match entry.jobs with
      | [] => if entry.closed then some (queue.moveWorker index .exited) else none
      | job :: rest =>
        some (queue.onEntry index fun entry =>
          { entry with jobs := rest, worker := .awaiting job })
    | .awaiting job =>
      match queue.jobs[job]? with
      | none => none
      | some found =>
        if seesDone then
          found.ctxErr.map fun err =>
            queue.moveWorker index (.delivering job { err := some (fromContextError err) })
        else if found.admitted then some (queue.moveWorker index (.admitted job))
        else none
    | .admitted job =>
      some (queue.moveWorker index
        (if entry.closed then .delivering job sessionClosed else .unclosed job))
    | .unclosed job =>
      match queue.jobs[job]? with
      | none => none
      | some found =>
        match found.ctxErr with
        | some err =>
          some (queue.moveWorker index (.delivering job { err := some (fromContextError err) }))
        | none => some (queue.moveWorker index (.starting job))
    | .starting job =>
      match queue.jobs[job]? with
      | none => none
      | some found =>
        if entry.closed then some (queue.moveWorker index (.delivering job sessionClosed))
        else
          some ((queue.moveWorker index (.running job found.ctxErr)).note
            (.started entry.uid index job))
    | .running _ _ => none
    | .delivering job outcome =>
      match queue.jobs[job]? with
      | none => none
      | some _ =>
        some (((queue.onJob job (Job.deliver outcome)).moveWorker index
          (.completing job)).note (.delivered entry.uid index job))
    | .completing _ =>
      some (queue.onEntry index fun entry =>
        { entry with worker := .idle, pending := entry.pending - 1 })
    | .exited => none

/-- What the worker delivers for a callback that returned: the end of the operation
context replaces a missing error and the context's own, unless the command reports that
it timed out. -/
def operationOutcome (operationErr : Option ContextErr) (returned : Outcome) : Outcome :=
  match operationErr with
  | none => returned
  | some err =>
    if (returned.err = none ∨ returned.err = some (.context err)) ∧
        (returned.response.bind (·.command)).all (!·.timedOut) then
      { returned with err := some (fromContextError err) }
    else returned

/-- The callback returns. -/
def callbackReturns (index : Nat) (returned : Outcome) (queue : Queue) : Option Queue :=
  match queue.entries[index]? with
  | some { worker := .running job err, .. } =>
    some (queue.moveWorker index (.delivering job (operationOutcome err returned)))
  | _ => none

/-- The timeout of the running operation elapses. -/
def expire (index : Nat) (queue : Queue) : Option Queue :=
  match queue.entries[index]? with
  | some { worker := .running job none, .. } =>
    some (queue.moveWorker index (.running job (some .deadlineExceeded)))
  | _ => none

/-! ## Drain and Close -/

/-- `Drain`.  A missing entry counts as drained. -/
def drain (uid : String) (queue : Queue) : Bool × Queue :=
  if uid = "" then (true, queue)
  else
    match queue.sessions.lookup uid with
    | none => (true, queue.note (.drained uid false true))
    | some index =>
      match queue.entries[index]? with
      | none => (true, queue)
      | some entry =>
        (entry.pending == 0, (queue.onEntry index fun entry =>
          { entry with draining := true }).note (.drained uid true (entry.pending == 0)))

/-- The part of `Close` under the mutex. -/
def close (uid : String) (queue : Queue) : Queue :=
  if uid = "" then queue
  else
    match queue.sessions.lookup uid with
    | none => queue.note (.closed uid)
    | some index =>
      ({ queue with sessions := queue.sessions.erase uid }.onEntry index fun entry =>
        { entry with closed := true, cancelDue := true }).note (.closed uid)

/-- The rest of `Close`. -/
def cancelActive (index : Nat) (queue : Queue) : Option Queue :=
  match queue.entries[index]? with
  | some { cancelDue := true, .. } =>
    some (queue.onEntry index fun entry =>
      { entry with cancelDue := false, worker := entry.worker.cancelActive })
  | _ => none

end Queue

/-! ## The system -/

/-- What can happen next to the queues of a runtimed. -/
inductive Action
  | ensure (run : SessionRun)
  | execute (run : SessionRun)
  | onAdmitted (job : Nat) (err : Option Failure)
  | closeAdmitted (job : Nat)
  | endContext (job : Nat) (err : ContextErr)
  | receive (job : Nat)
  | giveUp (job : Nat)
  | work (entry : Nat) (seesDone : Bool)
  | callbackReturns (entry : Nat) (returned : Outcome)
  | expire (entry : Nat)
  | drain (uid : String)
  | close (uid : String)
  | cancelActive (entry : Nat)
  deriving DecidableEq

/-- One action. -/
def Queue.step : Step Action Queue
  | .ensure run, queue => some (queue.ensure run)
  | .execute run, queue => (queue.execute run).map Prod.snd
  | .onAdmitted job err, queue => queue.onAdmitted job err
  | .closeAdmitted job, queue => queue.closeAdmitted job
  | .endContext job err, queue => queue.endContext job err
  | .receive job, queue => queue.receive job
  | .giveUp job, queue => queue.giveUp job
  | .work entry seesDone, queue => queue.work entry seesDone
  | .callbackReturns entry returned, queue => queue.callbackReturns entry returned
  | .expire entry, queue => queue.expire entry
  | .drain uid, queue => some (queue.drain uid).2
  | .close uid, queue => some (queue.close uid)
  | .cancelActive entry, queue => queue.cancelActive entry

/-- A runtimed that has just started. -/
def newQueue (config : QueueConfig) : Queue where
  config

end Kruntimes.Session
