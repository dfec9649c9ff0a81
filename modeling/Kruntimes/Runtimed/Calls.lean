import Kruntimes.Runtimed.ActiveRun
import Kruntimes.Transition.Program

/-!
# The calls of runtimed

The controller talks to the API server, to its local Runtime Server, to the file
system and the artifact store, and reads the clock and the memory it shares with its
goroutines.  Each of these is a call of an interactive program; other programs of the
cluster may run between any two of them.  Metrics, log lines, Kubernetes events and
the bookkeeping of the lifecycle event generator have no influence on a Run and are
left out.
-/

namespace Kruntimes.Runtimed

open Api Transition

/-! ## Answers of the Runtime Server -/

inductive ExecutionState
  | unspecified
  | pending
  | running
  | succeeded
  | failed
  deriving DecidableEq

/-- The name of an execution state in messages. -/
def ExecutionState.name : ExecutionState → String
  | unspecified => "EXECUTION_STATE_UNSPECIFIED"
  | pending => "EXECUTION_STATE_PENDING"
  | running => "EXECUTION_STATE_RUNNING"
  | succeeded => "EXECUTION_STATE_SUCCEEDED"
  | failed => "EXECUTION_STATE_FAILED"

/-- `pb.StatusResponse`, as far as the controller uses it. -/
structure StatusResponse where
  state : ExecutionState
  exitCode : Int := 0
  errorMessage : String := ""
  stderr : String := ""
  deriving DecidableEq

inductive SessionState
  | unspecified
  | registering
  | ready
  | closing
  | closed
  | failed
  deriving DecidableEq

/-- The name of a session state in messages. -/
def SessionState.name : SessionState → String
  | unspecified => "SESSION_STATE_UNSPECIFIED"
  | registering => "SESSION_STATE_REGISTERING"
  | ready => "SESSION_STATE_READY"
  | closing => "SESSION_STATE_CLOSING"
  | closed => "SESSION_STATE_CLOSED"
  | failed => "SESSION_STATE_FAILED"

structure SessionIdentity where
  runUid : String
  assignedPodUid : String
  deriving DecidableEq

/-- `pb.FunctionRegistrationState`. -/
inductive FunctionState
  | unspecified
  | registering
  | ready
  | draining
  | failed
  deriving DecidableEq

/-- The name of a function registration state in messages. -/
def FunctionState.name : FunctionState → String
  | unspecified => "FUNCTION_REGISTRATION_STATE_UNSPECIFIED"
  | registering => "FUNCTION_REGISTRATION_STATE_REGISTERING"
  | ready => "FUNCTION_REGISTRATION_STATE_READY"
  | draining => "FUNCTION_REGISTRATION_STATE_DRAINING"
  | failed => "FUNCTION_REGISTRATION_STATE_FAILED"

structure FunctionStatusResponse where
  registration : Option FunctionRegistration
  state : FunctionState
  lastActivityUnixNano : Int := 0
  fatalError : String := ""
  deriving DecidableEq

/-- The answer to a status request: the code `NotFound`, another error, or a
response. -/
inductive Polled (α : Type)
  | notFound
  | unavailable (message : String)
  | response (response : α)
  deriving DecidableEq

/-- Why the outputs file was refused. -/
inductive OutputsError
  | tooLarge (message : String)
  | invalid (message : String)
  deriving DecidableEq

/-- Why artifacts were not stored: `artifactInvalidError`, or an error worth a
retry. -/
inductive ArtifactError
  | invalid (message : String)
  | transient (message : String)
  deriving DecidableEq

/-! ## Calls -/

/-- The calls that neither hand a Run object to the program nor store one. -/
inductive Query
  /-- `time.Now`. -/
  | clock
  /-- A look at `activeRuns` and the `activeRun` objects. -/
  | memory
  /-- The arguments with which a goroutine was started. -/
  | arguments
  | health
  /-- `List` of the executions: whether the Run's is among them. -/
  | listExecutions
  | status
  | cancel
  /-- `Forget`, repeated until it is answered or its time is over. -/
  | forget
  /-- The part of `startExecution` in front of `Execute`. -/
  | prepareExecution
  | prepareSource
  /-- `prepareArtifactStaging` and `stageArtifactInputs` of a registration. -/
  | stageInputs
  | cleanupRunFiles
  | readOutputs
  /-- The names in the artifact staging directory. -/
  | stagedArtifacts
  /-- The upload loop of `collectArtifacts` with its roll-back. -/
  | storeArtifacts (names : List String)
  /-- `GetSessionStatus`. -/
  | sessionStatus (identity : SessionIdentity)
  | registerSession (identity : SessionIdentity)
  | closeSession (identity : SessionIdentity)
  /-- `SessionOperations.Ensure`. -/
  | ensureOperations
  /-- `SessionOperations.Drain`. -/
  | drainOperations
  | leaseDeadline (timeout : Duration)
  /-- `RegisterFunction` for an attempt. -/
  | registerFunction (attempt : Int)
  | functionStatus (registration : FunctionRegistration)
  | unregisterFunction (registration : FunctionRegistration)
  deriving DecidableEq

/-- The answers to the queries.  An `Option String` is a Go error. -/
def Query.Answer : Query → Type
  | .clock => Time
  | .memory => Memory
  | .arguments => Goroutine
  | .health | .drainOperations => Bool
  | .listExecutions => Option Bool
  | .status => Polled StatusResponse
  | .cancel => Unit
  | .forget | .prepareExecution | .prepareSource | .stageInputs
  | .cleanupRunFiles | .closeSession _ | .ensureOperations
  | .unregisterFunction _ => Option String
  | .readOutputs => Except OutputsError Labels
  | .stagedArtifacts => Except String (List String)
  | .storeArtifacts _ => Except ArtifactError (List ArtifactRef)
  | .sessionStatus _ => Polled SessionState
  | .registerSession _ => Except String SessionState
  | .leaseDeadline _ => Option Time
  | .registerFunction _ => Except String (Option FunctionRegistration)
  | .functionStatus _ => Polled FunctionStatusResponse

/-- The calls.  A status update carries the edits that directly follow its success. -/
inductive Call
  /-- `Get` of the Run from the informer cache. -/
  | get
  /-- `List` of the Runs through the uncached reader, in search of those assigned to a
  Pod: the Run, if it is listed. -/
  | listRuns (podName : String)
  /-- `Status().Update`. -/
  | updateStatus (run : Run) (thereafter : List Edit)
  /-- `Update` of the metadata. -/
  | update (run : Run)
  /-- `Update` of the metadata whose error is only logged. -/
  | updateLogged (run : Run)
  /-- `Execute`, for the attempt for which the start was requested. -/
  | execute (attempt : Int)
  /-- A query. -/
  | query (query : Query)
  deriving DecidableEq

/-- The answers. -/
def Answer : Call → Type
  | .get | .listRuns _ => Option Run
  | .updateStatus _ _ | .update _ => Except String Run
  | .updateLogged _ | .execute _ => Option String
  | .query query => query.Answer

/-- The interface of runtimed. -/
abbrev runtimed : Interface := ⟨Call, Answer, Edit⟩

/-- The programs of runtimed. -/
abbrev Process := Program runtimed

/-! ## Configuration and results -/

/-- `Controller`, the configuration of one runtimed.  `durationString` is
`time.Duration.String`. -/
structure Controller where
  platform : Platform
  durationString : Duration → String
  podName : String
  runtimeName : String := ""
  runtimeNamespace : String := ""
  workers : Int := 1
  artifactStore : Bool := false
  artifactStoreSpec : Bool := false

def Controller.capacity (controller : Controller) : Int :=
  if controller.workers ≤ 0 then 1 else controller.workers

/-- `ctrl.Result` and the error that a reconcile returns. -/
structure Result where
  requeueAfter : Option Duration := none
  error : Option String := none
  deriving DecidableEq

namespace Result

/-- `ctrl.Result{}, nil`. -/
def empty : Result := {}

/-- `ctrl.Result{RequeueAfter: delay}, nil`. -/
def requeue (delay : Duration) : Result := { requeueAfter := some delay }

/-- `ctrl.Result{}, err`. -/
def failed (message : String) : Result := { error := some message }

/-- The reconcile comes back by itself: it asked for a requeue or returned an error,
which the workqueue retries. -/
def returns (result : Result) : Bool :=
  result.requeueAfter.isSome || result.error.isSome

end Result

def millisecond : Duration := 1000000

def defaultRelistInterval : Duration := 500 * millisecond

def activeRunRequeueAfter (object : ActiveRun) (now : Time) : Duration :=
  match object.deadline with
  | none => defaultRelistInterval
  | some deadline =>
    if deadline - now ≤ 0 then 1
    else if deadline - now < defaultRelistInterval then deadline - now
    else defaultRelistInterval

/-! ## Common commands -/

/-- `Get`. -/
def getRun : Process (Option Run) := @Program.ask runtimed .get

/-- The Run in the answer to `List`. -/
def listRuns (podName : String) : Process (Option Run) :=
  @Program.ask runtimed (.listRuns podName)

/-- `Status().Update`, with the edits that directly follow its success. -/
def updateStatus (run : Run) (thereafter : List Edit := []) : Process (Except String Run) :=
  @Program.ask runtimed (.updateStatus run thereafter)

/-- `Update`. -/
def updateMetadata (run : Run) : Process (Except String Run) :=
  @Program.ask runtimed (.update run)

/-- `Update`, with the error logged. -/
def updateLogged (run : Run) : Process (Option String) :=
  @Program.ask runtimed (.updateLogged run)

def execute (attempt : Int) : Process (Option String) :=
  @Program.ask runtimed (.execute attempt)

/-- Make a query. -/
def ask (query : Query) : Process query.Answer := @Program.ask runtimed (.query query)

/-- Edit the memory. -/
def amend (edit : Edit) : Process Unit := @Program.amend runtimed edit

/-- Read the clock. -/
def now : Process Time := ask .clock

/-- Read the memory. -/
def memory : Process Memory := ask .memory

/-- Read the object of a handle. -/
def activeRun (handle : Nat) (run : Run) : Process ActiveRun := do
  let seen ← memory
  pure (seen.object handle run)

/-- `newActiveRun` and `buildActiveRun`: a fresh object and its handle. -/
def buildActiveRun (run : Run) : Process Nat := do
  let seen ← memory
  amend (.allocate (newActiveRun run))
  pure seen.objects.length

/-- The requeue that keeps an active Run observed. -/
def keepObserving (handle : Nat) (run : Run) : Process Result := do
  let object ← activeRun handle run
  let time ← now
  pure (.requeue (activeRunRequeueAfter object time))

def tryClaimActiveRun (controller : Controller) (handle : Nat) (run : Run) :
    Process Bool := do
  let seen ← memory
  if run.uid = "" ∨ seen.active.isSome = true then pure false
  else
    let isSession := run.spec.mode.session.isSome
    if (isSession = true ∧ 0 < seen.activeRunCount) ∨
        (isSession = false ∧ seen.otherSession = true) ∨
        controller.capacity ≤ seen.activeRunCount then pure false
    else
      amend (.claim handle)
      pure true

def unclaimActiveRun (handle : Nat) : Process Unit := do
  let seen ← memory
  if seen.active = some handle then amend .release else pure ()

end Kruntimes.Runtimed
