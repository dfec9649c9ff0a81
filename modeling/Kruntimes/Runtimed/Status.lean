import Kruntimes.Runtimed.Calls

/-!
# What runtimed writes into a status

The status changes that the controller makes between reading a Run and updating it,
each as a function of the Run, together with the texts it records.
-/

namespace Kruntimes.Runtimed

open Api

/-! ## Messages -/

def maxStatusMessageBytes : Nat := 1024

/-- The length of a text in UTF-8. -/
def byteLength (text : List Char) : Nat :=
  (text.map Char.utf8Size).sum

/-- The longest start of a text that fits into a number of bytes. -/
def takeBytes : Nat → List Char → List Char
  | _, [] => []
  | bytes, char :: rest =>
    if char.utf8Size ≤ bytes then char :: takeBytes (bytes - char.utf8Size) rest else []

def truncateUTF8Prefix (value : List Char) (maxBytes : Nat) : List Char :=
  if byteLength value ≤ maxBytes then value else takeBytes maxBytes value

def truncateUTF8Tail (value : List Char) (maxBytes : Nat) : List Char :=
  if byteLength value ≤ maxBytes then value else (takeBytes maxBytes value.reverse).reverse

def boundedStatusMessage (message : String) : String :=
  if byteLength message.toList ≤ maxStatusMessageBytes then message
  else String.ofList (truncateUTF8Prefix message.toList (maxStatusMessageBytes - 3)) ++ "..."

def isSpace (char : Char) : Bool :=
  let code := char.toNat
  (9 ≤ code && code ≤ 13) || code == 32 || code == 0x85 || code == 0xa0 || code == 0x1680 ||
    (0x2000 ≤ code && code ≤ 0x200a) || code == 0x2028 || code == 0x2029 ||
    code == 0x202f || code == 0x205f || code == 0x3000

def trimSpace (text : List Char) : List Char :=
  ((text.dropWhile isSpace).reverse.dropWhile isSpace).reverse

def boundedStatusMessageTail (start message : String) : String :=
  let text := trimSpace message.toList
  if byteLength start.toList + byteLength text ≤ maxStatusMessageBytes then
    start ++ String.ofList text
  else
    start ++ "... " ++
      String.ofList (truncateUTF8Tail text (maxStatusMessageBytes - byteLength start.toList - 4))

def summarizeRuntimeFailure (response : StatusResponse) : String :=
  if response.errorMessage ≠ "" then boundedStatusMessage response.errorMessage
  else if response.stderr ≠ "" then boundedStatusMessageTail "runtime stderr: " response.stderr
  else "runtime execution failed"

/-- The error messages that stand for a failed source preparation. -/
def isPrepareSourceMessage (message : String) : Bool :=
  message == "no args or script provided" ||
    ["mkdir:", "git clone:", "git checkout:", "write inline:"].any fun start =>
      start.toList.isPrefixOf message.toList

/-- `classifyFailureReason` of a response. -/
def classifyFailureReason (response : StatusResponse) : String :=
  if response.errorMessage = "timeout" ∧ response.exitCode = -1 then reasonTimeout
  else if isPrepareSourceMessage response.errorMessage then reasonPrepareSource
  else reasonRuntimeError

def terminalPhaseForFailure (reason : String) : RunPhase :=
  if reason = reasonTimeout then .timeout else .failed

/-! ## Status changes -/

/-- `SetStatusCondition` on a Run. -/
def setCondition (run : Run) (condition : Condition) : Run :=
  { run with
    status := { run.status with conditions := setStatusCondition run.status.conditions condition } }

/-- The claim of `reconcileScheduled`. -/
def claimStatus (run : Run) (startedAt : Time) : Run :=
  let claimed : Run :=
    { run with status := { run.status with phase := .running, startTime := some startedAt } }
  let running := setCondition claimed
    { type := conditionRunning, status := .conditionTrue, reason := "Claimed"
      message := "claimed by runtimed", lastTransitionTime := startedAt }
  if run.spec.mode.task then
    setCondition running
      { type := conditionRuntimeAccepted, status := .conditionFalse, reason := "Dispatching"
        message := "waiting for Runtime Server to accept execution"
        lastTransitionTime := startedAt }
  else running

/-- `markRuntimeAccepted`: the changed Run, unless the condition is already true. -/
def markRuntimeAccepted (run : Run) (time : Time) : Option Run :=
  if (findStatusCondition run.status.conditions conditionRuntimeAccepted).any
      (fun condition => condition.status == .conditionTrue) then none
  else
    some (setCondition run
      { type := conditionRuntimeAccepted, status := .conditionTrue, reason := "Observed"
        message := "Runtime Server accepted execution", lastTransitionTime := time })

/-- The end of the backoff in `reconcileRetryBackoff`. -/
def retryingStatus (run : Run) (time : Time) : Run :=
  let running := setCondition run
    { type := conditionRunning, status := .conditionTrue, reason := "Retrying"
      message := "Retry after failure", lastTransitionTime := time }
  if run.spec.mode.task then
    setCondition running
      { type := conditionRuntimeAccepted, status := .conditionFalse, reason := "Retrying"
        message := "waiting for Runtime Server to accept retry", lastTransitionTime := time }
  else running

/-- An attempt that was never recorded is recorded as the first. -/
def recordAttempt (run : Run) : Run :=
  { run with
    status :=
      { run.status with
        attempt := if run.status.attempt = 0 then 1 else run.status.attempt } }

/-- The status of `applySuccess`. -/
def successStatus (run : Run) (outputs : Labels) (artifactRefs : List ArtifactRef)
    (time : Time) : Run :=
  let recorded := recordAttempt run
  let finished : Run :=
    { recorded with
      status :=
        { recorded.status with
          phase := .succeeded, message := "execution completed", completionTime := some time
          outputs, artifactRefs } }
  setCondition (setCondition finished
      { type := conditionRunning, status := .conditionFalse, reason := "Completed"
        message := "", lastTransitionTime := time })
    { type := conditionCompleted, status := .conditionTrue, reason := "RunCompleted"
      message := "Completed successfully", lastTransitionTime := time }

/-- The status of `scheduleRetry`. -/
def retryStatus (run : Run) (reason message : String) (time : Time) : Run :=
  setCondition { run with
      status := { run.status with attempt := currentAttempt run.status.attempt + 1 } }
    { type := conditionRunning, status := .conditionFalse, reason, message
      lastTransitionTime := time }

/-- The status of `applyTerminalWithOutput`. -/
def terminalStatus (run : Run) (phase : RunPhase) (reason message : String) (time : Time) :
    Run :=
  setTerminal (recordAttempt run) phase reason (boundedStatusMessage message) time

/-- The status of `applySessionReady`. -/
def sessionReadyStatus (run : Run) (time : Time) : Run :=
  setCondition
    { run with status := { run.status with phase := .ready, message := "session registered" } }
    { type := conditionReady, status := .conditionTrue, reason := "SessionRegistered"
      message := "session is ready for Console operations", lastTransitionTime := time }

/-- The status of `beginSessionFinalization`. -/
def finalizingStatus (run : Run) (time : Time) : Run :=
  setCondition { run with
      status :=
        { run.status with phase := .finalizing, message := "session finalization requested" } }
    { type := conditionReady, status := .conditionFalse, reason := "Finalizing"
      message := "session is no longer accepting new operations", lastTransitionTime := time }

/-- The status of `applyFunctionReady`. -/
def functionReadyStatus (run : Run) (time : Time) : Run :=
  setCondition
    { run with status := { run.status with phase := .ready, message := "function registered" } }
    { type := conditionReady, status := .conditionTrue, reason := "FunctionRegistered"
      message := "function is ready for invocation", lastTransitionTime := time }

/-- The store configuration that `ensureArtifactFinalizer` records. -/
def artifactStoreStatus (run : Run) : Run :=
  { run with status := { run.status with artifactStore := true } }

/-- The `Running` condition of a Run. -/
def runningCondition (run : Run) : Option Condition :=
  findStatusCondition run.status.conditions conditionRunning

/-- The Run waits for the end of a retry backoff. -/
def inBackoff (run : Run) : Bool :=
  (runningCondition run).any fun condition => condition.status == .conditionFalse

def sessionIdentityForRun (run : Run) : Except String SessionIdentity :=
  if run.uid = "" then .error "session identity requires a Run UID"
  else if run.status.assignedPodUID = "" then
    .error "session identity requires an assigned Pod UID"
  else if run.spec.mode.session.isNone then .error "session identity requires session mode"
  else .ok { runUid := run.uid, assignedPodUid := run.status.assignedPodUID }

def maxArtifactRefs : Nat := 32

end Kruntimes.Runtimed
