import Kruntimes.Api.Retry

/-!
# The local bookkeeping of runtimed

`activeRun` holds what runtimed remembers about a claimed Run, and `activeRuns` says
which Runs it has claimed.  The model follows one Run: its `activeRun` objects, which
of them is the entry in `activeRuns`, and how many entries other Runs have.  Objects
are referred to by handles, since the source compares them as pointers.  File paths
and log cursors are left out.
-/

namespace Kruntimes.Runtimed

open Api

/-- `executionStartFailure`, `sessionRegistrationFailure` and
`functionRegistrationFailure`. -/
structure Failure where
  reason : String
  message : String
  deriving DecidableEq

structure FunctionRegistration where
  runUid : String
  registrationId : String
  deriving DecidableEq

structure FunctionRegistrationState where
  registration : Option FunctionRegistration
  failure : Option Failure
  deriving DecidableEq

structure ActiveRun where
  run : Run
  deadline : Option Time := none
  started : Bool := false
  prepared : Bool := false
  executionStart : Option Failure := none
  executionStarting : Bool := false
  sessionRegistration : Option Failure := none
  sessionRegistering : Bool := false
  sessionClosed : Bool := false
  functionRegistration : Option FunctionRegistrationState := none
  functionRegistering : Bool := false
  functionClosed : Bool := false
  deriving DecidableEq

/-- `newActiveRunWithWorkspace`: the deadline follows from the recorded start. -/
def newActiveRun (run : Run) : ActiveRun :=
  { run
    deadline :=
      match run.spec.timeout, run.status.startTime with
      | some timeout, some start => some (start + timeout)
      | _, _ => none }

def ActiveRun.functionRegistrationRef (object : ActiveRun) : Option FunctionRegistration :=
  object.functionRegistration.bind FunctionRegistrationState.registration

/-- Whether the deadline has come: `!now.Before(deadline)`. -/
def ActiveRun.isDue (object : ActiveRun) (time : Time) : Bool :=
  object.deadline.any fun deadline => decide (deadline ≤ time)

/-- A goroutine that was started and has not run yet.  An execution start remembers
the attempt of the Run copy for which it was requested.  The manager's own goroutine drains
the Runs when the process is shut down. -/
inductive Goroutine
  | startExecution (handle : Nat) (attempt : Int)
  | registerSession (handle : Nat)
  | registerFunction (handle : Nat)
  | drain
  deriving DecidableEq

/-- The memory of one runtimed process, as far as it concerns the Run. -/
structure Memory where
  objects : List ActiveRun := []
  active : Option Nat := none
  others : Nat := 0
  otherSession : Bool := false
  spawned : List Goroutine := []
  deriving DecidableEq

namespace Memory

/-- The object of a handle; `run` is the Run it belongs to. -/
def object (memory : Memory) (handle : Nat) (run : Run) : ActiveRun :=
  memory.objects.getD handle (newActiveRun run)

/-- Change one object. -/
def modify (memory : Memory) (handle : Nat) (change : ActiveRun → ActiveRun) : Memory :=
  { memory with objects := memory.objects.modify handle change }

/-- One of the started goroutines begins to run. -/
def withoutSpawned (memory : Memory) (index : Nat) : Memory :=
  { memory with spawned := memory.spawned.eraseIdx index }

/-- The entry with its own copy of the Run. -/
def entry (memory : Memory) : Option (Nat × Run) :=
  memory.active.bind fun handle => (memory.objects[handle]?).map fun object => (handle, object.run)

/-- `activeRunCountLocked`. -/
def activeRunCount (memory : Memory) : Nat :=
  memory.others + if memory.active.isSome then 1 else 0

end Memory

/-- A change reaches the object of its handle only. -/
theorem object_modify (memory : Memory) (handle other : Nat) (run : Run)
    (change : ActiveRun → ActiveRun) :
    (memory.modify handle change).object other run = memory.object other run ∨ handle = other ∧
        (memory.modify handle change).object other run = change (memory.object other run) := by
  simp only [Memory.object, Memory.modify, List.getD_eq_getElem?_getD, List.getElem?_modify]
  cases memory.objects[other]? with
  | none => exact .inl rfl
  | some =>
    by_cases same : handle = other
    · exact .inr ⟨same, by simp [same]⟩
    · exact .inl (by simp [same])

/-- The edits of the memory: the methods of `activeRun` that change it, the field
assignments of the controller, and the changes of `activeRuns`. -/
inductive Edit
  | allocate (object : ActiveRun)
  | claim (handle : Nat)
  | release
  | assign (handle : Nat) (run : Run)
  | setDeadline (handle : Nat) (deadline : Time)
  | setStarted (handle : Nat) (started : Bool)
  | setPrepared (handle : Nat)
  | beginExecutionStart (handle : Nat) (attempt : Int)
  | finishExecutionStart (handle : Nat) (failure : Option Failure)
  | clearExecutionStart (handle : Nat)
  | beginSessionRegistration (handle : Nat)
  | finishSessionRegistration (handle : Nat) (failure : Option Failure)
  | clearSessionRegistration (handle : Nat)
  | setSessionClosed (handle : Nat)
  | beginFunctionRegistration (handle : Nat)
  | finishFunctionRegistration (handle : Nat) (registration : Option FunctionRegistration)
      (failure : Option Failure)
  | clearFunctionRegistration (handle : Nat)
  | resetFunctionRegistration (handle : Nat)
  | setFunctionClosed (handle : Nat)
  deriving DecidableEq

/-- Carry out an edit.  The `begin` edits also start their goroutine. -/
def Memory.edit : Edit → Memory → Memory
  | .allocate object, memory => { memory with objects := memory.objects ++ [object] }
  | .claim handle, memory => { memory with active := some handle }
  | .release, memory => { memory with active := none }
  | .assign handle run, memory => memory.modify handle fun object => { object with run }
  | .setDeadline handle deadline, memory =>
    memory.modify handle fun object => { object with deadline := some deadline }
  | .setStarted handle started, memory => memory.modify handle fun object => { object with started }
  | .setPrepared handle, memory =>
    memory.modify handle fun object => { object with prepared := true }
  | .beginExecutionStart handle attempt, memory =>
    { memory.modify handle fun object =>
        { object with executionStarting := true, executionStart := none, started := false } with
      spawned := memory.spawned ++ [.startExecution handle attempt] }
  | .finishExecutionStart handle failure, memory =>
    memory.modify handle fun object =>
      { object with executionStarting := false, executionStart := failure }
  | .clearExecutionStart handle, memory =>
    memory.modify handle fun object => { object with executionStart := none }
  | .beginSessionRegistration handle, memory =>
    { memory.modify handle fun object =>
        { object with sessionRegistering := true, sessionRegistration := none } with
      spawned := memory.spawned ++ [.registerSession handle] }
  | .finishSessionRegistration handle failure, memory =>
    memory.modify handle fun object =>
      { object with sessionRegistering := false, sessionRegistration := failure }
  | .clearSessionRegistration handle, memory =>
    memory.modify handle fun object => { object with sessionRegistration := none }
  | .setSessionClosed handle, memory =>
    memory.modify handle fun object => { object with sessionClosed := true }
  | .beginFunctionRegistration handle, memory =>
    { memory.modify handle fun object =>
        { object with functionRegistering := true, functionRegistration := none } with
      spawned := memory.spawned ++ [.registerFunction handle] }
  | .finishFunctionRegistration handle registration failure, memory =>
    memory.modify handle fun object =>
      { object with
        functionRegistering := false
        functionRegistration := some { registration, failure } }
  | .clearFunctionRegistration handle, memory =>
    memory.modify handle fun object =>
      { object with
        functionRegistration :=
          object.functionRegistration.map fun state => { state with failure := none } }
  | .resetFunctionRegistration handle, memory =>
    memory.modify handle fun object =>
      { object with
        functionRegistering := false, functionRegistration := none, functionClosed := false }
  | .setFunctionClosed handle, memory =>
    memory.modify handle fun object => { object with functionClosed := true }

/-- A handle that is not in use stands for a fresh object. -/
theorem object_allocate (memory : Memory) (handle : Nat) (run : Run) :
    (memory.edit (.allocate (newActiveRun run))).object handle run = memory.object handle run := by
  simp only [Memory.object, Memory.edit, List.getD_eq_getElem?_getD, List.getElem?_append]
  split
  · rfl
  rename_i unused
  rw [List.getElem?_eq_none (not_lt.mp unused), List.getElem?_singleton]
  split <;> rfl

/-- Only its own edit starts an execution. -/
theorem mem_spawned_edit {edit : Edit} {memory : Memory} {handle : Nat} {attempt : Int}
    (mem : .startExecution handle attempt ∈ (Memory.edit edit memory).spawned) :
    .startExecution handle attempt ∈ memory.spawned ∨
      edit = .beginExecutionStart handle attempt := by
  cases edit with
  | beginExecutionStart => simpa [Memory.edit, eq_comm, and_comm] using mem
  | beginSessionRegistration | beginFunctionRegistration => simpa [Memory.edit] using mem
  | _ => exact .inl mem

end Kruntimes.Runtimed
