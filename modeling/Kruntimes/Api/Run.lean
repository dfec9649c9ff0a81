import Kruntimes.Api.Core

/-!
# The Run resource

The part of `v1alpha1.Run` that the scheduler, the stale-Run reaper and runtimed
read or write, and the methods of `RunSpec`.  Source, environment, argument and
endpoint fields only travel into RPC requests and are left out.
-/

namespace Kruntimes.Api

open Data

variable {phase : RunPhase} {requests : ResourceList}

/-- `RunPhase`.  `unset` is the empty string of an object whose default has not
been applied. -/
inductive RunPhase
  | unset
  | pending
  | scheduled
  | running
  | ready
  | finalizing
  | succeeded
  | failed
  | timeout
  | cancelled
  deriving DecidableEq

namespace RunPhase

/-- The phases after which a Run never changes phase again. -/
def isTerminal : RunPhase → Bool
  | succeeded | failed | timeout | cancelled => true
  | _ => false

/-- `isPendingRun` of the scheduler: an empty phase counts as Pending. -/
def isPending : RunPhase → Bool
  | unset | pending => true
  | _ => false

/-- The phases of a Run that has been assigned and has not ended. -/
def isActive : RunPhase → Bool
  | scheduled | running | ready | finalizing => true
  | _ => false

/-- `consumesRuntimeCapacity` of the scheduler. -/
def consumesRuntimeCapacity : RunPhase → Bool
  | scheduled | running | ready => true
  | _ => false

theorem isActive_iff (phase : RunPhase) :
    phase.isActive = true ↔ phase.isPending = false ∧ phase.isTerminal = false := by
  cases phase <;> decide

/-- Finalizing is the only active phase that holds no capacity for the
scheduler. -/
theorem consumesRuntimeCapacity_of_isActive (active : phase.isActive = true)
    (notFinalizing : phase ≠ finalizing) :
    phase.consumesRuntimeCapacity = true := by
  cases phase <;> simp_all [consumesRuntimeCapacity, isActive]

theorem isPending_of_isActive (active : phase.isActive = true) : phase.isPending = false :=
  ((isActive_iff phase).mp active).1

theorem isPending_of_isTerminal (terminal : phase.isTerminal = true) :
    phase.isPending = false := by
  cases phase <;> simp_all [isTerminal, isPending]

theorem isActive_of_isTerminal (terminal : phase.isTerminal = true) :
    phase.isActive = false := by
  cases phase <;> simp_all [isTerminal, isActive]

theorem isTerminal_of_isActive (active : phase.isActive = true) : phase.isTerminal = false :=
  ((isActive_iff phase).mp active).2

end RunPhase

/-! ## Specification -/

inductive RunTerminationMode
  | immediate
  | drain
  deriving DecidableEq

structure RunFunctionMode where
  idleTimeoutSeconds : Option Int
  deriving DecidableEq

structure RunSessionMode where
  leaseTimeoutSeconds : Option Int
  deriving DecidableEq

/-- `RunMode`: whether the task section is present, and the two other sections. -/
structure RunMode where
  task : Bool
  function : Option RunFunctionMode
  session : Option RunSessionMode
  deriving DecidableEq

def RunMode.name (mode : RunMode) : String :=
  if mode.task then "task"
  else if mode.session.isSome then "session"
  else if mode.function.isSome then "function"
  else ""

structure RunAffinityTerm where
  labelSelector : Option LabelSelector
  topologyKey : String
  deriving DecidableEq

structure WeightedRunAffinityTerm where
  weight : Int
  runAffinityTerm : RunAffinityTerm
  deriving DecidableEq

/-- `RunAffinityRules`, the required and the preferred terms. -/
structure RunAffinityRules where
  required : List RunAffinityTerm
  preferred : List WeightedRunAffinityTerm
  deriving DecidableEq

structure RunAffinity where
  runAffinity : Option RunAffinityRules
  runAntiAffinity : Option RunAffinityRules
  deriving DecidableEq

structure RetryPolicy where
  maxAttempts : Int
  backoff : Duration
  retryableReasons : List String
  deriving DecidableEq

structure RunSpec where
  runtime : String
  mode : RunMode
  workspace : Option String := none
  affinity : Option RunAffinity := none
  resources : Option ResourceList := none
  timeout : Option Duration := none
  termination : Option RunTerminationMode := none
  retryPolicy : Option RetryPolicy := none
  deriving DecidableEq

namespace RunSpec

def hasImmediateTermination (spec : RunSpec) : Bool :=
  spec.termination == some .immediate

def hasDrainTermination (spec : RunSpec) : Bool :=
  spec.termination == some .drain

/-- The preference weights of one side. -/
def preferenceWeights (rules : Option RunAffinityRules) : List Int :=
  rules.elim [] fun rules => rules.preferred.map WeightedRunAffinityTerm.weight

/-- The CRD's bounds on preference weights, which the API server enforces. -/
def weightsAdmitted (spec : RunSpec) : Bool :=
  match spec.affinity with
  | none => true
  | some affinity =>
    (preferenceWeights affinity.runAffinity ++
      preferenceWeights affinity.runAntiAffinity).all fun weight =>
        decide (1 ≤ weight ∧ weight ≤ 100)

end RunSpec

/-- The built-in resource of concurrent Runs. -/
def runtimeResourceRuns : String := "runs"

/-- The loop of `ResourceRequests` over the declared requests: a negative or
fractional quantity is an error, a zero quantity is dropped. -/
def declaredRequests (entries : List (Σ _ : String, Quantity)) :
    Except String ResourceList :=
  entries.foldlM (fun requests entry =>
      if entry.2.nano < 0 || !entry.2.asInt64 then
        .error ("resource request " ++ quoted entry.1 ++ " must be a non-negative integer")
      else if 0 < entry.2.nano then .ok (requests.insert entry.1 entry.2)
      else .ok requests)
    ∅

/-- Add one unit of the built-in resource when it is not requested. -/
def withRuns (requests : ResourceList) : ResourceList :=
  if 0 < amount requests runtimeResourceRuns then requests
  else requests.insert runtimeResourceRuns (Quantity.ofInt 1)

def RunSpec.resourceRequests (spec : RunSpec) : Except String ResourceList :=
  (declaredRequests (spec.resources.elim [] AList.entries)).map withRuns

/-- Every requested quantity is positive. -/
def AllPositive (resources : ResourceList) : Prop :=
  ∀ name quantity, resources.lookup name = some quantity → 0 < quantity.nano

theorem AllPositive.insert {resources : ResourceList} (positive : AllPositive resources)
    {name : String} {quantity : Quantity} (added : 0 < quantity.nano) :
    AllPositive (AList.insert name quantity resources) := by
  intro other found lookup
  rcases Table.lookup_insert_cases lookup with ⟨rfl, rfl⟩ | ⟨_, lookup⟩
  · exact added
  · exact positive other found lookup

theorem AllPositive.amount_nonneg {resources : ResourceList}
    (positive : AllPositive resources) (name : String) : 0 ≤ amount resources name := by
  unfold amount
  split
  next quantity found =>
    exact (positive name quantity found).le
  · exact le_rfl

/-- What the loop has collected stays positive. -/
theorem declaredRequests_allPositive {entries : List (Σ _ : String, Quantity)}
    (accepted : declaredRequests entries = .ok requests) :
    AllPositive requests := by
  suffices general : ∀ start, AllPositive start →
      entries.foldlM (fun requests entry =>
        if entry.2.nano < 0 || !entry.2.asInt64 then
          .error ("resource request " ++ quoted entry.1 ++ " must be a non-negative integer")
        else if 0 < entry.2.nano then .ok (requests.insert entry.1 entry.2)
        else .ok requests) start = Except.ok requests → AllPositive requests by
    exact general ∅ (fun name quantity lookup => by simp at lookup) accepted
  clear accepted
  induction entries with
  | nil =>
    intro start positive folded
    cases folded
    exact positive
  | cons entry rest ih =>
    intro start positive folded
    rw [List.foldlM_cons] at folded
    split at folded
    · cases folded
    split at folded
    next added =>
      exact ih _ (positive.insert added) folded
    · exact ih _ positive folded

theorem withRuns_allPositive (positive : AllPositive requests) :
    AllPositive (withRuns requests) := by
  unfold withRuns
  split
  · exact positive
  · exact positive.insert (by decide)

/-- A computed request holds positive quantities only. -/
theorem RunSpec.resourceRequests_allPositive {spec : RunSpec}
    (computed : spec.resourceRequests = .ok requests) : AllPositive requests := by
  unfold resourceRequests at computed
  cases declared : declaredRequests (spec.resources.elim [] AList.entries) with
  | error => simp [declared, Except.map] at computed
  | ok =>
    simp only [declared, Except.map, Except.ok.injEq] at computed
    exact computed ▸ withRuns_allPositive (declaredRequests_allPositive declared)

/-! ## Status -/

/-- `ArtifactRef`, as far as it identifies stored content. -/
structure ArtifactRef where
  name : String
  digest : String
  deriving DecidableEq

structure RunStatus where
  mode : String := ""
  phase : RunPhase := .pending
  assignedPod : String := ""
  assignedPodUID : String := ""
  message : String := ""
  startTime : Option Time := none
  completionTime : Option Time := none
  outputs : Labels := ∅
  artifactRefs : List ArtifactRef := []
  artifactStore : Bool := false
  attempt : Int := 0
  conditions : List Condition := []
  deriving DecidableEq

/-- A Run with the metadata the controllers use.  `deleting` says whether the
deletion timestamp is set. -/
structure Run where
  nameSpace : String
  name : String
  uid : String
  labels : Labels := ∅
  finalizers : List String := []
  deleting : Bool := false
  resourceVersion : Nat := 1
  spec : RunSpec
  status : RunStatus := {}
  deriving DecidableEq

namespace Run

/-- The specification up to the termination request, the only part of it that may
change after creation. -/
def fixedSpec (run : Run) : RunSpec :=
  { run.spec with termination := none }

/-- The Run waits for an assignment. -/
def isUnassignedPending (run : Run) : Bool :=
  run.status.phase.isPending && run.status.assignedPod == ""

/-- The Run is assigned to the named Pod and has not ended. -/
def isActiveOn (run : Run) (podName : String) : Bool :=
  run.status.phase.isActive && run.status.assignedPod == podName && podName != ""

theorem isUnassignedPending_iff (run : Run) :
    run.isUnassignedPending = true ↔
      run.status.phase.isPending = true ∧ run.status.assignedPod = "" := by
  simp [isUnassignedPending]

theorem isActiveOn_iff (run : Run) (podName : String) :
    run.isActiveOn podName = true ↔
      run.status.phase.isActive = true ∧ run.status.assignedPod = podName ∧ podName ≠ "" := by
  simp [isActiveOn, and_assoc]

end Run

/-! ## Finalizers -/

/-- `controllerutil.AddFinalizer`, if it changes the object. -/
def addFinalizer (run : Run) (finalizer : String) : Option Run :=
  if finalizer ∈ run.finalizers then none
  else some { run with finalizers := run.finalizers ++ [finalizer] }

/-- `controllerutil.RemoveFinalizer`, if it changes the object. -/
def removeFinalizer (run : Run) (finalizer : String) : Option Run :=
  if finalizer ∈ run.finalizers then
    some { run with finalizers := run.finalizers.filter fun held => held != finalizer }
  else none

def runRegistrationCleanupFinalizer : String := "kruntimes.io/registration-cleanup"

def runArtifactFinalizer : String := "kruntimes.io/artifact-cleanup"

end Kruntimes.Api
