import Kruntimes.Api.Run

/-!
# Runtime Pods and persistent workspaces

The fields of a Runtime Pod that the controllers read, the helpers of the
`runtimepod` package, and the persistent workspace a Run may refer to.
-/

namespace Kruntimes.Api

open Data

inductive PodPhase
  | pending
  | running
  | succeeded
  | failed
  | unknown
  deriving DecidableEq

structure PodCondition where
  type : String
  status : ConditionStatus
  lastProbeTime : Time
  lastTransitionTime : Time
  deriving DecidableEq

/-- A Runtime Pod.  The API server gives every Pod a UID. -/
structure Pod where
  nameSpace : String
  name : String
  uid : String
  uid_ne_empty : uid ≠ "" := by decide
  name_ne_empty : name ≠ "" := by decide
  labels : Labels := ∅
  annotations : Labels := ∅
  deleting : Bool := false
  phase : PodPhase := .running
  conditions : List PodCondition := []
  deriving DecidableEq

/-- `PersistentWorkspacePhase`, including the empty string. -/
inductive PersistentWorkspacePhase
  | unset
  | pending
  | bound
  | lost
  | released
  deriving DecidableEq

structure PersistentWorkspace where
  runtime : String
  phase : PersistentWorkspacePhase
  boundPod : String
  boundPodUID : String
  deriving DecidableEq

/-- The condition type `Ready` of a Pod. -/
def podReady : String := "Ready"

def runtimePodRuntimedReadyCondition : String := "kruntimes.io/RuntimedReady"

/-- The start of every capacity annotation. -/
def capacityAnnotation : String := "kruntimes.io/capacity."

def runtimeDefaultRunsCapacity : Int := 2

/-- The resource an annotation key advertises, if it is a capacity annotation. -/
def advertisedResource (key : String) : Option String :=
  if capacityAnnotation.toList.isPrefixOf key.toList then
    some (String.ofList (key.toList.drop capacityAnnotation.length))
  else none

/-- One round of the loop of `Capacity`. -/
def addCapacity (platform : Platform) (capacity : ResourceList) (key raw : String) :
    ResourceList :=
  match advertisedResource key with
  | none => capacity
  | some name =>
    if name = "" then capacity
    else match platform.parseQuantity raw with
      | none => capacity
      | some quantity => if quantity.nano ≤ 0 then capacity else capacity.insert name quantity

/-- `Capacity`: the advertised annotations over the fallback. -/
def capacity (platform : Platform) (pod : Pod) (fallback : ResourceList) : ResourceList :=
  pod.annotations.entries.foldl
    (fun capacity entry => addCapacity platform capacity entry.1 entry.2) fallback

/-- `Fits`.  Usage is read resource by resource, a missing entry as zero. -/
def fits (capacity : ResourceList) (usage : String → Int) (request : ResourceList) : Bool :=
  request.entries.all fun entry =>
    entry.2.nano ≤ 0 || match capacity.lookup entry.1 with
      | none => false
      | some available => usage entry.1 + entry.2.nano ≤ available.nano

def findRuntimedReadyCondition (pod : Pod) : Option PodCondition :=
  pod.conditions.find? fun condition => condition.type == runtimePodRuntimedReadyCondition

def freshRuntimedReady (pod : Pod) (now : Time) (staleAfter : Duration) : Bool :=
  match findRuntimedReadyCondition pod with
  | none => false
  | some condition =>
    condition.status == .conditionTrue &&
      (staleAfter ≤ 0 || now - condition.lastProbeTime ≤ staleAfter)

/-- A request that fits leaves room for every resource it asks for. -/
theorem usage_add_amount_le_of_fits {capacity request : ResourceList}
    {usage : String → Int} (fit : fits capacity usage request = true) {name : String}
    (requested : 0 < amount request name) :
    usage name + amount request name ≤ amount capacity name := by
  cases found : request.lookup name with
  | none => simp [amount, found] at requested
  | some quantity =>
    have demand : amount request name = quantity.nano := amount_eq_of_lookup found
    have checked := List.all_eq_true.mp fit ⟨name, quantity⟩ (Table.mem_entries_iff.mpr found)
    cases room : capacity.lookup name with
    | none =>
      simp only [room, Bool.or_false, decide_eq_true_eq] at checked
      omega
    | some available =>
      have supply : amount capacity name = available.nano := amount_eq_of_lookup room
      simp only [room, Bool.or_eq_true, decide_eq_true_eq] at checked
      omega

end Kruntimes.Api
