import Kruntimes.Data.Traverse
import Kruntimes.Scheduler.ReservationCache

/-!
# Filter plugins

A filter plugin is prepared once for a scheduling cycle and then asked about
every candidate Pod.  The three registered plugins check the workspace binding,
the availability of the Pod, and the required Run affinity.
-/

namespace Kruntimes.Scheduler

open Api Data

/-- The settings a plugin factory reads from the reconciler. -/
structure SchedulerConfig where
  platform : Platform
  runtimedHeartbeatStaleAfter : Duration

inductive FilterReason
  | runtimePodUnavailable
  | workspaceNotFound
  | workspaceRuntimeMismatch
  | workspaceUnbound
  | workspaceLost
  | workspaceReleased
  | workspaceBoundPodMismatch
  | runAffinity
  | runAntiAffinity
  deriving DecidableEq

inductive FilterResult
  | feasible
  | rejected (reason : FilterReason)
  deriving DecidableEq

/-! ## Run affinity -/

/-- `affinityRule`: the Pods that hold a matching Run, and whether the Run may
open a new group. -/
structure AffinityRule where
  weight : Int
  pods : List String
  seedable : Bool
  deriving DecidableEq

/-- `runAffinity`, the compiled terms of one Run. -/
structure RunAffinity where
  required : List AffinityRule := []
  requiredAnti : List AffinityRule := []
  preferred : List AffinityRule := []
  preferredAnti : List AffinityRule := []
  deriving DecidableEq

def runAffinityTopologyRuntimePod : String := "kruntimes.io/runtime-pod"

/-- The local function `build` of `newRunAffinity`. -/
def buildRule (platform : Platform) (run : Run) (targets : List AffinityTarget)
    (weight : Int) (allowSeed : Bool) (term : RunAffinityTerm) :
    Except String AffinityRule :=
  if term.topologyKey ≠ runAffinityTopologyRuntimePod then
    .error ("unsupported run affinity topology key " ++ quoted term.topologyKey)
  else match term.labelSelector with
    | none => .error "run affinity term has no label selector"
    | some labelSelector =>
      match platform.labelSelectorAsSelector labelSelector with
      | .error message => .error ("parse run affinity selector: " ++ message)
      | .ok selects =>
        let pods := (targets.filter fun target => selects target.labels).map AffinityTarget.podName
        .ok { weight, pods, seedable := allowSeed && pods.isEmpty && selects run.labels }

/-- The local function `appendRules`: the required and the preferred rules of one
side. -/
def buildRules (platform : Platform) (run : Run) (targets : List AffinityTarget)
    (rules : Option RunAffinityRules) (anti : Bool) :
    Except String (List AffinityRule × List AffinityRule) :=
  match rules with
  | none => .ok ([], [])
  | some rules => do
    let required ← rules.required.mapM (buildRule platform run targets 0 (!anti))
    let preferred ← rules.preferred.mapM fun weighted =>
      buildRule platform run targets weighted.weight false weighted.runAffinityTerm
    return (required, preferred)

def newRunAffinity (platform : Platform) (run : Run) (targets : List AffinityTarget) :
    Except String RunAffinity :=
  match run.spec.affinity with
  | none => .ok {}
  | some affinity => do
    let (required, preferred) ← buildRules platform run targets affinity.runAffinity false
    let (requiredAnti, preferredAnti) ←
      buildRules platform run targets affinity.runAntiAffinity true
    return { required, requiredAnti, preferred, preferredAnti }

namespace RunAffinity

def filter (affinity : RunAffinity) (podName : String) : FilterResult :=
  if affinity.required.any fun rule => !rule.pods.contains podName && !rule.seedable then
    .rejected .runAffinity
  else if affinity.requiredAnti.any fun rule => rule.pods.contains podName then
    .rejected .runAntiAffinity
  else .feasible

def preferredScore (affinity : RunAffinity) (podName : String) : Int :=
  let wanted := affinity.preferred.filter fun rule => rule.pods.contains podName
  let avoided := affinity.preferredAnti.filter fun rule => !rule.pods.contains podName
  (wanted.map AffinityRule.weight).sum + (avoided.map AffinityRule.weight).sum

end RunAffinity

/-- Two rules that no filter can tell apart. -/
def AffinityRule.Same (first second : AffinityRule) : Prop :=
  first.seedable = second.seedable ∧ ∀ pod, pod ∈ first.pods ↔ pod ∈ second.pods

theorem AffinityRule.Same.contains_eq {first second : AffinityRule}
    (same : first.Same second) (podName : String) :
    first.pods.contains podName = second.pods.contains podName := by
  rw [Bool.eq_iff_iff, List.contains_iff_mem, List.contains_iff_mem]
  exact same.2 podName

theorem AffinityRule.Same.blocks_eq {first second : AffinityRule}
    (same : first.Same second) (podName : String) :
    (!first.pods.contains podName && !first.seedable) =
      (!second.pods.contains podName && !second.seedable) := by
  rw [same.contains_eq, same.1]

section Compiled

variable {platform : Platform} {run : Run} {targets : List AffinityTarget}

/-- The rules of one side are built if and only if every term of it can be. -/
theorem buildRules_some_eq_ok_iff {rules : RunAffinityRules} {anti : Bool}
    {required preferred : List AffinityRule} :
    buildRules platform run targets (some rules) anti = .ok (required, preferred) ↔
      rules.required.mapM (buildRule platform run targets 0 (!anti)) = .ok required ∧
        (rules.preferred.mapM fun weighted => buildRule platform run targets weighted.weight
          false weighted.runAffinityTerm) = .ok preferred := by
  simp only [buildRules]
  cases rules.required.mapM (buildRule platform run targets 0 (!anti)) with
  | error => simp [bind, Except.bind]
  | ok =>
    cases rules.preferred.mapM fun weighted =>
        buildRule platform run targets weighted.weight false weighted.runAffinityTerm with
    | error => simp [bind, Except.bind]
    | ok => simp [bind, Except.bind, pure, Except.pure]

/-- The affinity of a Run is compiled if and only if both sides can be built. -/
theorem newRunAffinity_eq_ok_iff {terms : Api.RunAffinity} {affinity : RunAffinity}
    (requested : run.spec.affinity = some terms) :
    newRunAffinity platform run targets = .ok affinity ↔
      buildRules platform run targets terms.runAffinity false =
          .ok (affinity.required, affinity.preferred) ∧
        buildRules platform run targets terms.runAntiAffinity true =
          .ok (affinity.requiredAnti, affinity.preferredAnti) := by
  simp only [newRunAffinity, requested]
  cases buildRules platform run targets terms.runAffinity false with
  | error => simp [bind, Except.bind]
  | ok =>
    cases buildRules platform run targets terms.runAntiAffinity true with
    | error => simp [bind, Except.bind]
    | ok =>
      obtain ⟨_, _⟩ := affinity
      simp only [bind, Except.bind, pure, Except.pure, Except.ok.injEq, RunAffinity.mk.injEq,
        Prod.ext_iff]
      tauto

end Compiled

section Targets

variable {platform : Platform} {run : Run} {targets others : List AffinityTarget}
  (same : ∀ target, target ∈ targets ↔ target ∈ others)

include same

theorem buildRule_of_same {weight : Int} {allowSeed : Bool} {term : RunAffinityTerm}
    {rule : AffinityRule}
    (built : buildRule platform run targets weight allowSeed term = .ok rule) :
    ∃ other, buildRule platform run others weight allowSeed term = .ok other ∧ rule.Same other := by
  unfold buildRule at built ⊢
  split at built
  · contradiction
  rename_i supported
  rw [if_neg supported]
  cases selector : term.labelSelector with
  | none => simp [selector] at built
  | some labelSelector =>
    simp only [selector] at built ⊢
    cases parsed : platform.labelSelectorAsSelector labelSelector with
    | error => simp [parsed] at built
    | ok selects =>
      simp only [parsed, Except.ok.injEq] at built ⊢
      subst built
      have emptiness :
          ((targets.filter fun target => selects target.labels).map
            AffinityTarget.podName).isEmpty =
          ((others.filter fun target => selects target.labels).map
            AffinityTarget.podName).isEmpty := by
        rw [Bool.eq_iff_iff]
        simp [List.filter_eq_nil_iff, same]
      exact ⟨_, rfl, by simp only [emptiness], by simp [same]⟩

theorem buildRules_of_same {rules : Option RunAffinityRules} {anti : Bool}
    {required preferred : List AffinityRule}
    (built : buildRules platform run targets rules anti = .ok (required, preferred)) :
    ∃ otherRequired otherPreferred,
      buildRules platform run others rules anti = .ok (otherRequired, otherPreferred) ∧
        List.Forall₂ AffinityRule.Same required otherRequired := by
  cases rules with
  | none =>
    cases built
    exact ⟨[], [], rfl, List.Forall₂.nil⟩
  | some =>
    obtain ⟨first, second⟩ := buildRules_some_eq_ok_iff.mp built
    rcases exists_mapM_ok_of_related (fun _ _ built => buildRule_of_same same built) first with
      ⟨otherFirsts, otherFirst, related⟩
    rcases exists_mapM_ok_of_related (fun _ _ built => buildRule_of_same same built) second with
      ⟨otherSeconds, otherSecond, _⟩
    exact ⟨otherFirsts, otherSeconds, buildRules_some_eq_ok_iff.mpr ⟨otherFirst, otherSecond⟩,
      related⟩

/-- The affinity filter depends on the set of targets only. -/
theorem newRunAffinity_of_same {affinity : RunAffinity}
    (compiled : newRunAffinity platform run targets = .ok affinity) :
    ∃ other, newRunAffinity platform run others = .ok other ∧
      ∀ podName, other.filter podName = affinity.filter podName := by
  cases requested : run.spec.affinity with
  | none =>
    simp only [newRunAffinity, requested, Except.ok.injEq] at compiled ⊢
    exact ⟨_, rfl, fun podName => by rw [← compiled]⟩
  | some =>
    obtain ⟨near, apart⟩ := (newRunAffinity_eq_ok_iff requested).mp compiled
    rcases buildRules_of_same same near with ⟨required, preferred, otherNear, sameRequired⟩
    rcases buildRules_of_same same apart with
      ⟨requiredAnti, preferredAnti, otherApart, sameAnti⟩
    refine ⟨⟨required, requiredAnti, preferred, preferredAnti⟩,
      (newRunAffinity_eq_ok_iff requested).mpr ⟨otherNear, otherApart⟩, ?_⟩
    intro podName
    have blocked := any_eq_of_forall₂ (fun first second rule => rule.blocks_eq podName) sameRequired
    have excluded := any_eq_of_forall₂ (fun first second rule => rule.contains_eq podName) sameAnti
    simp only [RunAffinity.filter, blocked, excluded]

end Targets

/-! ## Plugins -/

structure SchedulingPreFilterState where
  affinity : RunAffinity

structure FilterPlugin where
  name : String
  filter : SchedulingSnapshot → Pod → FilterResult

/-- `filterPluginFactory`; the inner option is a nil plugin. -/
abbrev FilterPluginFactory :=
  SchedulerConfig → SchedulingSnapshot → SchedulingPreFilterState →
    Except String (Option FilterPlugin)

/-- The plugin value prepared by `newWorkspaceFilter`: nothing to check, a reason
that rejects every Pod, or the workspace to match. -/
inductive WorkspaceFilter
  | unrestricted
  | rejecting (reason : FilterReason)
  | boundTo (workspace : PersistentWorkspace)

def newWorkspaceFilter (taken : SchedulingSnapshot) : WorkspaceFilter :=
  if taken.run.spec.workspace.isNone then .unrestricted
  else match taken.workspace with
    | none => .rejecting .workspaceNotFound
    | some workspace =>
      if workspace.runtime ≠ taken.run.spec.runtime then
        .rejecting .workspaceRuntimeMismatch
      else if workspace.phase = .lost then .rejecting .workspaceLost
      else if workspace.phase = .released then .rejecting .workspaceReleased
      else if workspace.phase ≠ .bound ∨ workspace.boundPod = "" ∨ workspace.boundPodUID = "" then
        .rejecting .workspaceUnbound
      else .boundTo workspace

def WorkspaceFilter.filter (plugin : WorkspaceFilter) (pod : Pod) : FilterResult :=
  match plugin with
  | .rejecting reason => .rejected reason
  | .unrestricted => .feasible
  | .boundTo workspace =>
    if pod.name ≠ workspace.boundPod ∨ pod.uid ≠ workspace.boundPodUID then
      .rejected .workspaceBoundPodMismatch
    else .feasible

/-- `isPodSchedulable`: the first `Ready` condition decides. -/
def isPodSchedulable (pod : Pod) : Bool :=
  if pod.phase ≠ .running ∨ pod.deleting then false
  else match pod.conditions.find? fun condition => condition.type == podReady with
    | none => false
    | some condition => condition.status == .conditionTrue

def defaultRuntimePodCapacity : ResourceList :=
  AList.insert runtimeResourceRuns (Quantity.ofInt runtimeDefaultRunsCapacity) ∅

def defaultRuntimedHeartbeatStaleAfter : Duration := 15 * second

def isRuntimePodAvailable (config : SchedulerConfig) (pod : Pod) (now : Time)
    (usage : String → Int) (request : ResourceList) : Bool :=
  let staleAfter :=
    if config.runtimedHeartbeatStaleAfter ≤ 0 then defaultRuntimedHeartbeatStaleAfter
    else config.runtimedHeartbeatStaleAfter
  isPodSchedulable pod && freshRuntimedReady pod now staleAfter &&
    fits (capacity config.platform pod defaultRuntimePodCapacity) usage request

/-- The registered factory of the workspace filter. -/
def workspaceFilterFactory : FilterPluginFactory := fun _ taken _ =>
  .ok (some { name := "Workspace", filter := fun _ => (newWorkspaceFilter taken).filter })

/-- `newRuntimePodAvailabilityFilter`. -/
def runtimePodAvailabilityFilterFactory : FilterPluginFactory := fun config _ _ =>
  .ok (some
    { name := "RuntimePodAvailability"
      filter := fun taken pod =>
        if isRuntimePodAvailable config pod taken.now (taken.usageByPod pod.name) taken.request then
          .feasible
        else .rejected .runtimePodUnavailable })

/-- `newRunAffinityFilter`. -/
def runAffinityFilterFactory : FilterPluginFactory := fun _ _ preFilter =>
  .ok (some { name := "RunAffinity", filter := fun _ pod => preFilter.affinity.filter pod.name })

def defaultFilterPluginRegistrations : List (Option FilterPluginFactory) :=
  [some workspaceFilterFactory, some runtimePodAvailabilityFilterFactory,
    some runAffinityFilterFactory]

/-- A Pod that passes the availability check has room for the request. -/
theorem fits_of_isRuntimePodAvailable {config : SchedulerConfig} {pod : Pod} {now : Time}
    {usage : String → Int} {request : ResourceList}
    (available : isRuntimePodAvailable config pod now usage request = true) :
    fits (capacity config.platform pod defaultRuntimePodCapacity) usage request = true := by
  simp only [isRuntimePodAvailable, Bool.and_eq_true] at available
  exact available.2

end Kruntimes.Scheduler
