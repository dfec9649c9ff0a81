import Kruntimes.Scheduler.LeastLoaded

/-!
# One planning cycle

`planSchedulingCycle` prepares the plugins, filters the Pods of the snapshot and
ranks those that remain.  It reads the snapshot only.
-/

namespace Kruntimes.Scheduler

open Api Data

variable {reconciler : RunReconciler} {taken : SchedulingSnapshot} {affinity : RunAffinity}

/-- The configuration of a `RunReconciler`; empty registration lists stand for
the defaults. -/
structure RunReconciler extends SchedulerConfig where
  filterPluginRegistrations : List (Option FilterPluginFactory) := []
  scorePluginRegistrations : List ScorePluginRegistration := []

/-- `schedulingPlan`, by its action. -/
inductive SchedulingPlan
  | wait (message : String)
  | bind (selected : Pod)
  deriving DecidableEq

/-- The workspace part of `waitingMessageForFilterRejections`. -/
def workspaceMessage (workspace runtime : String) (rejections : List FilterReason) :
    Option String :=
  let reference := "referenced PersistentWorkspace " ++ quoted workspace
  if .workspaceNotFound ∈ rejections then some ("waiting for " ++ reference ++ " to exist")
  else if .workspaceRuntimeMismatch ∈ rejections then
    some ("waiting for " ++ reference ++ " to match runtime " ++ quoted runtime)
  else if .workspaceUnbound ∈ rejections then some ("waiting for " ++ reference ++ " to bind")
  else if .workspaceLost ∈ rejections then
    some ("waiting for " ++ reference ++ " to be replaced after it was lost")
  else if .workspaceReleased ∈ rejections then some (reference ++ " is being deleted")
  else if .workspaceBoundPodMismatch ∈ rejections then
    some ("waiting for bound Runtime Pod of PersistentWorkspace " ++ quoted workspace)
  else none

/-- `waitingMessageForFilterRejections`; the counters are only compared with
zero, so the rejections are kept as a list. -/
def waitingMessageForFilterRejections (run : Run) (rejections : List FilterReason) :
    String :=
  let runtime := quoted run.spec.runtime
  let general :=
    if .runAffinity ∈ rejections then
      "waiting for available runtime pods satisfying required Run affinity for runtime " ++ runtime
    else if .runAntiAffinity ∈ rejections then
      "waiting for available runtime pods satisfying required Run anti-affinity for runtime "
        ++ runtime
    else "waiting for available runtime pods for runtime " ++ runtime
  match run.spec.workspace with
  | none => general
  | some workspace => (workspaceMessage workspace run.spec.runtime rejections).getD general

def preFilter (config : SchedulerConfig) (taken : SchedulingSnapshot) :
    Except String SchedulingPreFilterState :=
  match newRunAffinity config.platform taken.run taken.affinityTargets with
  | .error message => .error ("pre-filter run affinity: " ++ message)
  | .ok affinity => .ok { affinity }

/-- One round of `registeredFilterPlugins`. -/
def initializeFilterPlugin (config : SchedulerConfig) (taken : SchedulingSnapshot)
    (prepared : SchedulingPreFilterState) (registration : Option FilterPluginFactory) :
    Except String FilterPlugin :=
  match registration with
  | none => .error "initialize filter plugin: nil factory"
  | some factory =>
    match factory config taken prepared with
    | .error message => .error ("initialize filter plugin: " ++ message)
    | .ok none => .error "initialize filter plugin: nil plugin"
    | .ok (some plugin) => .ok plugin

def registeredFilterPlugins (reconciler : RunReconciler) (taken : SchedulingSnapshot)
    (prepared : SchedulingPreFilterState) : Except String (List FilterPlugin) :=
  let registrations :=
    if reconciler.filterPluginRegistrations.isEmpty then defaultFilterPluginRegistrations
    else reconciler.filterPluginRegistrations
  registrations.mapM (initializeFilterPlugin reconciler.toSchedulerConfig taken prepared)

/-- One round of `registeredScorePlugins`. -/
def initializeScorePlugin (config : SchedulerConfig) (taken : SchedulingSnapshot)
    (prepared : SchedulingPreFilterState) (registration : ScorePluginRegistration) :
    Except String RegisteredScorePlugin :=
  match registration.factory with
  | none => .error "initialize score plugin: nil factory"
  | some factory =>
    if registration.weight ≤ 0 then
      .error ("initialize score plugin: invalid weight " ++ toString registration.weight)
    else match factory config taken prepared with
      | .error message => .error ("initialize score plugin: " ++ message)
      | .ok none => .error "initialize score plugin: nil plugin"
      | .ok (some plugin) => .ok { plugin, weight := registration.weight }

def registeredScorePlugins (reconciler : RunReconciler) (taken : SchedulingSnapshot)
    (prepared : SchedulingPreFilterState) : Except String (List RegisteredScorePlugin) :=
  let registrations :=
    if reconciler.scorePluginRegistrations.isEmpty then defaultScorePluginRegistrations
    else reconciler.scorePluginRegistrations
  registrations.mapM (initializeScorePlugin reconciler.toSchedulerConfig taken prepared)

/-- The reason of the first filter that rejects the Pod. -/
def firstRejection (filters : List FilterPlugin) (taken : SchedulingSnapshot) (pod : Pod) :
    Option FilterReason :=
  filters.findSome? fun filter =>
    match filter.filter taken pod with
    | .feasible => none
    | .rejected reason => some reason

/-- The filter and score phases, once the plugins are prepared. -/
def selectPod (taken : SchedulingSnapshot) (filters : List FilterPlugin)
    (scores : List RegisteredScorePlugin) : Except PlanError SchedulingPlan :=
  let candidates := taken.pods.filter fun pod => (firstRejection filters taken pod).isNone
  if candidates.isEmpty then
    .ok (.wait (waitingMessageForFilterRejections taken.run
      (taken.pods.filterMap (firstRejection filters taken))))
  else match scoreAndRankPods taken candidates scores with
    | .error failure => .error failure
    | .ok [] => .error (.other "no candidates to score")
    | .ok (selected :: _) => .ok (.bind selected)

def planSchedulingCycle (reconciler : RunReconciler) (taken : SchedulingSnapshot) :
    Except PlanError SchedulingPlan :=
  match preFilter reconciler.toSchedulerConfig taken with
  | .error message => .error (.other message)
  | .ok prepared =>
    match registeredFilterPlugins reconciler taken prepared with
    | .error message => .error (.other message)
    | .ok filters =>
      match registeredScorePlugins reconciler taken prepared with
      | .error message => .error (.scorePlugin message)
      | .ok scores => selectPod taken filters scores

/-- A cycle binds only to a Pod of its snapshot. -/
theorem mem_of_planSchedulingCycle {selected : Pod}
    (planned : planSchedulingCycle reconciler taken = .ok (.bind selected)) :
    selected ∈ taken.pods := by
  unfold planSchedulingCycle at planned
  split at planned
  · contradiction
  split at planned
  · contradiction
  split at planned
  · contradiction
  unfold selectPod at planned
  simp only at planned
  split at planned
  · cases planned
  split at planned
  · contradiction
  · contradiction
  rename_i scored
  cases planned
  have candidate := mem_of_scoreAndRankPods scored (.head _)
  exact List.mem_of_mem_filter candidate

/-! ## Cycles with the default plugins -/

/-- The reconciler registers no plugins of its own. -/
structure RunReconciler.UsesDefaults (reconciler : RunReconciler) : Prop where
  filters : reconciler.filterPluginRegistrations = []
  scores : reconciler.scorePluginRegistrations = []

/-- The three registered filters accept the Pod. -/
structure PassesFilters (config : SchedulerConfig) (affinity : RunAffinity)
    (taken : SchedulingSnapshot) (pod : Pod) : Prop where
  workspace : (newWorkspaceFilter taken).filter pod = .feasible
  available : isRuntimePodAvailable config pod taken.now (taken.usageByPod pod.name)
    taken.request = true
  affinity : affinity.filter pod.name = .feasible

/-- The registered default filters for one cycle. -/
def defaultFilterPlugins (config : SchedulerConfig) (taken : SchedulingSnapshot)
    (prepared : SchedulingPreFilterState) : List FilterPlugin :=
  [{ name := "Workspace", filter := fun _ => (newWorkspaceFilter taken).filter },
    { name := "RuntimePodAvailability"
      filter := fun taken pod =>
        if isRuntimePodAvailable config pod taken.now (taken.usageByPod pod.name) taken.request then
          .feasible
        else .rejected .runtimePodUnavailable },
    { name := "RunAffinity", filter := fun _ pod => prepared.affinity.filter pod.name }]

theorem registeredFilterPlugins_default (defaults : reconciler.UsesDefaults)
    (taken : SchedulingSnapshot) (prepared : SchedulingPreFilterState) :
    registeredFilterPlugins reconciler taken prepared =
      .ok (defaultFilterPlugins reconciler.toSchedulerConfig taken prepared) := by
  rw [registeredFilterPlugins, defaults.filters]
  rfl

theorem registeredScorePlugins_default (defaults : reconciler.UsesDefaults)
    (taken : SchedulingSnapshot) (prepared : SchedulingPreFilterState) :
    registeredScorePlugins reconciler taken prepared =
      .ok (defaultScorePlugins reconciler.toSchedulerConfig prepared) := by
  rw [registeredScorePlugins, defaults.scores]
  rfl

theorem firstRejection_default_eq_none_iff {config : SchedulerConfig} {pod : Pod} :
    firstRejection (defaultFilterPlugins config taken ⟨affinity⟩) taken pod = none ↔
      PassesFilters config affinity taken pod := by
  rw [firstRejection, List.findSome?_eq_none_iff]
  constructor
  · intro accepted
    have workspace := accepted _ (.head _)
    have available := accepted _ (.tail _ (.head _))
    have near := accepted _ (.tail _ (.tail _ (.head _)))
    constructor
    · cases result : (newWorkspaceFilter taken).filter pod with
      | feasible => rfl
      | rejected => simp [result] at workspace
    · by_contra refused
      simp [refused] at available
    · cases result : affinity.filter pod.name with
      | feasible => rfl
      | rejected => simp [result] at near
  · intro passes filter mem
    simp only [defaultFilterPlugins, List.mem_cons, List.not_mem_nil, or_false] at mem
    rcases mem with rfl | rfl | rfl
    · simp [passes.workspace]
    · simp [passes.available]
    · simp [passes.affinity]

/-- The Pods of the snapshot that pass the filters. -/
def suitablePods (config : SchedulerConfig) (affinity : RunAffinity) (taken : SchedulingSnapshot) :
    List Pod :=
  taken.pods.filter fun pod =>
    (firstRejection (defaultFilterPlugins config taken ⟨affinity⟩) taken pod).isNone

theorem mem_suitablePods {config : SchedulerConfig} {pod : Pod} :
    pod ∈ suitablePods config affinity taken ↔
      pod ∈ taken.pods ∧ PassesFilters config affinity taken pod := by
  rw [suitablePods, List.mem_filter, Option.isNone_iff_eq_none, firstRejection_default_eq_none_iff]

section Defaults

variable (defaults : reconciler.UsesDefaults)
  (compiled : newRunAffinity reconciler.platform taken.run taken.affinityTargets = .ok affinity)
  (weights : ∀ podName, 0 ≤ affinity.preferredScore podName)

include defaults compiled weights

/-- A cycle with the default plugins binds to the first of the ranked Pods, provided that the
affinity terms compile and no preference weight is negative. -/
theorem planSchedulingCycle_eq :
    planSchedulingCycle reconciler taken = .ok
      (match rankedPods reconciler.toSchedulerConfig taken affinity
          (suitablePods reconciler.toSchedulerConfig affinity taken) with
        | [] => .wait (waitingMessageForFilterRejections taken.run (taken.pods.filterMap
            (firstRejection (defaultFilterPlugins reconciler.toSchedulerConfig taken ⟨affinity⟩)
              taken)))
        | selected :: _ => .bind selected) := by
  have prepared : preFilter reconciler.toSchedulerConfig taken = .ok ⟨affinity⟩ := by
    simp [preFilter, compiled]
  simp only [planSchedulingCycle, prepared, registeredFilterPlugins_default defaults,
    registeredScorePlugins_default defaults, selectPod]
  rw [← suitablePods]
  by_cases empty : suitablePods reconciler.toSchedulerConfig affinity taken = []
  · rw [empty]
    rfl
  have notEmpty : (suitablePods reconciler.toSchedulerConfig affinity taken).isEmpty = false := by
    simpa using empty
  have ranked : (rankedPods reconciler.toSchedulerConfig taken affinity _).Perm
      (suitablePods reconciler.toSchedulerConfig affinity taken) := rankedPods_perm
  rw [notEmpty, scoreAndRankPods_default empty (fun _ mem => (mem_suitablePods.mp mem).1)
    weights]
  generalize rankedPods _ _ _ _ = pods at ranked ⊢
  cases pods with
  | nil => exact absurd ranked.nil_eq (Ne.symm empty)
  | cons => rfl

theorem planSchedulingCycle_default {pod : Pod} (listed : pod ∈ taken.pods)
    (passes : PassesFilters reconciler.toSchedulerConfig affinity taken pod) :
    ∃ selected ∈ taken.pods, planSchedulingCycle reconciler taken = .ok (.bind selected) ∧
      PassesFilters reconciler.toSchedulerConfig affinity taken selected := by
  rw [planSchedulingCycle_eq defaults compiled weights]
  have ranked : pod ∈ rankedPods reconciler.toSchedulerConfig taken affinity _ :=
    rankedPods_perm.mem_iff.mpr (mem_suitablePods.mpr ⟨listed, passes⟩)
  split
  · rename_i empty
    rw [empty] at ranked
    cases ranked
  · rename_i selected rest first
    have chosen := mem_suitablePods.mp (rankedPods_perm.mem_iff.mp (first ▸ List.mem_cons_self))
    exact ⟨selected, chosen.1, rfl, chosen.2⟩

end Defaults

end Kruntimes.Scheduler
