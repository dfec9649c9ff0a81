import Kruntimes.Scheduler.Filter
import Mathlib.Algebra.Order.Ring.Int
import Mathlib.Algebra.Order.Ring.Rat

/-!
# Score plugins

Every feasible Pod gets a score between 0 and 100 from each registered plugin;
the Pods are ranked by the weighted total, ties by name.  Score errors abort the
cycle without making the Run terminal, so a cycle with a feasible Pod binds only
if scoring succeeds; for the default plugins it does.
-/

namespace Kruntimes.Scheduler

open Api Data

variable {targets : List AffinityTarget} {candidates : List Pod} {scores : List PodScore}
  {platform : Platform} {run : Run} {affinity : RunAffinity} {taken : SchedulingSnapshot}

def minPodScore : Int := 0

def maxPodScore : Int := 100

def maxInt64 : Int := 2 ^ 63 - 1

structure PodScore where
  podName : String
  score : Int
  deriving DecidableEq

/-- `scorePlugin`, with the optional `scoreNormalizer`. -/
structure ScorePlugin where
  name : String
  score : SchedulingSnapshot → Pod → Except String Int
  normalizeScores : Option (SchedulingSnapshot → List PodScore → Except String (List PodScore))

/-- `scorePluginFactory`; the inner option is a nil plugin. -/
abbrev ScorePluginFactory :=
  SchedulerConfig → SchedulingSnapshot → SchedulingPreFilterState →
    Except String (Option ScorePlugin)

structure ScorePluginRegistration where
  factory : Option ScorePluginFactory
  weight : Int

structure RegisteredScorePlugin where
  plugin : ScorePlugin
  weight : Int

/-- The errors of a planning cycle, distinguished as `isScorePluginError` does. -/
inductive PlanError
  | scorePlugin (message : String)
  | other (message : String)
  deriving DecidableEq

/-! ## Preferred Run affinity -/

def normalizeScoresByMaximum (scores : List PodScore) : Except String (List PodScore) :=
  match scores.find? fun scored => decide (scored.score < 0) with
  | some scored => .error ("negative raw score for pod " ++ quoted scored.podName)
  | none =>
    match (scores.map PodScore.score).max? with
    | none => .ok scores
    | some maximum =>
      if maximum = 0 then .ok scores
      else .ok (scores.map fun scored =>
        { scored with score := scored.score * maxPodScore / maximum })

def preferredRunAffinityScore (affinity : RunAffinity) : ScorePlugin where
  name := "PreferredRunAffinity"
  score _ pod := .ok (affinity.preferredScore pod.name)
  normalizeScores := some fun _ => normalizeScoresByMaximum

def newPreferredRunAffinityScore : ScorePluginFactory := fun _ _ preFilter =>
  .ok (some (preferredRunAffinityScore preFilter.affinity))

/-! ## Least loaded -/

structure ResourceScore where
  max : ℚ
  sum : ℚ

def ResourceScore.compare (score other : ResourceScore) : Ordering :=
  (Ord.compare score.max other.max).then (Ord.compare score.sum other.sum)

/-- `resourceCapacityScore`.  The division cannot fail: a resource without a
positive capacity is skipped. -/
def resourceCapacityScore (capacity : ResourceList) (usage : String → Int)
    (request : ResourceList) : ResourceScore :=
  capacity.entries.foldl (fun score entry =>
      let used := usage entry.1 + amount request entry.1
      if entry.2.nano ≤ 0 ∨ used ≤ 0 then score
      else
        let utilization : ℚ := used / entry.2.nano
        { max := if score.max < utilization then utilization else score.max
          sum := score.sum + utilization })
    ⟨0, 0⟩

/-- Overwrite the score at an index. -/
def setScore (scores : List PodScore) (index : Nat) (score : Int) : List PodScore :=
  scores.mapIdx fun position scored =>
    if position = index then { scored with score } else scored

/-- The group loop of `NormalizeScores`: Pods of equal load share the rank at
which their group starts. -/
def scoreGroups (count : Nat) :
    List (Nat × ResourceScore) → (position start : Nat) → (leader : ResourceScore) →
      List PodScore → List PodScore
  | [], _, _, _, scores => scores
  | (index, score) :: rest, position, start, leader, scores =>
    if score.compare leader = .eq then
      scoreGroups count rest (position + 1) start leader
        (setScore scores index (((count : Int) - 1 - start) * maxPodScore / (count - 1)))
    else
      scoreGroups count rest (position + 1) position score
        (setScore scores index (((count : Int) - 1 - position) * maxPodScore / (count - 1)))

/-- The load of one scored Pod, with its index. -/
def podLoad (config : SchedulerConfig) (taken : SchedulingSnapshot)
    (entry : PodScore × Nat) : Except String (Nat × ResourceScore) :=
  match taken.pods.reverse.find? fun pod => pod.name == entry.1.podName with
  | none =>
    .error ("candidate pod " ++ quoted entry.1.podName ++ " is not in the scheduling snapshot")
  | some pod =>
    .ok (entry.2, resourceCapacityScore (capacity config.platform pod defaultRuntimePodCapacity)
      (taken.usageByPod pod.name) taken.request)

/-- `leastLoadedScore.NormalizeScores`. -/
def normalizeLeastLoaded (config : SchedulerConfig) (taken : SchedulingSnapshot)
    (scores : List PodScore) : Except String (List PodScore) := do
  let loads ← scores.zipIdx.mapM (podLoad config taken)
  let ranked := loads.insertionSort fun first second => first.2.compare second.2 ≠ .gt
  match ranked with
  | [] => return scores
  | [(index, _)] => return setScore scores index maxPodScore
  | first :: rest => return scoreGroups ranked.length (first :: rest) 0 0 first.2 scores

def leastLoadedScore (config : SchedulerConfig) : ScorePlugin where
  name := "LeastLoaded"
  score _ _ := .ok 0
  normalizeScores := some (normalizeLeastLoaded config)

def newLeastLoadedScore : ScorePluginFactory := fun config _ _ =>
  .ok (some (leastLoadedScore config))

def defaultScorePluginRegistrations : List ScorePluginRegistration :=
  [{ factory := some newPreferredRunAffinityScore, weight := 1 },
    { factory := some newLeastLoadedScore, weight := 1 }]

/-! ## Ranking -/

/-- The checks and the addition for one Pod and one plugin. -/
def addScore (registered : RegisteredScorePlugin) (total : Int) (scored : PodScore) :
    Except String Int :=
  if scored.score < minPodScore ∨ maxPodScore < scored.score then
    .error ("score plugin " ++ quoted registered.plugin.name ++ " pod " ++
      quoted scored.podName ++ " returned " ++ toString scored.score ++ " outside 0..100")
  else if (maxInt64 - total) / registered.weight < scored.score then
    .error ("score plugin " ++ quoted registered.plugin.name ++ " overflows total score")
  else .ok (total + scored.score * registered.weight)

/-- The raw score of one Pod. -/
def rawScore (taken : SchedulingSnapshot) (plugin : ScorePlugin) (pod : Pod) :
    Except String PodScore :=
  match plugin.score taken pod with
  | .error message =>
    .error ("score plugin " ++ quoted plugin.name ++ " pod " ++ quoted pod.name ++ ": " ++ message)
  | .ok score => .ok { podName := pod.name, score }

/-- The raw and then normalised scores of one plugin. -/
def pluginScores (taken : SchedulingSnapshot) (candidates : List Pod)
    (plugin : ScorePlugin) : Except String (List PodScore) := do
  let scores ← candidates.mapM (rawScore taken plugin)
  match plugin.normalizeScores with
  | none => return scores
  | some normalize =>
    match normalize taken scores with
    | .error message =>
      .error ("normalize score plugin " ++ quoted plugin.name ++ ": " ++ message)
    | .ok normalized => return normalized

/-- Add the scores of one plugin to the totals. -/
def addPluginScores (taken : SchedulingSnapshot) (candidates : List Pod)
    (totals : List Int) (registered : RegisteredScorePlugin) :
    Except String (List Int) := do
  let scores ← pluginScores taken candidates registered.plugin
  (totals.zip scores).mapM fun (total, scored) => addScore registered total scored

/-- The order of the final ranking: higher total first, then the smaller name. -/
def ranksBefore (first second : Pod × Int) : Prop :=
  second.2 < first.2 ∨ (first.2 = second.2 ∧ first.1.name ≤ second.1.name)

instance : DecidableRel ranksBefore :=
  fun _ _ => inferInstanceAs (Decidable (_ ∨ _))

def scoreAndRankPods (taken : SchedulingSnapshot) (candidates : List Pod)
    (plugins : List RegisteredScorePlugin) : Except PlanError (List Pod) :=
  if candidates.isEmpty then .error (.other "no candidates to score")
  else match plugins.foldlM (addPluginScores taken candidates)
      (candidates.map fun _ => (0 : Int)) with
    | .error message => .error (.scorePlugin message)
    | .ok totals => .ok (((candidates.zip totals).insertionSort ranksBefore).map Prod.fst)

/-- Ranking returns candidates only. -/
theorem mem_of_scoreAndRankPods {ranked : List Pod} {plugins : List RegisteredScorePlugin}
    (scored : scoreAndRankPods taken candidates plugins = .ok ranked) {pod : Pod}
    (mem : pod ∈ ranked) : pod ∈ candidates := by
  unfold scoreAndRankPods at scored
  split at scored
  · contradiction
  split at scored
  · contradiction
  rw [Except.ok.injEq] at scored
  subst scored
  rcases List.mem_map.mp mem with ⟨_, entryMem, rfl⟩
  rw [List.mem_insertionSort] at entryMem
  exact (List.of_mem_zip entryMem).1

/-! ## Preferences of admitted Runs -/

theorem preferredScore_nonneg (preferred : ∀ rule ∈ affinity.preferred, 0 ≤ rule.weight)
    (preferredAnti : ∀ rule ∈ affinity.preferredAnti, 0 ≤ rule.weight) (podName : String) :
    0 ≤ affinity.preferredScore podName := by
  have wanted : 0 ≤ ((affinity.preferred.filter fun rule =>
      rule.pods.contains podName).map AffinityRule.weight).sum := by
    refine List.sum_nonneg fun weight mem => ?_
    obtain ⟨rule, kept, rfl⟩ := List.mem_map.mp mem
    exact preferred rule (List.mem_of_mem_filter kept)
  have avoided : 0 ≤ ((affinity.preferredAnti.filter fun rule =>
      !rule.pods.contains podName).map AffinityRule.weight).sum := by
    refine List.sum_nonneg fun weight mem => ?_
    obtain ⟨rule, kept, rfl⟩ := List.mem_map.mp mem
    exact preferredAnti rule (List.mem_of_mem_filter kept)
  exact add_nonneg wanted avoided

theorem weight_of_buildRule {weight : Int} {allowSeed : Bool} {term : RunAffinityTerm}
    {rule : AffinityRule}
    (built : buildRule platform run targets weight allowSeed term = .ok rule) :
    rule.weight = weight := by
  unfold buildRule at built
  split at built
  · contradiction
  split at built
  · contradiction
  split at built
  · contradiction
  · cases built
    rfl

/-- A preferred rule carries the weight of one of the terms. -/
theorem weight_mem_of_buildRules {rules : Option RunAffinityRules} {anti : Bool}
    {required preferred : List AffinityRule}
    (compiled : buildRules platform run targets rules anti = .ok (required, preferred))
    {rule : AffinityRule} (mem : rule ∈ preferred) :
    rule.weight ∈ RunSpec.preferenceWeights rules := by
  cases rules with
  | none =>
    cases compiled
    simp at mem
  | some =>
    obtain ⟨_, second⟩ := buildRules_some_eq_ok_iff.mp compiled
    rcases exists_of_mem_mapM_ok second mem with ⟨weighted, listed, computed⟩
    rw [weight_of_buildRule computed]
    exact List.mem_map.mpr ⟨weighted, listed, rfl⟩

/-- Admitted preference weights never give a negative score. -/
theorem preferredScore_nonneg_of_weightsAdmitted (admitted : run.spec.weightsAdmitted = true)
    (compiled : newRunAffinity platform run targets = .ok affinity) (podName : String) :
    0 ≤ affinity.preferredScore podName := by
  cases requested : run.spec.affinity with
  | none =>
    simp only [newRunAffinity, requested, Except.ok.injEq] at compiled
    subst compiled
    exact preferredScore_nonneg (by simp) (by simp) podName
  | some =>
    obtain ⟨near, apart⟩ := (newRunAffinity_eq_ok_iff requested).mp compiled
    simp only [RunSpec.weightsAdmitted, requested, List.all_append, Bool.and_eq_true,
      List.all_eq_true, decide_eq_true_eq] at admitted
    refine preferredScore_nonneg ?_ ?_ podName
    · intro rule mem
      have bounds := admitted.1 _ (weight_mem_of_buildRules near mem)
      omega
    · intro rule mem
      have bounds := admitted.2 _ (weight_mem_of_buildRules apart mem)
      omega

theorem scaled_inRange {score maximum : Int} (low : 0 ≤ score) (high : score ≤ maximum) :
    minPodScore ≤ score * maxPodScore / maximum ∧ score * maxPodScore / maximum ≤ maxPodScore := by
  constructor
  · exact Int.ediv_nonneg (mul_nonneg low (by decide)) (low.trans high)
  · rcases (low.trans high).eq_or_lt with zero | positive
    · rw [← zero, Int.ediv_zero]
      decide
    refine Int.ediv_le_of_le_mul positive ?_
    rw [mul_comm]
    exact mul_le_mul_of_nonneg_left high (by decide)

theorem le_max?_getD {values : List Int} {value : Int} (mem : value ∈ values) :
    value ≤ values.max?.getD 0 := by
  cases largest : values.max? with
  | none => simp [List.max?_eq_none_iff.mp largest] at mem
  | some => exact (List.max?_eq_some_iff.mp largest).2 _ mem

/-- Nonnegative scores are scaled by their maximum; if it is zero they all are. -/
theorem normalizeScoresByMaximum_eq (nonneg : ∀ scored ∈ scores, 0 ≤ scored.score) :
    normalizeScoresByMaximum scores = .ok (scores.map fun scored => { scored with
      score := scored.score * maxPodScore / (scores.map PodScore.score).max?.getD 0 }) := by
  have noNegative : scores.find? (fun scored => decide (scored.score < 0)) = none := by
    rw [List.find?_eq_none]
    intro scored mem
    simpa using nonneg scored mem
  have bounded : ∀ scored ∈ scores, scored.score ≤ (scores.map PodScore.score).max?.getD 0 :=
    fun scored mem => le_max?_getD (List.mem_map_of_mem mem)
  rw [normalizeScoresByMaximum, noNegative]
  cases largest : (scores.map PodScore.score).max? with
  | none => simp_all
  | some maximum =>
    by_cases zero : maximum = 0
    · subst zero
      refine congrArg Except.ok ((List.map_id _).symm.trans (List.map_congr_left ?_))
      rintro ⟨_, _⟩ mem
      have high := bounded _ mem
      rw [largest] at high
      cases le_antisymm high (nonneg _ mem)
      rfl
    · simp only [if_neg zero, Option.getD_some]

/-- The score of a candidate after `PreferredRunAffinity`. -/
def affinityScore (affinity : RunAffinity) (candidates : List Pod) (pod : Pod) : Int :=
  affinity.preferredScore pod.name * maxPodScore /
    (candidates.map fun other => affinity.preferredScore other.name).max?.getD 0

/-! ## Plugins without an error -/

theorem pluginScores_eq {plugin : ScorePlugin} {raw value : Pod → Int}
    {normalize : SchedulingSnapshot → List PodScore → Except String (List PodScore)}
    (scored : ∀ pod, plugin.score taken pod = .ok (raw pod))
    (normalizer : plugin.normalizeScores = some normalize)
    (normalized : normalize taken (candidates.map fun pod => ⟨pod.name, raw pod⟩) =
      .ok (candidates.map fun pod => ⟨pod.name, value pod⟩)) :
    pluginScores taken candidates plugin =
      .ok (candidates.map fun pod => ⟨pod.name, value pod⟩) := by
  have computed : candidates.mapM (rawScore taken plugin) =
      .ok (candidates.map fun pod => ⟨pod.name, raw pod⟩) :=
    mapM_eq_ok fun pod _ => by simp [rawScore, scored]
  simp [pluginScores, computed, normalizer, normalized, bind, Except.bind, pure, Except.pure]

theorem pluginScores_preferredRunAffinityScore
    (weights : ∀ podName, 0 ≤ affinity.preferredScore podName) :
    pluginScores taken candidates (preferredRunAffinityScore affinity) =
      .ok (candidates.map fun pod => ⟨pod.name, affinityScore affinity candidates pod⟩) := by
  refine pluginScores_eq (fun _ => rfl) rfl ((normalizeScoresByMaximum_eq ?_).trans ?_)
  · intro scored mem
    obtain ⟨pod, _, rfl⟩ := List.mem_map.mp mem
    exact weights pod.name
  · simp only [List.map_map]
    rfl

/-- Scores in range are added with weight one. -/
theorem addPluginScores_eq {plugin : ScorePlugin} {total value : Pod → Int}
    (scored : pluginScores taken candidates plugin =
      .ok (candidates.map fun pod => ⟨pod.name, value pod⟩))
    (range : ∀ pod ∈ candidates, minPodScore ≤ value pod ∧ value pod ≤ maxPodScore)
    (room : ∀ pod ∈ candidates, total pod + maxPodScore ≤ maxInt64) :
    addPluginScores taken candidates (candidates.map total) ⟨plugin, 1⟩ =
      .ok (candidates.map fun pod => total pod + value pod) := by
  have added : ∀ entry ∈ candidates.map fun pod => (total pod, PodScore.mk pod.name (value pod)),
      addScore ⟨plugin, 1⟩ entry.1 entry.2 = .ok (entry.1 + entry.2.score) := by
    intro entry mem
    obtain ⟨pod, listed, rfl⟩ := List.mem_map.mp mem
    have small := range pod listed
    have fits := room pod listed
    dsimp only [addScore]
    rw [if_neg (by omega), if_neg (by omega), mul_one]
  rw [addPluginScores, scored]
  simp only [bind, Except.bind, List.zip_map']
  rw [mapM_eq_ok added, List.map_map]
  rfl

end Kruntimes.Scheduler
