import Kruntimes.Scheduler.Score
import Mathlib.Data.Prod.Lex
import Mathlib.Tactic.Linarith
import Mathlib.Tactic.Positivity
import Mathlib.Tactic.Ring
import Mathlib.Tactic.Zify

/-!
# The order of loads

`NormalizeScores` gives a Pod the score of its rank, which is the number of Pods that have a
smaller load.  Scores are whole percentages, so it tells two loads apart exactly if a whole
percentage of the other Pods lies between their ranks.  Up to 101 Pods that is always so.
With more different loads than scores it cannot be.
-/

namespace Kruntimes.Scheduler

open Api Data

variable {config : SchedulerConfig} {taken : SchedulingSnapshot} {scores : List PodScore}
  {affinity : RunAffinity} {candidates : List Pod}

/-! ## Ranks -/

/-- Loads in their order: the largest utilization counts first, then the sum. -/
def ResourceScore.key (score : ResourceScore) : ℚ ×ₗ ℚ := toLex (score.max, score.sum)

theorem compare_eq_lt_iff {first second : ResourceScore} :
    first.compare second = .lt ↔ first.key < second.key := by
  simp [ResourceScore.compare, ResourceScore.key, Prod.Lex.toLex_lt_toLex, Ordering.then_eq_lt,
    compare_lt_iff_lt]

theorem compare_eq_eq_iff {first second : ResourceScore} :
    first.compare second = .eq ↔ first.key = second.key := by
  simp [ResourceScore.compare, ResourceScore.key, Ordering.then_eq_eq]

theorem compare_ne_gt_iff {first second : ResourceScore} :
    first.compare second ≠ .gt ↔ first.key ≤ second.key := by
  rw [le_iff_lt_or_eq, ← compare_eq_lt_iff, ← compare_eq_eq_iff]
  cases first.compare second <;> decide

/-- How many loads are smaller. -/
def rank (loads : List ResourceScore) (load : ResourceScore) : Nat :=
  loads.countP fun other => other.key < load.key

/-- The score of the group that starts at a rank. -/
def groupScore (count start : Nat) : Int :=
  ((count : Int) - 1 - start) * maxPodScore / (count - 1)

section Ranked

variable {loads ranked done rest : List (Nat × ResourceScore)} {others : List ResourceScore}
  {low high leader : ResourceScore}

theorem rank_lt (mem : low ∈ others) (less : low.key < high.key) :
    rank others low < rank others high := by
  have inside : rank others low =
      (others.filter fun other => other.key < high.key).countP fun other =>
        other.key < low.key := by
    rw [List.countP_filter, rank]
    refine List.countP_congr fun other _ => ?_
    simpa using fun below => lt_trans below less
  rw [inside]
  refine lt_of_lt_of_eq ?_ List.countP_eq_length_filter.symm
  exact List.countP_lt_length_iff.mpr
    ⟨low, List.mem_filter.mpr ⟨mem, by simpa using less⟩, by simp⟩

theorem rank_lt_length (mem : low ∈ others) : rank others low < others.length :=
  List.countP_lt_length_iff.mpr ⟨low, mem, by simp⟩

theorem pairwise_sortedLoads (loads : List (Nat × ResourceScore)) :
    (loads.insertionSort fun first second => first.2.compare second.2 ≠ .gt).Pairwise
      fun first second => first.2.key ≤ second.2.key := by
  have total : @Std.Total (Nat × ResourceScore)
      fun first second => first.2.compare second.2 ≠ .gt := by
    refine ⟨fun first second => ?_⟩
    rw [compare_ne_gt_iff, compare_ne_gt_iff]
    exact le_total _ _
  have trans : IsTrans (Nat × ResourceScore)
      fun first second => first.2.compare second.2 ≠ .gt := by
    refine ⟨fun first second third => ?_⟩
    rw [compare_ne_gt_iff, compare_ne_gt_iff, compare_ne_gt_iff]
    exact le_trans
  exact (List.pairwise_insertionSort _ loads).imp compare_ne_gt_iff.mp

/-- The group loop overwrites every score by the one of its rank. -/
theorem scoreGroups_eq (sorted : ranked.Pairwise fun first second => first.2.key ≤ second.2.key)
    (split : ranked = done ++ rest) (above : ∀ entry ∈ done, entry.2.key ≤ leader.key)
    (below : ∀ entry ∈ rest, leader.key ≤ entry.2.key) :
    scoreGroups ranked.length rest done.length (rank (ranked.map Prod.snd) leader) leader scores =
      rest.foldl (fun scores entry => setScore scores entry.1
        (groupScore ranked.length (rank (ranked.map Prod.snd) entry.2))) scores := by
  induction rest generalizing done leader scores with
  | nil => rfl
  | cons entry rest ih =>
    obtain ⟨i, score⟩ := entry
    have ordered := split ▸ sorted
    rw [List.pairwise_append, List.pairwise_cons] at ordered
    have next : ranked = (done ++ [(i, score)]) ++ rest := by simp [split]
    rw [List.foldl_cons, scoreGroups]
    split
    · -- the group goes on
      rename_i same
      rw [compare_eq_eq_iff] at same
      have ranks : rank (ranked.map Prod.snd) score = rank (ranked.map Prod.snd) leader := by
        simp only [rank, same]
      rw [ranks, ← ih next ?_ fun other mem => below other (.tail _ mem)]
      · simp [groupScore]
      · intro other mem
        rcases List.mem_append.mp mem with old | last
        · exact above other old
        · rw [List.mem_singleton.mp last, same]
    · -- a group starts: what stands before it is smaller, nothing behind it is
      rename_i different
      rw [compare_eq_eq_iff] at different
      have larger : leader.key < score.key := lt_of_le_of_ne (below _ (.head _)) (Ne.symm different)
      have start : rank (ranked.map Prod.snd) score = done.length := by
        have behind : ((i, score) :: rest).countP
            ((fun other => decide (other.key < score.key)) ∘ Prod.snd) = 0 := by
          refine List.countP_eq_zero.mpr fun other mem => ?_
          rcases List.mem_cons.mp mem with rfl | later
          · simp
          · simpa using ordered.2.1.1 other later
        rw [rank, List.countP_map, split, List.countP_append, behind, Nat.add_zero,
          List.countP_eq_length]
        intro other mem
        simpa using lt_of_le_of_lt (above other mem) larger
      rw [start, ← ih next ?_ ordered.2.1.1]
      · simp [groupScore, start]
      · intro other mem
        rcases List.mem_append.mp mem with old | last
        · exact ((above other old).trans_lt larger).le
        · rw [List.mem_singleton.mp last]

theorem getElem?_setScore (scores : List PodScore) (i j : Nat) (score : Int) :
    (setScore scores i score)[j]? = scores[j]?.map fun scored =>
      if j = i then { scored with score } else scored :=
  List.getElem?_mapIdx

theorem getElem?_foldl_setScore_of_notMem (value : ResourceScore → Int) {i : Nat}
    (absent : i ∉ loads.map Prod.fst) :
    (loads.foldl (fun scores entry => setScore scores entry.1 (value entry.2)) scores)[i]? =
      scores[i]? := by
  induction loads generalizing scores with
  | nil => rfl
  | cons entry rest ih =>
    rw [List.map_cons, List.mem_cons, not_or] at absent
    rw [List.foldl_cons, ih absent.2, getElem?_setScore]
    simp [absent.1]

/-- Every Pod gets the score of its own entry. -/
theorem getElem?_foldl_setScore (value : ResourceScore → Int) {i : Nat}
    (nodup : (loads.map Prod.fst).Nodup) (mem : (i, low) ∈ loads) :
    (loads.foldl (fun scores entry => setScore scores entry.1 (value entry.2)) scores)[i]? =
      scores[i]?.map fun scored => { scored with score := value low } := by
  induction loads generalizing scores with
  | nil => cases mem
  | cons entry rest ih =>
    rw [List.map_cons, List.nodup_cons] at nodup
    rw [List.foldl_cons]
    rcases List.mem_cons.mp mem with rfl | later
    · rw [getElem?_foldl_setScore_of_notMem value nodup.1, getElem?_setScore]
      simp
    have apart : i ≠ entry.1 := by
      rintro rfl
      exact nodup.1 (List.mem_map.mpr ⟨_, later, rfl⟩)
    rw [ih nodup.2 later, getElem?_setScore]
    simp [apart]

end Ranked

/-! ## The normalised scores -/

/-- The load of the snapshot's Pod with a name once the request is assigned to it. -/
def projectedLoad (config : SchedulerConfig) (taken : SchedulingSnapshot) (podName : String) :
    ResourceScore :=
  match taken.pods.reverse.find? fun pod => pod.name == podName with
  | none => ⟨0, 0⟩
  | some pod => resourceCapacityScore (capacity config.platform pod defaultRuntimePodCapacity)
      (taken.usageByPod pod.name) taken.request

/-- The loads of the Pods with the given names, with their positions. -/
def projectedLoads (config : SchedulerConfig) (taken : SchedulingSnapshot) (names : List String) :
    List (Nat × ResourceScore) :=
  names.zipIdx.map fun entry => (entry.2, projectedLoad config taken entry.1)

/-- The rank of a Pod among the Pods with the given names. -/
def loadRank (config : SchedulerConfig) (taken : SchedulingSnapshot) (names : List String)
    (podName : String) : Nat :=
  rank (names.map (projectedLoad config taken)) (projectedLoad config taken podName)

/-- The score of a Pod after `NormalizeScores`. -/
def loadScore (config : SchedulerConfig) (taken : SchedulingSnapshot) (names : List String)
    (podName : String) : Int :=
  if names.length = 1 then maxPodScore
  else groupScore names.length (loadRank config taken names podName)

theorem mapM_podLoad (known : ∀ scored ∈ scores, ∃ pod ∈ taken.pods, pod.name = scored.podName) :
    scores.zipIdx.mapM (podLoad config taken) =
      .ok (projectedLoads config taken (scores.map PodScore.podName)) := by
  rw [projectedLoads, List.zipIdx_map, List.map_map]
  refine mapM_eq_ok fun entry mem => ?_
  obtain ⟨pod, listed, named⟩ := known entry.1 (List.fst_mem_of_mem_zipIdx mem)
  cases found : taken.pods.reverse.find? fun pod => pod.name == entry.1.podName with
  | none => simpa [named] using List.find?_eq_none.mp found pod (List.mem_reverse.mpr listed)
  | some => simp [podLoad, projectedLoad, found]

theorem normalizeLeastLoaded_eq
    (known : ∀ scored ∈ scores, ∃ pod ∈ taken.pods, pod.name = scored.podName) :
    normalizeLeastLoaded config taken scores = .ok (scores.map fun scored => { scored with
      score := loadScore config taken (scores.map PodScore.podName) scored.podName }) := by
  obtain ⟨names, named⟩ : ∃ names, scores.map PodScore.podName = names := ⟨_, rfl⟩
  have length : names.length = scores.length := by rw [← named, List.length_map]
  obtain ⟨ranked, sort⟩ : ∃ ranked, (projectedLoads config taken names).insertionSort
      (fun first second => first.2.compare second.2 ≠ .gt) = ranked := ⟨_, rfl⟩
  have perm : ranked.Perm (projectedLoads config taken names) := sort ▸ List.perm_insertionSort _ _
  have sorted : ranked.Pairwise fun first second => first.2.key ≤ second.2.key :=
    sort ▸ pairwise_sortedLoads _
  have count : ranked.length = names.length := by simp [perm.length_eq, projectedLoads]
  have ranks : ∀ load, rank (ranked.map Prod.snd) load =
      rank (names.map (projectedLoad config taken)) load := by
    intro load
    have loads : (projectedLoads config taken names).map Prod.snd =
        names.map (projectedLoad config taken) := by
      rw [projectedLoads, List.map_map]
      change names.zipIdx.map (projectedLoad config taken ∘ Prod.fst) = _
      rw [← List.map_map, List.zipIdx_map_fst]
    exact loads ▸ (perm.map Prod.snd).countP_eq _
  have listed : ∀ {i load}, (i, load) ∈ ranked ↔
      ∃ scored, scores[i]? = some scored ∧ projectedLoad config taken scored.podName = load := by
    simp [perm.mem_iff, projectedLoads, List.mk_mem_zipIdx_iff_getElem?, ← named]
  have nodup : (ranked.map Prod.fst).Nodup := by
    rw [(perm.map _).nodup_iff, projectedLoads, List.map_map]
    simp [Function.comp_def, List.zipIdx_map_snd, List.nodup_range']
  rw [normalizeLeastLoaded, mapM_podLoad known, named]
  simp only [bind, Except.bind, sort]
  split
  · rw [List.length_eq_zero_iff.mp (count.trans length).symm]
    rfl
  next load =>
    refine congrArg Except.ok (List.ext_getElem? fun j => ?_)
    rw [getElem?_setScore, List.getElem?_map]
    cases found : scores[j]? with
    | none => rfl
    | some scored =>
      cases List.mem_singleton.mp (listed.mpr ⟨scored, found, rfl⟩)
      simp [loadScore, ← count]
  next first rest several =>
    have least : ∀ entry ∈ first :: rest, first.2.key ≤ entry.2.key := by
      intro entry mem
      rcases List.mem_cons.mp mem with rfl | later
      · exact le_rfl
      · exact (List.pairwise_cons.mp sorted).1 entry later
    have start : rank ((first :: rest).map Prod.snd) first.2 = 0 := by
      rw [rank, List.countP_map]
      exact List.countP_eq_zero.mpr fun entry mem => by simpa using least entry mem
    have grouped : scoreGroups (first :: rest).length (first :: rest) 0 0 first.2 scores = _ :=
      start ▸ scoreGroups_eq sorted (List.nil_append _).symm nofun least
    simp only [ranks] at grouped
    refine congrArg Except.ok (grouped.trans (List.ext_getElem? fun j => ?_))
    rw [List.getElem?_map]
    let value := fun load =>
      groupScore (first :: rest).length (rank (names.map (projectedLoad config taken)) load)
    cases found : scores[j]? with
    | none =>
      refine (getElem?_foldl_setScore_of_notMem value fun inside => ?_).trans found
      obtain ⟨_, mem, rfl⟩ := List.mem_map.mp inside
      obtain ⟨_, known, _⟩ := listed.mp mem
      cases found.symm.trans known
    | some scored =>
      have plural : names.length ≠ 1 := by
        intro single
        exact several first.1 first.2 rfl (List.length_eq_zero_iff.mp
          (Nat.succ.inj (count.trans single)))
      refine (getElem?_foldl_setScore value nodup (listed.mpr ⟨scored, found, rfl⟩)).trans ?_
      simp only [found, Option.map_some, loadScore, if_neg plural, loadRank, value, count]

/-! ## The order of the loads -/

section Named

variable {names : List String} {podName : String} (mem : podName ∈ names)

include mem

theorem loadRank_lt_length : loadRank config taken names podName < names.length :=
  (rank_lt_length (List.mem_map_of_mem mem)).trans_eq (List.length_map _)

theorem loadScore_inRange : minPodScore ≤ loadScore config taken names podName ∧
    loadScore config taken names podName ≤ maxPodScore := by
  have below : loadRank config taken names podName < names.length := loadRank_lt_length mem
  unfold loadScore
  split
  · decide
  · exact scaled_inRange (by omega) (by omega)

end Named

/-- Smaller loads have larger scores, equal loads equal ones, and all scores are in range. -/
structure OrderPreserved (config : SchedulerConfig) (taken : SchedulingSnapshot)
    (normalized : List PodScore) : Prop where
  strict : ∀ low ∈ normalized, ∀ high ∈ normalized,
    (projectedLoad config taken low.podName).compare (projectedLoad config taken high.podName) =
      .lt → high.score < low.score
  ties : ∀ first ∈ normalized, ∀ second ∈ normalized,
    (projectedLoad config taken first.podName).compare (projectedLoad config taken second.podName) =
      .eq → first.score = second.score
  range : ∀ scored ∈ normalized, minPodScore ≤ scored.score ∧ scored.score ≤ maxPodScore

/-- Between two different loads there is a whole percentage of the other candidates: at most
so many have a load smaller than the one, and more have a load smaller than the other. -/
def RanksSeparate (config : SchedulerConfig) (taken : SchedulingSnapshot) (names : List String) :
    Prop :=
  ∀ low ∈ names, ∀ high ∈ names, (projectedLoad config taken low).compare
    (projectedLoad config taken high) = .lt → ∃ percent : Nat,
      100 * loadRank config taken names low ≤ percent * (names.length - 1) ∧
      percent * (names.length - 1) < 100 * loadRank config taken names high

theorem groupScore_lt_iff {count low high : Nat} (ordered : low < high) (valid : high < count) :
    groupScore count high < groupScore count low ↔
      ∃ percent : Nat, 100 * low ≤ percent * (count - 1) ∧ percent * (count - 1) < 100 * high := by
  obtain ⟨others, rfl⟩ : ∃ others, count = others + 1 := ⟨count - 1, by omega⟩
  have positive : (0 : Int) < others := by omega
  have others_eq : ((others + 1 : Nat) : Int) - 1 = others := by push_cast; ring
  unfold groupScore maxPodScore
  rw [others_eq, Nat.add_sub_cancel]
  constructor
  · intro less
    -- the score of the smaller load, counted down from 100
    obtain ⟨score, defined⟩ : ∃ score, ((others : Int) - low) * 100 / others = score := ⟨_, rfl⟩
    rw [defined, Int.ediv_lt_iff_lt_mul positive] at less
    have reached : score * others ≤ ((others : Int) - low) * 100 :=
      (Int.le_ediv_iff_mul_le positive).mp defined.ge
    have small : score ≤ 100 := by nlinarith
    refine ⟨(100 - score).toNat, ?_, ?_⟩ <;> zify <;>
      rw [Int.toNat_of_nonneg (by omega)] <;> linarith
  · rintro ⟨percent, above, below⟩
    zify at above below
    refine lt_of_lt_of_le ((Int.ediv_lt_iff_lt_mul positive).mpr
      (?_ : _ < (100 - (percent : Int)) * others)) ((Int.le_ediv_iff_mul_le positive).mpr ?_)
    · linarith
    · linarith

theorem groupScore_lt {count low high : Nat} (ordered : low < high) (valid : high < count)
    (few : count ≤ 101) : groupScore count high < groupScore count low := by
  have apart : ((count : Int) - 1 - high) * maxPodScore + 1 * (count - 1) ≤
      (count - 1 - low) * maxPodScore := by
    simp only [maxPodScore]
    omega
  have divided := Int.ediv_le_ediv (show (0 : Int) < count - 1 by omega) apart
  rw [Int.add_mul_ediv_right _ _ (by omega)] at divided
  exact divided

/-- The scores follow the loads if and only if a whole percentage of the other candidates lies
between the ranks of different loads.  With at most 101 candidates that is always so. -/
theorem normalizeLeastLoaded_ordered_iff (config : SchedulerConfig) (taken : SchedulingSnapshot)
    (scores : List PodScore)
    (known : ∀ scored ∈ scores, ∃ pod ∈ taken.pods, pod.name = scored.podName) :
    ((∃ normalized, normalizeLeastLoaded config taken scores = .ok normalized ∧
        normalized.map PodScore.podName = scores.map PodScore.podName ∧
        OrderPreserved config taken normalized) ↔
      RanksSeparate config taken (scores.map PodScore.podName)) ∧
    (scores.length ≤ 101 → RanksSeparate config taken (scores.map PodScore.podName)) := by
  obtain ⟨names, named⟩ : ∃ names, scores.map PodScore.podName = names := ⟨_, rfl⟩
  have member : ∀ {scored}, scored ∈ scores → scored.podName ∈ names := fun listed =>
    named ▸ List.mem_map_of_mem listed
  have ranks : ∀ {low high}, low ∈ names → (projectedLoad config taken low).compare
      (projectedLoad config taken high) = .lt →
      loadRank config taken names low < loadRank config taken names high := fun listed less =>
    rank_lt (List.mem_map_of_mem listed) (compare_eq_lt_iff.mp less)
  -- two loads that differ belong to two Pods
  have plural : ∀ {low high}, low ∈ names → high ∈ names → (projectedLoad config taken low).compare
      (projectedLoad config taken high) = .lt → names.length ≠ 1 := by
    intro low high first second less single
    have below := ranks first less
    have inside : loadRank config taken names high < names.length := loadRank_lt_length second
    omega
  rw [normalizeLeastLoaded_eq known, named]
  refine ⟨⟨?_, fun separate => ⟨_, rfl, ?_, ?_, ?_, ?_⟩⟩, ?_⟩
  · rintro ⟨_, ⟨⟩, _, ordered⟩ _ first _ second less
    rw [← named] at first second
    obtain ⟨_, listed, rfl⟩ := List.mem_map.mp first
    obtain ⟨_, otherListed, rfl⟩ := List.mem_map.mp second
    have strict := ordered.strict _ (List.mem_map_of_mem listed) _ (List.mem_map_of_mem otherListed)
      less
    simp only [loadScore, if_neg (plural (member listed) (member otherListed) less)] at strict
    exact (groupScore_lt_iff (ranks (member listed) less)
      (loadRank_lt_length (member otherListed))).mp strict
  · simp [Function.comp_def, named]
  · simp only [List.forall_mem_map]
    intro low listed high otherListed less
    simp only [loadScore, if_neg (plural (member listed) (member otherListed) less)]
    exact (groupScore_lt_iff (ranks (member listed) less)
      (loadRank_lt_length (member otherListed))).mpr
        (separate _ (member listed) _ (member otherListed) less)
  · simp only [List.forall_mem_map]
    intro first _ second _ same
    simp only [loadScore, loadRank, rank, compare_eq_eq_iff.mp same]
  · simp only [List.forall_mem_map]
    exact fun scored listed => loadScore_inRange (member listed)
  · intro few low first high second less
    have below : loadRank config taken names high < names.length := loadRank_lt_length second
    refine (groupScore_lt_iff (ranks first less) below).mp
      (groupScore_lt (ranks first less) below ?_)
    rw [← named, List.length_map]
    exact few

/-- Pods for 200 Runs each, with names of different lengths. -/
def crowdPod (index : Nat) : Pod where
  nameSpace := "default"
  name := String.ofList (List.replicate (index + 1) 'p')
  uid := "pod"
  annotations := AList.insert ( capacityAnnotation ++ runtimeResourceRuns) "200" ∅
  name_ne_empty empty := by
    have length := congrArg String.length empty
    simp at length

/-- A snapshot of such Pods, with one Run for each letter of the name of a Pod. -/
def crowd (count : Nat) : SchedulingSnapshot where
  run :=
    { nameSpace := "default", name := "run", uid := "run"
      spec := { runtime := "bash", mode := ⟨true, none, none⟩ } }
  request := withRuns ∅
  pods := (List.range count).map crowdPod
  actualUsageByPod := noUsage
  usageByPod name resource :=
    if resource = runtimeResourceRuns then (Quantity.ofInt name.length).nano else 0
  runs := []
  affinityTargets := []
  workspace := none
  now := 0

/-- The raw scores of the crowd. -/
def crowdScores (count : Nat) : List PodScore :=
  (List.range count).map fun index => ⟨(crowdPod index).name, 0⟩

/-- A platform that reads the capacity of the crowd. -/
def crowdConfig : SchedulerConfig where
  platform :=
    { labelSelectorAsSelector := fun _ => .error "no selector"
      parseQuantity := fun raw => if raw = "200" then some (Quantity.ofInt 200) else none
      outOfRangeInt64 := 0 }
  runtimedHeartbeatStaleAfter := defaultRuntimedHeartbeatStaleAfter

theorem crowd_capacity (index : Nat) :
    (capacity crowdConfig.platform (crowdPod index) defaultRuntimePodCapacity).entries =
      [⟨runtimeResourceRuns, Quantity.ofInt 200⟩] := by
  have advertised : advertisedResource ( capacityAnnotation ++ runtimeResourceRuns) =
      some runtimeResourceRuns := by decide
  have annotated : (crowdPod index).annotations.entries =
      [⟨ capacityAnnotation ++ runtimeResourceRuns, "200"⟩] := rfl
  rw [capacity, annotated, List.foldl_cons, List.foldl_nil, addCapacity]
  simp only [advertised]
  rfl

theorem known_crowd (count : Nat) : ∀ scored ∈ crowdScores count,
    ∃ pod ∈ (crowd count).pods, pod.name = scored.podName := by
  intro scored mem
  obtain ⟨i, inside, rfl⟩ := List.mem_map.mp mem
  exact ⟨crowdPod i, List.mem_map_of_mem inside, rfl⟩

/-- The load of a Pod that advertises one resource. -/
theorem resourceCapacityScore_single {capacity request : ResourceList} {usage : String → Int}
    {name : String} {available : Quantity} (advertised : capacity.entries = [⟨name, available⟩])
    (room : 0 < available.nano) (used : 0 < usage name + amount request name) :
    resourceCapacityScore capacity usage request =
      ⟨((usage name + amount request name : Int) : ℚ) / available.nano,
        ((usage name + amount request name : Int) : ℚ) / available.nano⟩ := by
  have positive : (0 : ℚ) < ((usage name + amount request name : Int) : ℚ) / available.nano :=
    div_pos (by exact_mod_cast used) (by exact_mod_cast room)
  simp only [resourceCapacityScore, advertised, List.foldl_cons, List.foldl_nil]
  rw [if_neg (by omega), if_pos positive, zero_add]

theorem projectedLoad_crowd {count i : Nat} (inside : i < count) :
    (projectedLoad crowdConfig (crowd count) (crowdPod i).name).max = ((i : ℚ) + 2) / 200 := by
  have listed : crowdPod i ∈ (crowd count).pods := List.mem_map_of_mem (List.mem_range.mpr inside)
  unfold projectedLoad
  cases found : (crowd count).pods.reverse.find? fun pod => pod.name == (crowdPod i).name with
  | none => simpa using List.find?_eq_none.mp found _ (List.mem_reverse.mpr listed)
  | some pod =>
    have named : pod.name = (crowdPod i).name := by simpa using List.find?_some found
    obtain ⟨j, _, rfl⟩ := List.mem_map.mp (List.mem_reverse.mp (List.mem_of_find?_eq_some found))
    have used : (crowd count).usageByPod (crowdPod j).name runtimeResourceRuns +
        amount (crowd count).request runtimeResourceRuns = (i + 2) * 1000000000 := by
      have length : ((crowdPod i).name.length : Int) = i + 1 := by simp [crowdPod]
      have asked : amount (crowd count).request runtimeResourceRuns = 1000000000 := rfl
      rw [asked, named]
      change ((crowdPod i).name.length : Int) * 1000000000 + 1000000000 = _
      rw [length]
      ring
    dsimp only
    rw [resourceCapacityScore_single (crowd_capacity j) (by decide) (by omega), used]
    simp only [Quantity.ofInt]
    push_cast
    ring

theorem crowd_lt {count low high : Nat} (ordered : low < high) (inside : high < count) :
    (projectedLoad crowdConfig (crowd count) (crowdPod low).name).compare
      (projectedLoad crowdConfig (crowd count) (crowdPod high).name) = .lt := by
  rw [compare_eq_lt_iff, ResourceScore.key, ResourceScore.key, Prod.Lex.toLex_lt_toLex,
    projectedLoad_crowd inside, projectedLoad_crowd (ordered.trans inside)]
  refine .inl (div_lt_div_of_pos_right ?_ (by positivity))
  exact_mod_cast Nat.add_lt_add_right ordered 2

theorem normalizeLeastLoaded_ordered_pair : ∃ normalized,
    normalizeLeastLoaded crowdConfig (crowd 2) (crowdScores 2) = .ok normalized ∧
      OrderPreserved crowdConfig (crowd 2) normalized := by
  have result := normalizeLeastLoaded_ordered_iff crowdConfig (crowd 2) (crowdScores 2)
    (known_crowd 2)
  obtain ⟨normalized, computed, _, ordered⟩ := result.1.mpr (result.2 (by decide))
  exact ⟨normalized, computed, ordered⟩

/-- With 102 different loads two of them share a score. -/
theorem not_ordered_crowd : ¬ ∃ normalized,
    normalizeLeastLoaded crowdConfig (crowd 102) (crowdScores 102) = .ok normalized ∧
      normalized.map PodScore.podName = (crowdScores 102).map PodScore.podName ∧
      OrderPreserved crowdConfig (crowd 102) normalized := by
  rintro ⟨normalized, _, names, ordered⟩
  have listed : ∀ index < 102, ∃ scored ∈ normalized, scored.podName = (crowdPod index).name := by
    intro index inside
    apply List.mem_map.mp
    rw [names, crowdScores, List.map_map]
    exact List.mem_map.mpr ⟨index, List.mem_range.mpr inside, rfl⟩
  -- every Pod scores at least one less than the Pod before it
  have falls : ∀ index < 102, ∃ scored ∈ normalized, scored.podName = (crowdPod index).name ∧
      scored.score + index ≤ maxPodScore := by
    intro index inside
    induction index with
    | zero =>
      obtain ⟨scored, member, named⟩ := listed 0 inside
      exact ⟨scored, member, named, by simpa using (ordered.range scored member).2⟩
    | succ index ih =>
      obtain ⟨before, previous, named, _⟩ := ih (by omega)
      obtain ⟨scored, member, next⟩ := listed (index + 1) inside
      have less := ordered.strict before previous scored member
        (by rw [named, next]; exact crowd_lt (Nat.lt_succ_self _) inside)
      exact ⟨scored, member, next, by push_cast; omega⟩
  obtain ⟨scored, member, _, low⟩ := falls 101 (by decide)
  have nonneg := (ordered.range scored member).1
  simp only [minPodScore, maxPodScore] at low nonneg
  omega

/-! ## The total scores -/

theorem pluginScores_leastLoadedScore (known : ∀ pod ∈ candidates, pod ∈ taken.pods) :
    pluginScores taken candidates (leastLoadedScore config) = .ok (candidates.map fun pod =>
      ⟨pod.name, loadScore config taken (candidates.map Pod.name) pod.name⟩) := by
  refine pluginScores_eq (fun _ => rfl) rfl ((normalizeLeastLoaded_eq ?_).trans ?_)
  · intro scored mem
    obtain ⟨pod, listed, rfl⟩ := List.mem_map.mp mem
    exact ⟨pod, known pod listed, rfl⟩
  · simp only [List.map_map]
    rfl

/-- The total of a candidate over both default plugins. -/
def totalScore (config : SchedulerConfig) (taken : SchedulingSnapshot) (affinity : RunAffinity)
    (candidates : List Pod) (pod : Pod) : Int :=
  affinityScore affinity candidates pod + loadScore config taken (candidates.map Pod.name) pod.name

/-- The candidates in the order of their totals. -/
def rankedPods (config : SchedulerConfig) (taken : SchedulingSnapshot) (affinity : RunAffinity)
    (candidates : List Pod) : List Pod :=
  ((candidates.zip (candidates.map (totalScore config taken affinity candidates))).insertionSort
    ranksBefore).map Prod.fst

theorem rankedPods_perm : (rankedPods config taken affinity candidates).Perm candidates := by
  refine ((List.perm_insertionSort _ _).map Prod.fst).trans ?_
  rw [List.map_fst_zip (by simp)]

/-- The registered default plugins for one cycle. -/
def defaultScorePlugins (config : SchedulerConfig) (preFilter : SchedulingPreFilterState) :
    List RegisteredScorePlugin :=
  [{ plugin := preferredRunAffinityScore preFilter.affinity, weight := 1 },
    { plugin := leastLoadedScore config, weight := 1 }]

/-- With the default plugins and preference weights that are not negative, the
ranking of a nonempty list of snapshot Pods succeeds. -/
theorem scoreAndRankPods_default (nonempty : candidates ≠ [])
    (known : ∀ pod ∈ candidates, pod ∈ taken.pods)
    (weights : ∀ podName, 0 ≤ affinity.preferredScore podName) :
    scoreAndRankPods taken candidates (defaultScorePlugins config ⟨affinity⟩) =
      .ok (rankedPods config taken affinity candidates) := by
  have near : ∀ pod ∈ candidates, minPodScore ≤ affinityScore affinity candidates pod ∧
      affinityScore affinity candidates pod ≤ maxPodScore := fun pod mem =>
    scaled_inRange (weights _) (le_max?_getD (List.mem_map.mpr ⟨pod, mem, rfl⟩))
  have room : ∀ pod ∈ candidates,
      0 + affinityScore affinity candidates pod + maxPodScore ≤ maxInt64 := by
    intro pod mem
    have small := (near pod mem).2
    simp only [maxPodScore, maxInt64] at small ⊢
    omega
  have first : addPluginScores taken candidates (candidates.map fun _ => 0)
      ⟨preferredRunAffinityScore affinity, 1⟩ = _ :=
    addPluginScores_eq (pluginScores_preferredRunAffinityScore weights) near fun _ _ => (by decide)
  have second : addPluginScores taken candidates _ ⟨leastLoadedScore config, 1⟩ = _ :=
    addPluginScores_eq (pluginScores_leastLoadedScore known)
      (fun pod mem => loadScore_inRange (List.mem_map_of_mem mem)) room
  have notEmpty : candidates.isEmpty = false := by simpa using nonempty
  simp only [scoreAndRankPods, notEmpty, defaultScorePlugins, List.foldlM_cons, List.foldlM_nil,
    first, second, bind, Except.bind, pure, Except.pure]
  simp only [zero_add]
  rfl

end Kruntimes.Scheduler
