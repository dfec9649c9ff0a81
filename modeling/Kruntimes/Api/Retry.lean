import Kruntimes.Api.Run
import Mathlib.Algebra.Order.Ring.Int

/-!
# Retry arithmetic and common status transitions

The packages `retry` and `runstatus`, shared by the scheduler, the reaper and
runtimed, together with what the API server does to a status it stores.
-/

namespace Kruntimes.Api

/-! ## Retry policy -/

def maxBackoff : Duration := 60 * second

def withDefaults : Option RetryPolicy → RetryPolicy
  | none => { maxAttempts := 1, backoff := second, retryableReasons := [] }
  | some policy =>
    { policy with
      maxAttempts := if policy.maxAttempts ≤ 0 then 1 else policy.maxAttempts
      backoff := if policy.backoff ≤ 0 then second else policy.backoff }

/-- The `float64` nearest to an `int64`, ties to even.  Only magnitudes of more
than 53 bits change. -/
def roundFloat64 (value : Int) : Int :=
  let magnitude := value.natAbs
  let unit := 2 ^ (magnitude.log2 - 52)
  let low := magnitude / unit
  let rest := magnitude % unit
  let up := unit < 2 * rest || (unit == 2 * rest && low % 2 == 1)
  value.sign * ((low + if up then 1 else 0) * unit : Nat)

/-- `Backoff`.  The product with a power of two is exact in `float64`; a product
outside the `int64` range converts to whatever the platform gives. -/
def backoff (platform : Platform) (policy : RetryPolicy) (attempt : Int) : Duration :=
  let retries := (attempt - 2).toNat
  let product := roundFloat64 policy.backoff * 2 ^ retries
  let delay := if -2 ^ 63 ≤ product ∧ product < 2 ^ 63 then product else platform.outOfRangeInt64
  min delay maxBackoff

def reasonTimeout : String := "Timeout"

def reasonPrepareSource : String := "PrepareSource"

def reasonRuntimeExecute : String := "RuntimeExecute"

def reasonSessionRegister : String := "SessionRegister"

def reasonRuntimeError : String := "RuntimeError"

def reasonExecutionLost : String := "ExecutionLost"

def reasonCancelled : String := "Cancelled"

def reasonPodGone : String := "PodGone"

def reasonPodTerminating : String := "PodTerminating"

def reasonPodUnhealthy : String := "PodUnhealthy"

def shouldRetry (policy : RetryPolicy) (attempt : Int) (reason : String) : Bool :=
  if policy.maxAttempts ≤ attempt then false
  else if reason = reasonCancelled then false
  else if policy.retryableReasons.isEmpty then true
  else policy.retryableReasons.contains reason

/-- `CurrentAttempt`: an attempt that was never recorded is the first. -/
def currentAttempt (statusAttempt : Int) : Int :=
  if statusAttempt = 0 then 1 else statusAttempt

def nextAttempt (statusAttempt : Int) : Int :=
  currentAttempt statusAttempt + 1

theorem one_le_maxAttempts_withDefaults (policy : Option RetryPolicy) :
    1 ≤ (withDefaults policy).maxAttempts := by
  cases policy with
  | none => exact le_rfl
  | some =>
    simp only [withDefaults]
    split <;> omega

theorem maxAttempts_withDefaults (policy : RetryPolicy) :
    (withDefaults (some policy)).maxAttempts = max policy.maxAttempts 1 := by
  simp only [withDefaults]
  split <;> omega

theorem attempt_lt_of_shouldRetry {policy : RetryPolicy} {attempt : Int} {reason : String}
    (retries : shouldRetry policy attempt reason = true) : attempt < policy.maxAttempts := by
  by_contra exhausted
  simp [shouldRetry, not_lt.mp exhausted] at retries

/-! ## The formula of the delay -/

/-- Integers of at most 53 bits are exact in `float64`. -/
theorem roundFloat64_of_lt {value : Int} (small : value.natAbs < 2 ^ 53) :
    roundFloat64 value = value := by
  have unit : value.natAbs.log2 - 52 = 0 := by
    have bits : value.natAbs.log2 ≤ 52 := by
      by_cases zero : value.natAbs = 0
      · rw [zero]
        decide
      · exact Nat.le_of_lt_succ ((Nat.log2_lt zero).mpr small)
    omega
  simp [roundFloat64, unit, Nat.mod_one, Int.sign_mul_abs]

section Formula

variable {platform : Platform} {policy : RetryPolicy} {attempt : Int}

/-- The delay before an attempt: the formula, or a conversion out of range. -/
theorem backoff_eq (positive : 0 < policy.backoff) (small : policy.backoff < 2 ^ 53) :
    backoff platform (withDefaults (some policy)) attempt =
      min (if policy.backoff * 2 ^ (attempt - 2).toNat < 2 ^ 63 then
        policy.backoff * 2 ^ (attempt - 2).toNat else platform.outOfRangeInt64) maxBackoff := by
  have kept : (withDefaults (some policy)).backoff = policy.backoff := if_neg (not_le.mpr positive)
  have exact : roundFloat64 policy.backoff = policy.backoff := by
    apply roundFloat64_of_lt
    rw [← Int.ofNat_lt, Int.natAbs_of_nonneg positive.le]
    exact small
  have above : -2 ^ 63 ≤ policy.backoff * 2 ^ (attempt - 2).toNat :=
    le_trans (by decide) (mul_nonneg positive.le (pow_nonneg (by decide) _))
  simp only [backoff, kept, exact, above, true_and]

/-- The delay before an attempt follows the formula, and no delay before it is longer. -/
structure ExactBackoff (platform : Platform) (policy : RetryPolicy) (attempt : Int) : Prop where
  formula : backoff platform (withDefaults (some policy)) attempt =
    min (policy.backoff * 2 ^ (attempt - 2).toNat) maxBackoff
  positive : 0 < backoff platform (withDefaults (some policy)) attempt
  monotone : ∀ earlier, 2 ≤ earlier → earlier ≤ attempt →
    backoff platform (withDefaults (some policy)) earlier ≤
      backoff platform (withDefaults (some policy)) attempt

/-- The formula holds exactly as long as the product stays in the range of an `int64`. -/
theorem exactBackoff_iff (amd64 : platform.outOfRangeInt64 = -2 ^ 63)
    (positive : 0 < policy.backoff) (small : policy.backoff < 2 ^ 53) :
    ExactBackoff platform policy attempt ↔ policy.backoff * 2 ^ (attempt - 2).toNat < 2 ^ 63 := by
  have delay (attempt : Int) := @backoff_eq platform policy attempt positive small
  constructor
  · intro exact
    by_contra beyond
    have negative := exact.positive
    rw [delay, if_neg beyond, amd64] at negative
    exact absurd negative (by decide)
  · intro inRange
    constructor
    · rw [delay, if_pos inRange]
    · rw [delay, if_pos inRange]
      exact lt_min (mul_pos positive (pow_pos (by decide) _)) (by decide)
    · intro earlier _ before
      have less : policy.backoff * 2 ^ (earlier - 2).toNat ≤
          policy.backoff * 2 ^ (attempt - 2).toNat := by
        apply mul_le_mul_of_nonneg_left _ positive.le
        exact pow_le_pow_right₀ (by decide) (by omega)
      rw [delay, delay, if_pos inRange, if_pos (lt_of_le_of_lt less inRange)]
      exact min_le_min_right _ less

end Formula

/-- A platform on which a conversion out of range gives the least `int64`. -/
def amd64 : Platform where
  labelSelectorAsSelector _ := .error ""
  parseQuantity _ := none
  outOfRangeInt64 := -2 ^ 63

/-- A hundred attempts with the default delay. -/
def patientPolicy : RetryPolicy where
  maxAttempts := 100
  backoff := second
  retryableReasons := []

theorem exactBackoff_patient : ExactBackoff amd64 patientPolicy 35 :=
  (exactBackoff_iff rfl (by decide) (by decide)).mpr (by decide)

/-- The delay before the 36th attempt is negative. -/
theorem not_exactBackoff_patient : ¬ ExactBackoff amd64 patientPolicy 36 := by
  intro exact
  exact absurd exact.positive (by decide +kernel)

/-! ## Status transitions -/

def conditionScheduled : String := "Scheduled"

def conditionRunning : String := "Running"

def conditionRuntimeAccepted : String := "RuntimeAccepted"

def conditionReady : String := "Ready"

def conditionCompleted : String := "Completed"

def setTerminal (run : Run) (phase : RunPhase) (reason message : String) (now : Time) : Run :=
  let condition (type : String) : Condition :=
    { type, status := .conditionFalse, reason, message, lastTransitionTime := now }
  let conditions :=
    if (findStatusCondition run.status.conditions conditionReady).isSome then
      setStatusCondition run.status.conditions (condition conditionReady)
    else run.status.conditions
  { run with
    status :=
      { run.status with
        phase
        message
        completionTime := some now
        conditions :=
          setStatusCondition (setStatusCondition conditions (condition conditionRunning))
            (condition conditionCompleted) } }

/-! ## Storage -/

/-- What the API server keeps of a status: every time loses its fraction of a
second. -/
def storedStatus (status : RunStatus) : RunStatus :=
  { status with
    startTime := status.startTime.map storedTime
    completionTime := status.completionTime.map storedTime
    conditions := status.conditions.map fun condition =>
      { condition with lastTransitionTime := storedTime condition.lastTransitionTime } }

/-- The object stored by a status update that is accepted over `base`: its
metadata and specification, the new status, and a new resource version. -/
def storeStatus (base : Run) (status : RunStatus) : Run :=
  { base with resourceVersion := base.resourceVersion + 1, status := storedStatus status }

/-- The object stored by a metadata update that is accepted over `base`. -/
def storeMetadata (base : Run) (finalizers : List String) : Run :=
  { base with finalizers, resourceVersion := base.resourceVersion + 1 }

section StoreStatus

variable (base : Run) (status : RunStatus)

@[simp]
theorem storeStatus_phase : (storeStatus base status).status.phase = status.phase := rfl

@[simp]
theorem storeStatus_assignedPod :
    (storeStatus base status).status.assignedPod = status.assignedPod :=
  rfl

@[simp]
theorem storeStatus_attempt : (storeStatus base status).status.attempt = status.attempt := rfl

end StoreStatus

theorem find_conditions_storedStatus (status : RunStatus) (type : String) :
    findStatusCondition (storedStatus status).conditions type =
      (findStatusCondition status.conditions type).map fun condition =>
        { condition with lastTransitionTime := storedTime condition.lastTransitionTime } := by
  simp only [findStatusCondition, storedStatus, List.find?_map]
  rfl

end Kruntimes.Api
