import Kruntimes.Data.Table

/-!
# Shared API vocabulary

Clock readings, resource quantities, label selectors and status conditions, as
far as the modelled functions read or write them.  Everything the repository
takes from outside its own sources and that is not fixed by documentation alone
is collected in `Platform`.
-/

namespace Kruntimes.Api

open Data

/-! ## Time -/

/-- A clock reading in nanoseconds. -/
abbrev Time := Int

/-- A `time.Duration` in nanoseconds. -/
abbrev Duration := Int

def second : Duration := 1000000000

/-- A `metav1.Time` is stored in RFC 3339 form, which keeps whole seconds only. -/
def storedTime (time : Time) : Time :=
  time - time % second

/-- Storing a time that was read back changes nothing. -/
theorem storedTime_storedTime (time : Time) :
    storedTime (storedTime time) = storedTime time := by
  unfold storedTime
  rw [Int.emod_eq_zero_of_dvd (Int.dvd_self_sub_emod : second ∣ time - time % second), Int.sub_zero]

/-! ## Resource quantities -/

/-- A `resource.Quantity`: its exact value in units of `10⁻⁹`, the finest
fraction it keeps, and whether `AsInt64` converts it.  A quantity written with a
fractional suffix (`1000m`) may be integral and still not convert. -/
structure Quantity where
  nano : Int
  asInt64 : Bool
  integral : asInt64 = true → (1000000000 : Int) ∣ nano
  deriving DecidableEq

namespace Quantity

/-- `resource.NewQuantity` for an integer value. -/
def ofInt (value : Int) : Quantity where
  nano := value * 1000000000
  asInt64 := true
  integral _ := Dvd.intro_left value rfl

end Quantity

/-- A `corev1.ResourceList`. -/
abbrev ResourceList := Table String Quantity

/-- The value read from a resource list; a missing entry reads as the zero
quantity. -/
def amount (resources : ResourceList) (name : String) : Int :=
  match resources.lookup name with
  | some quantity => quantity.nano
  | none => 0

theorem amount_eq_of_lookup {resources : ResourceList} {name : String}
    {quantity : Quantity} (found : resources.lookup name = some quantity) :
    amount resources name = quantity.nano := by
  simp [amount, found]

/-! ## Labels -/

/-- Labels, annotations or another map between strings. -/
abbrev Labels := Table String String

/-- The value of a label; a missing label reads as the empty string. -/
def label (labels : Labels) (key : String) : String :=
  (labels.lookup key).getD ""

/-- The verb `%q` for a Kubernetes name, which needs no escaping. -/
def quoted (name : String) : String :=
  "\"" ++ name ++ "\""

/-- One entry of `matchExpressions`. -/
structure LabelSelectorRequirement where
  key : String
  operator : String
  values : List String
  deriving DecidableEq

/-- A `metav1.LabelSelector`. -/
structure LabelSelector where
  matchLabels : Labels
  matchExpressions : List LabelSelectorRequirement
  deriving DecidableEq

/-- What the program uses from outside its own sources: the compilation of a
label selector, the parser of quantities, and the result of converting a
`float64` outside the `int64` range, which Go leaves to the implementation. -/
structure Platform where
  labelSelectorAsSelector : LabelSelector → Except String (Labels → Bool)
  parseQuantity : String → Option Quantity
  outOfRangeInt64 : Int

/-! ## Conditions -/

/-- `metav1.ConditionStatus`, also used for Pod conditions. -/
inductive ConditionStatus
  | conditionTrue
  | conditionFalse
  | conditionUnknown
  deriving DecidableEq

/-- A `metav1.Condition`. -/
structure Condition where
  type : String
  status : ConditionStatus
  reason : String
  message : String
  lastTransitionTime : Time
  deriving DecidableEq

def findStatusCondition (conditions : List Condition) (type : String) :
    Option Condition :=
  conditions.find? fun condition => condition.type == type

/-- Overwrite an existing condition.  The transition time moves only when the
status changes. -/
def updateCondition (existing new : Condition) : Condition :=
  { existing with
    status := new.status
    reason := new.reason
    message := new.message
    lastTransitionTime :=
      if existing.status = new.status then existing.lastTransitionTime
      else new.lastTransitionTime }

/-- `meta.SetStatusCondition`; `new.lastTransitionTime` is the clock reading of
the caller. -/
def setStatusCondition (conditions : List Condition) (new : Condition) :
    List Condition :=
  match conditions with
  | [] => [new]
  | existing :: rest =>
    if existing.type = new.type then updateCondition existing new :: rest
    else existing :: setStatusCondition rest new

theorem find_setStatusCondition_self (conditions : List Condition) (new : Condition) :
    findStatusCondition (setStatusCondition conditions new) new.type =
      some (match findStatusCondition conditions new.type with
        | some existing => updateCondition existing new
        | none => new) := by
  induction conditions with
  | nil => simp [setStatusCondition, findStatusCondition]
  | cons existing rest ih =>
    by_cases same : existing.type = new.type
    · simp [setStatusCondition, findStatusCondition, same, updateCondition]
    · simpa [setStatusCondition, findStatusCondition, same] using ih

theorem find_setStatusCondition_of_ne {conditions : List Condition} {new : Condition}
    {type : String} (different : new.type ≠ type) :
    findStatusCondition (setStatusCondition conditions new) type =
      findStatusCondition conditions type := by
  induction conditions with
  | nil => simp [setStatusCondition, findStatusCondition, different]
  | cons existing rest ih =>
    by_cases same : existing.type = new.type
    · simp [setStatusCondition, findStatusCondition, same, updateCondition, different]
    by_cases wanted : existing.type = type
    · simp [setStatusCondition, findStatusCondition, wanted, Ne.symm different]
    · simpa [setStatusCondition, findStatusCondition, same, wanted] using ih

end Kruntimes.Api
