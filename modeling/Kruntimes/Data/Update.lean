import Mathlib.Algebra.Order.Ring.Nat
import Mathlib.Data.List.Nodup

/-!
# Changing one element of a list

A loop that looks for the first element with a property and changes it in place,
and what changes of one element leave alone.
-/

namespace Kruntimes.Data

universe u v

variable {α : Type u} {β : Type v} {test : α → Bool} {change : α → α} {items : List α}
  {item other : α} {i j : Nat} {read : α → β}

/-- Change the first element that passes the test, if there is one. -/
def modifyFirst (test : α → Bool) (change : α → α) : List α → List α
  | [] => []
  | item :: rest => if test item then change item :: rest else item :: modifyFirst test change rest

@[simp]
theorem length_modifyFirst (test : α → Bool) (change : α → α) (items : List α) :
    (modifyFirst test change items).length = items.length := by
  induction items with
  | nil => rfl
  | cons item rest ih =>
    rw [modifyFirst]
    split
    · rfl
    · rw [List.length_cons, ih, List.length_cons]

/-- What stands at a position afterwards. -/
theorem getElem?_modifyFirst (test : α → Bool) (change : α → α) (items : List α) (i : Nat) :
    (modifyFirst test change items)[i]? =
      if items.findIdx? test = some i then (items[i]?).map change
      else items[i]? := by
  induction items generalizing i with
  | nil => simp [modifyFirst]
  | cons item rest ih =>
    rw [modifyFirst, List.findIdx?_cons]
    by_cases passes : test item = true
    · rw [if_pos passes, if_pos passes]
      cases i <;> simp
    rw [if_neg passes, if_neg passes]
    cases i with
    | zero => simp
    | succ => simp [ih]

theorem modifyFirst_eq_self (change : α → α) (none : ∀ item ∈ items, test item = false) :
    modifyFirst test change items = items := by
  induction items with
  | nil => rfl
  | cons item rest ih =>
    rw [modifyFirst, none item (.head _), ih fun other mem => none other (.tail _ mem)]
    rfl

/-- A change that has its effect once has it once on the first element that passes. -/
theorem modifyFirst_modifyFirst (keeps : ∀ item, test (change item) = test item)
    (once : ∀ item, change (change item) = change item) (items : List α) :
    modifyFirst test change (modifyFirst test change items) = modifyFirst test change items := by
  induction items with
  | nil => rfl
  | cons item rest ih =>
    simp only [modifyFirst]
    split
    next passes =>
      rw [modifyFirst, keeps, if_pos passes, once]
    next fails =>
      rw [modifyFirst, if_neg fails, ih]

/-- A change without effect stays without effect when another element is changed. -/
theorem modifyFirst_modifyFirst_of_apart {other : α → Bool} {otherChange : α → α}
    (apart : ∀ item, test item = true → other item = false)
    (keeps : ∀ item, test (otherChange item) = test item)
    (idle : modifyFirst test change items = items) :
    modifyFirst test change (modifyFirst other otherChange items) =
      modifyFirst other otherChange items := by
  induction items with
  | nil => rfl
  | cons item rest ih =>
    rw [modifyFirst] at idle
    by_cases passes : test item = true
    · rw [if_pos passes, List.cons.injEq] at idle
      rw [modifyFirst, apart item passes, if_neg Bool.false_ne_true, modifyFirst, if_pos passes,
        idle.1]
    · rw [if_neg passes, List.cons.injEq] at idle
      rw [modifyFirst]
      split
      · rw [modifyFirst, keeps, if_neg passes, idle.2]
      · rw [modifyFirst, if_neg passes, ih idle.2]

/-- Changes that agree on the element at a position have the same effect there. -/
theorem modify_congr {f g : α → α} (same : ∀ item, items[i]? = some item → f item = g item) :
    items.modify i f = items.modify i g := by
  apply List.ext_getElem?
  intro j
  rw [List.getElem?_modify, List.getElem?_modify]
  by_cases here : i = j
  · subst here
    cases found : items[i]? with
    | none => rfl
    | some item => simp [same item found]
  · simp [here]

/-- The first element that passes is changed in place. -/
theorem modifyFirst_eq_modify (change : α → α) (first : items.findIdx? test = some i) :
    modifyFirst test change items = items.modify i change := by
  apply List.ext_getElem?
  intro j
  rw [getElem?_modifyFirst, first, List.getElem?_modify]
  by_cases here : i = j
  · simp [here]
  · simp [here]

/-- Among elements with different readings, the one with a reading is the first. -/
theorem findIdx?_eq_some_of_nodup [DecidableEq β] (distinct : (items.map read).Nodup)
    (here : items[i]? = some item) :
    items.findIdx? (fun other => read other == read item) = some i := by
  obtain ⟨bound, rfl⟩ := List.getElem?_eq_some_iff.mp here
  rw [List.findIdx?_eq_some_iff_getElem]
  refine ⟨bound, beq_self_eq_true _, fun j below => ?_⟩
  rw [Bool.not_eq_true, beq_eq_false_iff_ne]
  intro same
  have bounded : j < items.length := Nat.lt_trans below bound
  have equal : (items.map read)[j]? = (items.map read)[i]? := by
    simp [List.getElem?_eq_getElem bounded, List.getElem?_eq_getElem bound, same]
  apply List.nodup_iff_getElem?_ne_getElem?.mp distinct j i below _ equal
  rwa [List.length_map]

/-- Elements behind the first one that passes stay as they are. -/
theorem getElem?_modifyFirst_of_lt {first : Nat} (earlier : items[first]? = some item)
    (passes : test item = true) (below : first < i) :
    (modifyFirst test change items)[i]? = items[i]? := by
  rw [getElem?_modifyFirst, if_neg]
  intro found
  obtain ⟨_, rfl⟩ := List.getElem?_eq_some_iff.mp earlier
  have fails := (List.findIdx?_eq_some_iff_getElem.mp found).2.2 first below
  exact fails passes

/-- A reading that the change keeps is kept for the whole list. -/
theorem map_modifyFirst (keeps : ∀ item, read (change item) = read item) (test : α → Bool)
    (items : List α) :
    (modifyFirst test change items).map read = items.map read := by
  induction items with
  | nil => rfl
  | cons item rest ih =>
    rw [modifyFirst]
    split
    · rw [List.map_cons, keeps, List.map_cons]
    · rw [List.map_cons, ih, List.map_cons]

/-- The same for a change at a position. -/
theorem map_modify (keeps : ∀ item, read (change item) = read item) (i : Nat) (items : List α) :
    (items.modify i change).map read = items.map read := by
  induction items generalizing i with
  | nil => simp
  | cons item rest ih =>
    cases i with
    | zero => simp [keeps]
    | succ => simp [ih]

/-- What stands at a position after a change at a position. -/
theorem getElem?_modify_eq_some_iff :
    (items.modify i change)[j]? = some item ↔ ∃ source, items[j]? = some source ∧
        item = if i = j then change source else source := by
  rw [List.getElem?_modify]
  cases items[j]? with
  | none => simp
  | some =>
    simp only [Option.map_eq_map, Option.map_some, Option.some.injEq, exists_eq_left']
    split <;> simp [eq_comm]

theorem getElem?_modify_cases {source : α} (known : items[i]? = some source)
    (found : (items.modify i change)[j]? = some item) :
    j = i ∧ item = change source ∨ i ≠ j ∧ items[j]? = some item := by
  obtain ⟨_, before, rfl⟩ := getElem?_modify_eq_some_iff.mp found
  by_cases here : i = j
  · subst here
    cases known.symm.trans before
    exact .inl ⟨rfl, if_pos rfl⟩
  · rw [if_neg here]
    exact .inr ⟨here, before⟩

/-- What stands at a position after a replacement at a position. -/
theorem getElem?_set_eq_some_iff {found : α} (known : items[i]? = some item) :
    (items.set i other)[j]? = some found ↔
      j = i ∧ found = other ∨ j ≠ i ∧ items[j]? = some found := by
  rw [List.getElem?_set]
  by_cases here : i = j
  · subst here
    have inside := (List.getElem?_eq_some_iff.mp known).1
    simp [inside, eq_comm]
  · simp [here, Ne.symm here]

/-- What stands at a position after an element was added at the end. -/
theorem getElem?_concat_eq_some_iff {found : α} :
    (items ++ [item])[j]? = some found ↔
      items[j]? = some found ∨ j = items.length ∧ found = item := by
  rcases Nat.lt_trichotomy j items.length with inside | here | beyond
  · rw [List.getElem?_append_left inside]
    simp [Nat.ne_of_lt inside]
  · subst here
    simp [eq_comm]
  have outside : (items ++ [item]).length ≤ j := by
    rw [List.length_append, List.length_singleton]
    exact beyond
  rw [List.getElem?_eq_none outside, List.getElem?_eq_none (Nat.le_of_lt beyond)]
  simp [Nat.ne_of_gt beyond]

/-- A weight that a change at a position makes smaller makes the sum smaller. -/
theorem sum_map_modify_lt {weight : α → Nat} (found : items[i]? = some item)
    (less : weight (change item) < weight item) :
    ((items.modify i change).map weight).sum < (items.map weight).sum := by
  induction items generalizing i with
  | nil => cases found
  | cons first rest ih =>
    cases i with
    | zero =>
      cases found
      simpa using less
    | succ => simpa using ih found

/-! ## The first element with its position -/

/-- The first element that passes a test, with its position. -/
theorem find?_zipIdx_eq_some (test : α → Bool)
    (found : (items.zipIdx.find? fun entry => test entry.1) = some (item, i)) :
    items[i]? = some item ∧ test item = true ∧
      ∀ j < i, ∃ other, items[j]? = some other ∧ test other = false := by
  obtain ⟨passes, _, bound, reached, before⟩ := List.find?_eq_some_iff_getElem.mp found
  rw [List.getElem_zipIdx, Nat.zero_add, Prod.mk.injEq] at reached
  obtain ⟨here, rfl⟩ := reached
  rw [List.length_zipIdx] at bound
  refine ⟨List.getElem?_eq_some_iff.mpr ⟨bound, here⟩, passes, fun earlier below => ?_⟩
  have fails := before earlier below
  rw [List.getElem_zipIdx, Bool.not_eq_true'] at fails
  exact ⟨items[earlier], List.getElem?_eq_getElem _, fails⟩

/-- Changes that only make items fail a test make fewer items pass it. -/
theorem map_eq_or_countP_lt
    (fails : ∀ item, change item = item ∨ test item = true ∧ test (change item) = false)
    (items : List α) :
    items.map change = items ∨ (items.map change).countP test < items.countP test := by
  induction items with
  | nil => exact .inl rfl
  | cons item rest ih =>
    have tail : (rest.map change).countP test ≤ rest.countP test := by
      rcases ih with same | less
      · exact Nat.le_of_eq (congrArg _ same)
      · exact Nat.le_of_lt less
    rw [List.map_cons, List.countP_cons, List.countP_cons]
    rcases fails item with same | ⟨before, after⟩
    · rw [same]
      exact ih.imp (congrArg _) fun less => Nat.add_lt_add_right less _
    right
    rw [before, after, if_pos rfl, if_neg Bool.false_ne_true]
    omega

end Kruntimes.Data
