import Mathlib.Data.List.Basic

/-!
# Loops that may fail

A loop that stops at the first failure is a monadic fold in `Except`.  When it ends
well, a property that each of its steps preserves holds of the result, and whatever
a step achieves for its item, and later steps keep, is achieved for every item.
-/

namespace Kruntimes.Data

universe u v w

variable {α : Type u} {σ ε : Type v} {f : σ → α → Except ε σ} {items : List α} {start : σ}

theorem foldlM_cons_eq_ok {item : α} {rest : List α} {final : σ}
    (folded : (item :: rest).foldlM f start = .ok final) :
    ∃ next, f start item = .ok next ∧ rest.foldlM f next = .ok final := by
  rw [List.foldlM_cons] at folded
  cases first : f start item with
  | error => rw [first] at folded; cases folded
  | ok next => rw [first] at folded; exact ⟨next, rfl, folded⟩

/-- What every step of a loop keeps, the loop keeps. -/
theorem foldl_keeps {τ : Type w} {step : σ → α → σ} (read : σ → τ) (start : σ)
    (kept : ∀ item ∈ items, ∀ state, read (step state item) = read state) :
    read (items.foldl step start) = read start :=
  List.foldlRecOn (motive := fun state => read state = read start) items step rfl
    fun state same item mem => (kept item mem state).trans same

/-- A loop fails where one of its steps fails. -/
theorem exists_of_foldlM_eq_error {failure : ε} (failed : items.foldlM f start = .error failure) :
    ∃ item ∈ items, ∃ state, f state item = .error failure := by
  induction items generalizing start with
  | nil => cases failed
  | cons item rest ih =>
    rw [List.foldlM_cons] at failed
    cases first : f start item with
    | error =>
      rw [first] at failed
      cases failed
      exact ⟨item, List.mem_cons_self, start, first⟩
    | ok =>
      rw [first] at failed
      obtain ⟨later, mem, found⟩ := ih failed
      exact ⟨later, .tail _ mem, found⟩

/-- The invariant rule. -/
theorem invariant_of_foldlM (Inv : σ → Prop) {final : σ}
    (each : ∀ item ∈ items, ∀ {state next}, Inv state → f state item = .ok next → Inv next)
    (initial : Inv start) (folded : items.foldlM f start = .ok final) : Inv final := by
  induction items generalizing start with
  | nil => cases folded; exact initial
  | cons item rest ih =>
    obtain ⟨_, first, others⟩ := foldlM_cons_eq_ok folded
    apply ih _ (each item (.head _) initial first) others
    intro other mem
    exact each other (.tail _ mem)

/-- The invariant rule that knows which items are done.  A loop that fails does so at an item
before which the invariant holds. -/
theorem prefix_invariant_of_foldlM (Inv : List α → σ → Prop)
    (each : ∀ done item rest, items = done ++ item :: rest → ∀ {state next}, Inv done state →
      f state item = .ok next → Inv (done ++ [item]) next)
    {done rest : List α} (split : items = done ++ rest) (holds : Inv done start) :
    match rest.foldlM f start with
    | .ok final => Inv items final
    | .error failure => ∃ done item rest state, items = done ++ item :: rest ∧ Inv done state ∧
        f state item = .error failure := by
  induction rest generalizing done start with
  | nil =>
    rw [List.append_nil] at split
    exact split ▸ holds
  | cons item rest ih =>
    rw [List.foldlM_cons]
    cases first : f start item with
    | error => exact ⟨done, item, rest, start, split, holds, first⟩
    | ok next =>
      refine ih ?_ (each done item rest split holds first)
      rw [split, List.append_assoc, List.singleton_append]

/-- What every step achieves for its item and no step undoes. -/
theorem forall_mem_of_foldlM (Inv : σ → Prop) (Done : α → σ → Prop) {final : σ}
    (each : ∀ item ∈ items, ∀ {state next}, Inv state → f state item = .ok next →
      Inv next ∧ Done item next ∧ ∀ other, Done other state → Done other next)
    (initial : Inv start) (folded : items.foldlM f start = .ok final) :
    Inv final ∧ ∀ item ∈ items, Done item final := by
  induction items generalizing start with
  | nil =>
    cases folded
    exact ⟨initial, fun _ mem => absurd mem List.not_mem_nil⟩
  | cons item rest ih =>
    obtain ⟨next, first, others⟩ := foldlM_cons_eq_ok folded
    have later : ∀ other ∈ rest, ∀ {state next}, Inv state → f state other = .ok next →
        Inv next ∧ Done other next ∧ ∀ third, Done third state → Done third next :=
      fun other mem => each other (.tail _ mem)
    obtain ⟨kept, achieved, _⟩ := each item (.head _) initial first
    obtain ⟨held, done⟩ := ih later kept others
    refine ⟨held, fun other mem => ?_⟩
    rcases List.mem_cons.mp mem with rfl | mem
    · exact (invariant_of_foldlM (fun state => Inv state ∧ Done other state)
        (fun third listed state next holds stepped => by
          obtain ⟨still, _, keeps⟩ := later third listed holds.1 stepped
          exact ⟨still, keeps other holds.2⟩) ⟨kept, achieved⟩ others).2
    · exact done other mem

end Kruntimes.Data
