import Mathlib.Data.List.Basic

/-!
# Fallible list traversals

A loop that stops at the first error is a monadic map into `Except`.  The lemmas
say when such a loop succeeds and where the elements of its result come from.
-/

namespace Kruntimes.Data

universe u v w

variable {α : Type u} {β : Type v} {ε : Type w} {f : α → Except ε β} {items : List α}
  {results : List β}

/-- A traversal succeeds when every element does. -/
theorem mapM_eq_ok {g : α → β} (computes : ∀ item ∈ items, f item = .ok (g item)) :
    items.mapM f = .ok (items.map g) := by
  induction items with
  | nil => rfl
  | cons item rest ih =>
    rw [List.mapM_cons, computes item (.head _), ih fun other mem => computes other (.tail _ mem)]
    rfl

/-- A successful traversal of a nonempty list. -/
theorem mapM_cons_eq_ok_iff {item : α} {rest : List α} :
    (item :: rest).mapM f = .ok results ↔
      ∃ first others, f item = .ok first ∧ rest.mapM f = .ok others ∧
        results = first :: others := by
  rw [List.mapM_cons]
  cases first : f item with
  | error => simp [bind, Except.bind]
  | ok =>
    cases others : rest.mapM f with
    | error => simp [bind, Except.bind]
    | ok =>
      simp only [bind, Except.bind, pure, Except.pure, Except.ok.injEq,
        exists_and_left, exists_eq_left']
      exact eq_comm

/-- Every result of a successful traversal was computed from some element. -/
theorem exists_of_mem_mapM_ok (traversed : items.mapM f = .ok results) {result : β}
    (mem : result ∈ results) :
    ∃ item ∈ items, f item = .ok result := by
  induction items generalizing results with
  | nil =>
    cases traversed
    simp at mem
  | cons item rest ih =>
    obtain ⟨_, _, computed, traversedRest, rfl⟩ := mapM_cons_eq_ok_iff.mp traversed
    rcases List.mem_cons.mp mem with rfl | memberRest
    · exact ⟨item, .head _, computed⟩
    · obtain ⟨source, sourceMember, sourceComputed⟩ := ih traversedRest memberRest
      exact ⟨source, .tail _ sourceMember, sourceComputed⟩

/-- Two functions with related results have related traversals. -/
theorem exists_mapM_ok_of_related {g : α → Except ε β} {related : β → β → Prop}
    (follows : ∀ item value, f item = .ok value → ∃ other, g item = .ok other ∧ related value other)
    (traversed : items.mapM f = .ok results) :
    ∃ others, items.mapM g = .ok others ∧ List.Forall₂ related results others := by
  induction items generalizing results with
  | nil =>
    cases traversed
    exact ⟨[], rfl, List.Forall₂.nil⟩
  | cons item rest ih =>
    obtain ⟨first, _, computed, traversedRest, rfl⟩ := mapM_cons_eq_ok_iff.mp traversed
    obtain ⟨other, otherComputed, firstRelated⟩ := follows item first computed
    obtain ⟨others, othersTraversed, restRelated⟩ := ih traversedRest
    exact ⟨other :: others,
      mapM_cons_eq_ok_iff.mpr ⟨other, others, otherComputed, othersTraversed, rfl⟩,
      List.Forall₂.cons firstRelated restRelated⟩

/-- Related lists agree on tests that the relation respects. -/
theorem any_eq_of_forall₂ {related : β → β → Prop} {test : β → Bool}
    (respects : ∀ first second, related first second → test first = test second)
    {firsts seconds : List β} (all : List.Forall₂ related firsts seconds) :
    firsts.any test = seconds.any test := by
  induction all with
  | nil => rfl
  | cons head _ ih => rw [List.any_cons, List.any_cons, respects _ _ head, ih]

end Kruntimes.Data
