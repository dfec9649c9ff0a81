import Mathlib.Data.List.Chain

/-!
# Dependency orders

A list is a dependency order when everything an entry needs stands before it.  It
carries the induction over the needs: a property that passes from the needs of a node
to the node holds of every listed node.  A closed walk along the needs has no such order.
-/

namespace Kruntimes.Data

universe u

variable {κ : Type u}

/-- Every entry of the list comes after everything it needs. -/
inductive DependencyOrder (needs : κ → List κ) : List κ → Prop
  | nil : DependencyOrder needs []
  | snoc {order : List κ} {node : κ} (before : DependencyOrder needs order)
      (supplied : ∀ need ∈ needs node, need ∈ order) :
      DependencyOrder needs (order ++ [node])

namespace DependencyOrder

variable {needs : κ → List κ} {order : List κ}

/-- Induction along the needs of the listed nodes. -/
theorem induct {P : κ → Prop} (ordered : DependencyOrder needs order)
    (passes : ∀ node, (∀ need ∈ needs node, P need) → P node) :
    ∀ node ∈ order, P node := by
  induction ordered with
  | nil => exact fun _ mem => absurd mem List.not_mem_nil
  | @snoc order last _ supplied ih =>
    intro node mem
    rcases List.mem_append.mp mem with early | late
    · exact ih node early
    rw [List.mem_singleton.mp late]
    apply passes
    intro need needed
    exact ih need (supplied need needed)

/-- The needs of a listed node are listed. -/
theorem supplied {node need : κ} (ordered : DependencyOrder needs order) (mem : node ∈ order)
    (needed : need ∈ needs node) : need ∈ order := by
  induction ordered with
  | nil => cases mem
  | snoc _ supplied ih =>
    apply List.mem_append_left
    rcases List.mem_append.mp mem with early | late
    · exact ih early
    · rw [List.mem_singleton.mp late] at needed
      exact supplied need needed

/-- No listed node depends on itself. -/
theorem acyclic (ordered : DependencyOrder needs order) :
    ∀ node ∈ order, ¬Relation.TransGen (fun node need => need ∈ needs node) node node := by
  refine ordered.induct fun node rest cycle => ?_
  obtain ⟨need, needed, back⟩ := Relation.TransGen.head'_iff.mp cycle
  exact rest need needed (Relation.TransGen.tail' back needed)

end DependencyOrder

/-! ## Closed walks -/

/-- A walk along the needs that ends where it starts. -/
structure ClosedWalk (needs : κ → List κ) (walk : List κ) : Prop where
  chain : walk.IsChain fun node need => need ∈ needs node
  closed : ∃ node middle, walk = node :: (middle ++ [node])

/-- The node at which a walk is closed depends on itself. -/
theorem ClosedWalk.transGen {needs : κ → List κ} {walk : List κ} (closed : ClosedWalk needs walk) :
    ∃ node, Relation.TransGen (fun node need => need ∈ needs node) node node := by
  obtain ⟨chain, node, middle, rfl⟩ := closed
  refine ⟨node, ?_⟩
  cases middle with
  | nil => exact .single (List.isChain_pair.mp chain)
  | cons =>
    obtain ⟨needed, chain⟩ := List.isChain_cons_cons.mp chain
    apply Relation.TransGen.head' needed
    exact List.relationReflTransGen_of_exists_isChain_cons _ chain (by simp)

/-- A walk that returns to one of its nodes is closed from there on. -/
theorem closedWalk_of_mem [DecidableEq κ] {needs : κ → List κ} {walk : List κ} {node : κ}
    (chain : (walk ++ [node]).IsChain fun node need => need ∈ needs node) (mem : node ∈ walk) :
    ClosedWalk needs (walk.dropWhile (· != node) ++ [node]) := by
  induction walk with
  | nil => cases mem
  | cons first rest ih =>
    by_cases same : first = node
    · subst same
      rw [List.dropWhile_cons_of_neg (by simp)]
      exact ⟨chain, first, rest, rfl⟩
    · rw [List.dropWhile_cons_of_pos (by simpa using same)]
      apply ih (List.IsChain.tail chain)
      exact (List.mem_cons.mp mem).resolve_left (Ne.symm same)

end Kruntimes.Data
