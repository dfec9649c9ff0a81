import Kruntimes.Lifecycle.Course
import Kruntimes.Runtimed.Outcome

/-!
# Claims of Runs that come back

The reaper resets a Run without telling the runtimed that had claimed it, so the entry of
the Run stays in `activeRuns`.  When the scheduler binds the Run to the same Pod again, the
entry keeps `reconcileScheduled` from claiming it.
-/

namespace Kruntimes.Lifecycle

open Api Transition Runtimed

/-- In every world `reconcileScheduled` looks at `activeRuns` first; whatever it is answered
from then on, it changes the status or comes back exactly if there is no entry. -/
theorem reconcileScheduled_advances_iff (deployment : Deployment) (world : World) (pod : String) :
    ∃ next, reconcileScheduled (deployment.controllers pod) world.stored =
        .call (.query .memory) next ∧
      ((next (world.nodes pod).memory).Always Advanced
          [⟨.query .memory, (world.nodes pod).memory⟩] ↔
        (world.nodes pod).memory.active = none) := by
  refine ⟨_, rfl, ?_⟩
  change (if (world.nodes pod).memory.active.isSome then pure .empty
    else reconcileUnclaimed (deployment.controllers pod) world.stored : Process Result).Always
      Advanced _ ↔ _
  cases (world.nodes pod).memory.active with
  | some =>
    -- The reconcile ends here: nothing was stored and nothing brings it back.
    simp only [Option.isSome_some, if_true, Program.always_pure, reduceCtorEq, iff_false]
    rintro (returns | ⟨_, _, _, member⟩)
    · cases returns
    · cases List.mem_singleton.mp member
  | none =>
    simp only [Option.isSome_none, Bool.false_eq_true, if_false, iff_true]
    exact always_advanced_reconcileUnclaimed _ _ _

/-- A task is claimed, the heartbeat of its Pod is late, the reaper resets the task, and
the scheduler binds it to the same Pod again. -/
def reboundActions : List Action :=
  [.schedule 0 .backfill] ++ bindTo Scheduler.smallPod 0 ++ claimOn "runtime-0" ++
    [.tick (40 * second), .reap 0 (some Scheduler.smallPod) (40 * second) (40 * second),
      .tick (42 * second)] ++ bindTo Scheduler.smallPod (42 * second)

/-- A Scheduled Run on a Pod with free capacity whose reconcile ends without a requeue and
without a status update. -/
theorem exists_scheduled_ignored :
    ∃ actions world, run (step smallDeployment) actions
        (World.initial (smallRunWith ⟨true, none, none⟩ (some ⟨3, second, []⟩)) 0) = some world ∧
      world.stored.status.phase = .scheduled ∧
      world.stored.status.assignedPod = "runtime-0" ∧
      (((world.nodes "runtime-0").memory.activeRunCount : Int) <
        (smallDeployment.controllers "runtime-0").capacity) ∧
      ∃ next, reconcileScheduled (smallDeployment.controllers "runtime-0") world.stored =
          .call (.query .memory) next ∧
        next (world.nodes "runtime-0").memory = .done .empty := by
  refine ⟨reboundActions, exists_reached (fun world => world.stored.status.phase = .scheduled ∧
    world.stored.status.assignedPod = "runtime-0" ∧
    (((world.nodes "runtime-0").memory.activeRunCount : Int) <
      (smallDeployment.controllers "runtime-0").capacity) ∧
    (world.nodes "runtime-0").memory.active.isSome = true) (by decide +kernel) ?_⟩
  rintro world _ ⟨scheduled, assigned, free, entry⟩
  exact ⟨scheduled, assigned, free, _, rfl, if_pos entry⟩

end Kruntimes.Lifecycle
