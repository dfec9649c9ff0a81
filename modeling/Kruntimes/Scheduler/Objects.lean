import Kruntimes.Scheduler.System

/-!
# Stored Runs and the copies a worker holds

The versions of one Run object agree on its identity and immutable
specification, have increasing resource versions, and show a status of one of
three kinds.  A worker's copy stays related to the object while the object
changes: an update with the resource version of the copy can only succeed while
the stored version is still the one that was read.
-/

namespace Kruntimes.Scheduler

open Api Data Transition

variable {key : ReservationKey} {new old run stored : Run} {object : RunObject}

/-- A stored status: waiting without an assignment, active with one, or ended. -/
def Settled (run : Run) : Prop :=
  run.isUnassignedPending = true ∨
    (run.status.phase.isActive = true ∧ run.status.assignedPod ≠ "") ∨
    run.status.phase.isTerminal = true

/-- Later versions have larger resource versions. -/
def Earlier (first second : Option Run) : Prop :=
  ∀ run next, first = some run → second = some next → run.resourceVersion < next.resourceVersion

/-- What holds of every Run object. -/
structure WellFormed (key : ReservationKey) (object : RunObject) : Prop where
  sameKey : ∀ run, some run ∈ object.view.versions → reservationKeyFor run = key
  sameName : ∀ run, some run ∈ object.view.versions → run.name = object.created.name
  sameSpec : ∀ run, some run ∈ object.view.versions → run.fixedSpec = object.created.fixedSpec
  weights : object.created.spec.weightsAdmitted = true
  settled : ∀ run, some run ∈ object.view.versions → Settled run
  ordered : object.view.versions.Pairwise Earlier
  deletedLast : object.view.persisted ≠ none → none ∉ object.view.undelivered

/-- The resource request depends on the immutable part of the specification. -/
theorem resourceRequests_eq_of_fixedSpec {first second : Run}
    (same : first.fixedSpec = second.fixedSpec) :
    first.spec.resourceRequests = second.spec.resourceRequests := by
  have resources : first.fixedSpec.resources = second.fixedSpec.resources := by rw [same]
  change first.spec.resources = second.spec.resources at resources
  simp only [RunSpec.resourceRequests, resources]

theorem isPending_of_settled_of_isPending (settled : Settled run)
    (pending : run.status.phase.isPending = true) : run.isUnassignedPending = true := by
  rcases settled with waiting | ⟨active, _⟩ | terminal
  · exact waiting
  · rw [RunPhase.isPending_of_isActive active] at pending
    contradiction
  · cases phase : run.status.phase <;> simp [phase, RunPhase.isPending,
      RunPhase.isTerminal] at pending terminal

theorem StatusStep.settled (step : StatusStep old new) (settled : Settled old) : Settled new := by
  rcases step with ⟨_, waiting | terminal⟩ |
    ⟨active, ⟨stillActive, samePod⟩ | terminal | waiting⟩ | ⟨terminal, samePhase⟩
  · exact .inl waiting
  · exact .inr (.inr terminal)
  · refine .inr (.inl ⟨stillActive, ?_⟩)
    rw [samePod]
    rcases settled with waiting | ⟨_, assigned⟩ | terminal
    · have pending := ((Run.isUnassignedPending_iff old).mp waiting).1
      rw [RunPhase.isPending_of_isActive active] at pending
      contradiction
    · exact assigned
    · rw [RunPhase.isTerminal_of_isActive active] at terminal
      contradiction
  · exact .inr (.inr terminal)
  · exact .inl waiting
  · exact .inr (.inr (samePhase ▸ terminal))

/-- A Run that is active after a step was active on the same Pod before. -/
theorem StatusStep.active_before (step : StatusStep old new)
    (active : new.status.phase.isActive = true) :
    old.status.phase.isActive = true ∧ new.status.assignedPod = old.status.assignedPod := by
  have notWaiting : new.isUnassignedPending ≠ true := by
    intro waiting
    have pending := ((Run.isUnassignedPending_iff new).mp waiting).1
    rw [RunPhase.isPending_of_isActive active] at pending
    contradiction
  have notTerminal : new.status.phase.isTerminal ≠ true := by
    rw [RunPhase.isTerminal_of_isActive active]
    exact Bool.false_ne_true
  rcases step with ⟨_, waiting | terminal⟩ |
    ⟨wasActive, ⟨_, samePod⟩ | terminal | waiting⟩ | ⟨terminal, samePhase⟩
  · exact absurd waiting notWaiting
  · exact absurd terminal notTerminal
  · exact ⟨wasActive, samePod⟩
  · exact absurd terminal notTerminal
  · exact absurd waiting notWaiting
  · exact absurd (samePhase ▸ terminal) notTerminal

theorem StatusStep.isActiveOn_before (step : StatusStep old new) {pod : String}
    (active : new.isActiveOn pod = true) : old.isActiveOn pod = true := by
  rcases (Run.isActiveOn_iff new pod).mp active with ⟨phase, assigned, named⟩
  rcases step.active_before phase with ⟨wasActive, samePod⟩
  exact (Run.isActiveOn_iff old pod).mpr ⟨wasActive, samePod.symm.trans assigned, named⟩

/-! ## Changes of one object -/

namespace RunObject

/-- Store a version. -/
def write (object : RunObject) (version : Option Run) : RunObject :=
  { object with view := object.view.write version }

end RunObject

section WellFormed

variable (wellFormed : WellFormed key object)

include wellFormed

/-- No version has a larger resource version than the stored one. -/
theorem WellFormed.resourceVersion_le (latest : object.view.persisted = some stored)
    (mem : some run ∈ object.view.versions) :
    run.resourceVersion ≤ stored.resourceVersion := by
  rcases object.view.exists_versions_eq_append with ⟨_, split⟩
  have ordered := wellFormed.ordered
  rw [split, latest] at ordered mem
  rcases List.mem_append.mp mem with before | last
  · have increasing := (List.pairwise_append.mp ordered).2.2 _ before _ (.head _)
    exact (increasing run stored rfl rfl).le
  · simp only [List.mem_singleton, Option.some.injEq] at last
    exact last ▸ le_rfl

/-- The informer's copy is the oldest version. -/
theorem WellFormed.le_resourceVersion {copy : Run} (cached : object.view.cached = some copy)
    (mem : some run ∈ object.view.versions) : copy.resourceVersion ≤ run.resourceVersion := by
  have ordered := wellFormed.ordered
  rw [Watched.versions, cached] at ordered mem
  rcases List.mem_cons.mp mem with same | later
  · exact (Option.some.inj same) ▸ le_rfl
  · exact ((List.pairwise_cons.mp ordered).1 _ later copy run rfl rfl).le

/-- Two versions with the same resource version are equal. -/
theorem WellFormed.eq_of_resourceVersion_eq {first second : Run}
    (firstMem : some first ∈ object.view.versions)
    (secondMem : some second ∈ object.view.versions)
    (same : first.resourceVersion = second.resourceVersion) : first = second := by
  by_contra different
  have distinct : some first ≠ some second := fun equal => different (Option.some.inj equal)
  have ordered : object.view.versions.Pairwise fun a b => Earlier a b ∨ Earlier b a :=
    wellFormed.ordered.imp Or.inl
  have symmetric : Std.Symm fun a b => Earlier a b ∨ Earlier b a := ⟨fun _ _ => Or.symm⟩
  rcases ordered.forall firstMem secondMem distinct with before | after
  · exact absurd same (before first second rfl rfl).ne
  · exact absurd same (after second first rfl rfl).ne'

/-- A write with the next resource version keeps an object well formed. -/
theorem WellFormed.write (latest : object.view.persisted = some stored)
    (sameKey : reservationKeyFor new = reservationKeyFor stored)
    (sameName : new.name = stored.name) (sameSpec : new.fixedSpec = stored.fixedSpec)
    (version : new.resourceVersion = stored.resourceVersion + 1) (settled : Settled new) :
    WellFormed key (object.write (some new)) := by
  have storedMem : some stored ∈ object.view.versions := Watched.mem_versions_of_persisted latest
  have cases : ∀ run, some run ∈ (object.write (some new)).view.versions →
      some run ∈ object.view.versions ∨ run = new := by
    intro run mem
    rcases Watched.mem_versions_write.mp mem with old | last
    · exact .inl old
    · exact .inr (Option.some.inj last)
  constructor
  · intro run mem
    rcases cases run mem with old | rfl
    · exact wellFormed.sameKey run old
    · exact sameKey.trans (wellFormed.sameKey stored storedMem)
  · intro run mem
    rcases cases run mem with old | rfl
    · exact wellFormed.sameName run old
    · exact sameName.trans (wellFormed.sameName stored storedMem)
  · intro run mem
    rcases cases run mem with old | rfl
    · exact wellFormed.sameSpec run old
    · exact sameSpec.trans (wellFormed.sameSpec stored storedMem)
  · exact wellFormed.weights
  · intro run mem
    rcases cases run mem with old | rfl
    · exact wellFormed.settled run old
    · exact settled
  · change (object.view.versions ++ [some new]).Pairwise Earlier
    rw [List.pairwise_append]
    refine ⟨wellFormed.ordered, List.pairwise_singleton _ _, ?_⟩
    rintro _ firstMem _ secondMem _ _ rfl rfl
    rw [List.mem_singleton, Option.some.injEq] at secondMem
    subst secondMem
    have bound := wellFormed.resourceVersion_le latest firstMem
    omega
  · intro _ deleted
    have tail := wellFormed.deletedLast (by rw [latest]; exact Option.some_ne_none _)
    change none ∈ object.view.undelivered ++ [some new] at deleted
    simp [tail] at deleted

/-- Deleting the Run keeps the object well formed. -/
theorem WellFormed.delete : WellFormed key (object.write none) := by
  have cases : ∀ run, some run ∈ (object.write none).view.versions →
      some run ∈ object.view.versions := by
    intro run mem
    rcases Watched.mem_versions_write.mp mem with old | _
    · exact old
    · contradiction
  constructor
  · exact fun run mem => wellFormed.sameKey run (cases run mem)
  · exact fun run mem => wellFormed.sameName run (cases run mem)
  · exact fun run mem => wellFormed.sameSpec run (cases run mem)
  · exact wellFormed.weights
  · exact fun run mem => wellFormed.settled run (cases run mem)
  · change (object.view.versions ++ [none]).Pairwise Earlier
    rw [List.pairwise_append]
    refine ⟨wellFormed.ordered, List.pairwise_singleton _ _, ?_⟩
    rintro _ _ _ secondMem _ _ rfl rfl
    simp at secondMem
  · intro present
    exact absurd (Watched.persisted_write _ _) present

/-- A delivery keeps the object well formed. -/
theorem WellFormed.deliver {view : Watched (Option Run)}
    (delivered : object.view.deliver = some view) : WellFormed key { object with view } := by
  have outstanding := (Watched.deliver_eq_some_iff object.view view).mp delivered
  have kept : ∀ {version}, version ∈ view.versions → version ∈ object.view.versions :=
    Watched.mem_versions_of_deliver delivered
  constructor
  · exact fun run mem => wellFormed.sameKey run (kept mem)
  · exact fun run mem => wellFormed.sameName run (kept mem)
  · exact fun run mem => wellFormed.sameSpec run (kept mem)
  · exact wellFormed.weights
  · exact fun run mem => wellFormed.settled run (kept mem)
  · have ordered := wellFormed.ordered
    rw [Watched.versions, outstanding] at ordered
    exact (List.pairwise_cons.mp ordered).2
  · intro present deleted
    rw [Watched.persisted_of_deliver delivered] at present
    refine wellFormed.deletedLast present ?_
    rw [outstanding]
    exact .tail _ deleted

end WellFormed

/-! ## Copies -/

/-- `run` was read from the object, or written to it, and may be outdated. -/
structure Copy (object : RunObject) (run : Run) : Prop where
  name : run.name = object.created.name
  spec : run.fixedSpec = object.created.fixedSpec
  current : ∀ stored, object.view.persisted = some stored →
    run.resourceVersion ≤ stored.resourceVersion
  seen : none ∈ object.view.versions → object.view.persisted = none

/-- The copy is unmodified, and the versions before it show the Run waiting if the
copy does. -/
structure Tracks (object : RunObject) (run : Run) : Prop where
  settled : Settled run
  same : ∀ version, some version ∈ object.view.versions →
    version.resourceVersion = run.resourceVersion → version = run
  older : ∀ version, some version ∈ object.view.versions →
    version.resourceVersion < run.resourceVersion → run.isUnassignedPending = true →
      version.isUnassignedPending = true

/-- Every version up to the one that was read shows the Run waiting. -/
def Waits (object : RunObject) (run : Run) : Prop :=
  ∀ version, some version ∈ object.view.versions →
    version.resourceVersion ≤ run.resourceVersion → version.isUnassignedPending = true

/-- `next` is the same object after a write, a deletion or a delivery. -/
structure Later (object next : RunObject) : Prop where
  created : next.created = object.created
  versions : ∀ run, some run ∈ next.view.versions → some run ∈ object.view.versions ∨
      ∃ stored, object.view.persisted = some stored ∧ stored.resourceVersion < run.resourceVersion
  persisted : ∀ stored, next.view.persisted = some stored →
    ∃ old, object.view.persisted = some old ∧ old.resourceVersion ≤ stored.resourceVersion
  deleted : none ∈ next.view.versions → next.view.persisted = none ∨
    (none ∈ object.view.versions ∧ object.view.persisted ≠ none)

theorem Tracks.waits (tracks : Tracks object run) (pending : run.isUnassignedPending = true) :
    Waits object run := by
  intro version mem notLater
  rcases notLater.eq_or_lt with same | older
  · exact tracks.same version mem same ▸ pending
  · exact tracks.older version mem older pending

namespace Later

variable {object next : RunObject} {run : Run}

theorem copy (later : Later object next) (copy : Copy object run) : Copy next run := by
  constructor
  · exact later.created ▸ copy.name
  · exact later.created ▸ copy.spec
  · intro stored latest
    rcases later.persisted stored latest with ⟨old, oldPersisted, notLess⟩
    exact (copy.current old oldPersisted).trans notLess
  · intro deleted
    rcases later.deleted deleted with gone | ⟨unseen, present⟩
    · exact gone
    · exact absurd (copy.seen unseen) present

/-- A version that `next` adds is newer than every copy. -/
theorem mem_versions_of_le (later : Later object next) (copy : Copy object run)
    {version : Run} (mem : some version ∈ next.view.versions)
    (notLater : version.resourceVersion ≤ run.resourceVersion) :
    some version ∈ object.view.versions := by
  rcases later.versions version mem with old | ⟨stored, latest, newer⟩
  · exact old
  · exact absurd ((copy.current stored latest).trans_lt newer) notLater.not_gt

theorem tracks (later : Later object next) (copy : Copy object run)
    (tracks : Tracks object run) : Tracks next run := by
  constructor
  · exact tracks.settled
  · intro version mem same
    exact tracks.same version (later.mem_versions_of_le copy mem same.le) same
  · intro version mem older
    exact tracks.older version (later.mem_versions_of_le copy mem older.le) older

theorem waits (later : Later object next) (copy : Copy object run)
    (waits : Waits object run) : Waits next run :=
  fun version mem notLater =>
    waits version (later.mem_versions_of_le copy mem notLater) notLater

end Later

theorem later_write (persisted : object.view.persisted = some stored)
    (version : new.resourceVersion = stored.resourceVersion + 1) :
    Later object (object.write (some new)) := by
  constructor
  · rfl
  · intro run mem
    rcases Watched.mem_versions_write.mp mem with old | last
    · exact .inl old
    refine .inr ⟨stored, persisted, ?_⟩
    rw [Option.some.inj last, version]
    exact Nat.lt_succ_self _
  · intro latest latestPersisted
    refine ⟨stored, persisted, ?_⟩
    have same : some new = some latest := (Watched.persisted_write _ _).symm.trans latestPersisted
    rw [← Option.some.inj same, version]
    exact Nat.le_succ _
  · intro deleted
    rcases Watched.mem_versions_write.mp deleted with old | _
    · exact .inr ⟨old, by rw [persisted]; exact Option.some_ne_none _⟩
    · contradiction

theorem later_delete (object : RunObject) : Later object (object.write none) := by
  constructor
  · rfl
  · intro run mem
    rcases Watched.mem_versions_write.mp mem with old | _
    · exact .inl old
    · contradiction
  · intro latest persisted
    rw [RunObject.write, Watched.persisted_write] at persisted
    contradiction
  · intro _
    exact .inl (Watched.persisted_write _ _)

theorem later_deliver {view : Watched (Option Run)} (delivered : object.view.deliver = some view) :
    Later object { object with view } := by
  have samePersisted := Watched.persisted_of_deliver delivered
  constructor
  · rfl
  · exact fun run mem => .inl (Watched.mem_versions_of_deliver delivered mem)
  · intro latest persisted
    exact ⟨latest, samePersisted ▸ persisted, le_rfl⟩
  · intro deleted
    by_cases gone : object.view.persisted = none
    · exact .inl (samePersisted.trans gone)
    · exact .inr ⟨Watched.mem_versions_of_deliver delivered deleted, gone⟩

/-- The informer's copy is a copy that tracks the object. -/
theorem WellFormed.copy_of_cached (wellFormed : WellFormed key object)
    (cached : object.view.cached = some run) : Copy object run ∧ Tracks object run := by
  have mem := Watched.mem_versions_of_cached cached
  refine ⟨⟨wellFormed.sameName run mem, wellFormed.sameSpec run mem, ?_, ?_⟩,
    wellFormed.settled run mem, ?_, ?_⟩
  · intro stored latest
    exact wellFormed.resourceVersion_le latest mem
  · intro deleted
    by_contra present
    rw [Watched.versions, cached] at deleted
    rcases List.mem_cons.mp deleted with _ | tail
    · contradiction
    · exact wellFormed.deletedLast present tail
  · intro version versionMem same
    exact wellFormed.eq_of_resourceVersion_eq versionMem mem same
  · intro version versionMem older
    exact absurd older (wellFormed.le_resourceVersion cached versionMem).not_gt

end Kruntimes.Scheduler
