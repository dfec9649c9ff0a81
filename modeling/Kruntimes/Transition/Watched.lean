import Mathlib.Data.List.Basic

/-!
# Objects seen through a lagging watch

A client that watches a server keeps its own copy of each object.  The server
delivers the versions of an object in the order in which they were stored, but
any number of versions may still be on their way.  `Watched` records the copy
the client holds and the versions it has not received yet, oldest first.

Storing a version never changes the client's copy, and a delivery never changes
what is stored; a copy therefore lags by any amount but never goes back.
-/

namespace Kruntimes.Transition

universe u

/-- The delivered copy of an object together with its undelivered versions. -/
structure Watched (β : Type u) where
  cached : β
  undelivered : List β
  deriving DecidableEq

namespace Watched

variable {β : Type u} {object : Watched β}

/-- The version the server currently stores. -/
def persisted (object : Watched β) : β :=
  object.undelivered.getLastD object.cached

/-- Every version from the delivered copy on, oldest first. -/
def versions (object : Watched β) : List β :=
  object.cached :: object.undelivered

/-- Store a new version. -/
def write (object : Watched β) (version : β) : Watched β :=
  { object with undelivered := object.undelivered ++ [version] }

/-- Deliver the oldest outstanding version. -/
def deliver (object : Watched β) : Option (Watched β) :=
  match object.undelivered with
  | [] => none
  | version :: rest => some ⟨version, rest⟩

/-- Nothing is outstanding: the client's copy is the stored version. -/
def UpToDate (object : Watched β) : Prop :=
  object.undelivered = []

@[simp]
theorem cached_write (object : Watched β) (version : β) :
    (object.write version).cached = object.cached :=
  rfl

@[simp]
theorem persisted_write (object : Watched β) (version : β) :
    (object.write version).persisted = version := by
  simp [persisted, write]

theorem versions_write (object : Watched β) (version : β) :
    (object.write version).versions = object.versions ++ [version] :=
  rfl

/-- The stored version is the last one. -/
theorem exists_versions_eq_append (object : Watched β) :
    ∃ earlier, object.versions = earlier ++ [object.persisted] := by
  rcases object with ⟨cached, undelivered⟩
  rcases List.eq_nil_or_concat undelivered with rfl | ⟨initial, _, rfl⟩
  · exact ⟨[], rfl⟩
  · exact ⟨cached :: initial, by simp [versions, persisted]⟩

theorem mem_versions_write {version candidate : β} :
    candidate ∈ (object.write version).versions ↔
      candidate ∈ object.versions ∨ candidate = version := by
  simp [versions_write]

theorem cached_mem_versions (object : Watched β) : object.cached ∈ object.versions := .head _

theorem persisted_mem_versions (object : Watched β) :
    object.persisted ∈ object.versions := by
  rcases object.exists_versions_eq_append with ⟨_, split⟩
  rw [split]
  exact List.mem_append_right _ (.head _)

theorem mem_versions_of_cached {version : β} (cached : object.cached = version) :
    version ∈ object.versions :=
  cached ▸ object.cached_mem_versions

theorem mem_versions_of_persisted {version : β} (persisted : object.persisted = version) :
    version ∈ object.versions :=
  persisted ▸ object.persisted_mem_versions

theorem UpToDate.persisted_eq (upToDate : object.UpToDate) :
    object.persisted = object.cached := by
  simp [persisted, show object.undelivered = [] from upToDate]

theorem deliver_eq_some_iff (object next : Watched β) :
    object.deliver = some next ↔ object.undelivered = next.cached :: next.undelivered := by
  rcases object with ⟨_, undelivered⟩
  rcases next with ⟨_, _⟩
  cases undelivered with
  | nil | cons => simp [deliver]

/-- A delivery leaves the stored version alone. -/
theorem persisted_of_deliver {next : Watched β} (delivered : object.deliver = some next) :
    next.persisted = object.persisted := by
  have outstanding := (deliver_eq_some_iff object next).mp delivered
  rw [persisted, persisted, outstanding, List.getLastD_cons]

/-- A delivery only forgets the copy that it replaces. -/
theorem mem_versions_of_deliver {next : Watched β} (delivered : object.deliver = some next)
    {version : β} (mem : version ∈ next.versions) : version ∈ object.versions := by
  have outstanding := (deliver_eq_some_iff object next).mp delivered
  rw [versions, outstanding]
  exact .tail _ mem

end Watched

end Kruntimes.Transition
