import Kruntimes.Session.Fences

/-!
# The operation queue is a serial queue

At most one callback of a session runs, callbacks start in the order of admission,
every admitted operation gets exactly one result, and a session that was drained is
empty and stays closed to new operations.  All of it needs that nobody calls `Drain` for a
session that has no queue entry: `Drain` takes a missing entry for a drained one, and
leaves nothing behind that would refuse the next operation.
-/

namespace Kruntimes.Session

open Data Transition

variable {action : Action} {entry : Entry} {log : List Event} {i job : Nat} {queue : Queue}
  {uid : String}

/-! ## The queues come to rest -/

/-- The steps of the workers, of the callbacks and of the calls that are under way. -/
def Action.isInternal : Action → Bool
  | onAdmitted _ _ => true
  | closeAdmitted _ => true
  | receive _ => true
  | giveUp _ => true
  | work _ _ => true
  | callbackReturns _ _ => true
  | _ => false

/-- The steps a worker has ahead of it with the job it holds. -/
def Worker.remaining : Worker → Nat
  | awaiting _ => 8
  | admitted _ => 7
  | unclosed _ => 6
  | starting _ => 5
  | running _ _ => 4
  | delivering _ _ => 3
  | completing _ => 2
  | idle => 1
  | exited => 0

/-- The steps a call has ahead of it. -/
def Caller.remaining : Caller → Nat
  | admitting => 3
  | closing _ => 2
  | waiting => 1
  | returned _ => 0

/-- The steps the worker of an entry has ahead of it. -/
def Entry.remaining (entry : Entry) : Nat :=
  entry.worker.remaining + 8 * entry.jobs.length

/-- A bound for the steps until everything admitted so far is answered. -/
def Queue.remaining (queue : Queue) : Nat :=
  (queue.entries.map Entry.remaining).sum + (queue.jobs.map (·.caller.remaining)).sum

section Remaining

variable {queue next : Queue}

theorem remaining_onEntry_lt {change : Entry → Entry} (found : queue.entries[i]? = some entry)
    (less : (change entry).remaining < entry.remaining) :
    (queue.onEntry i change).remaining < queue.remaining :=
  Nat.add_lt_add_right (sum_map_modify_lt found less) _

theorem remaining_proceed_lt {job : Job} {caller : Caller} (known : queue.jobs[i]? = some job)
    (less : caller.remaining < job.caller.remaining) :
    (queue.onJob i (Job.proceed caller)).remaining < queue.remaining :=
  Nat.add_lt_add_left (sum_map_modify_lt known less) _

theorem remaining_onJob {change : Job → Job} (keeps : ∀ job, (change job).caller = job.caller) :
    (queue.onJob i change).remaining = queue.remaining := by
  have same : (queue.jobs.modify i change).map (fun job => job.caller.remaining) =
      queue.jobs.map fun job => job.caller.remaining :=
    map_modify (fun job => by rw [keeps job]) _ _
  unfold Queue.remaining
  rw [Queue.onJob_jobs, same]
  rfl

theorem Worker.SameStage.remaining {first second : Worker} (same : first.SameStage second) :
    second.remaining = first.remaining := by
  cases same <;> rfl

theorem remaining_endJob (job : Nat) (err : ContextErr) (queue : Queue) :
    (queue.endJob job err).remaining = queue.remaining := by
  unfold Queue.endJob
  cases queue.jobs[job]? with
  | none => rfl
  | some found =>
    have keeps (entry : Entry) :
        (entry.proceed (entry.worker.endContext job err)).remaining = entry.remaining :=
      congrArg (· + _) (Worker.sameStage_endContext job err entry.worker).remaining
    have same : (queue.entries.modify found.entry fun entry =>
        entry.proceed (entry.worker.endContext job err)).map Entry.remaining =
          queue.entries.map Entry.remaining :=
      map_modify keeps _ _
    have kept : (queue.onJob job (Job.endContext err)).remaining = queue.remaining :=
      remaining_onJob fun _ => rfl
    unfold Queue.remaining at kept ⊢
    dsimp only [Queue.onEntry_entries, Queue.onEntry_jobs]
    rw [← kept]
    exact congrArg (· + _) (congrArg List.sum same)

theorem remaining_leave_lt {found : Job} (outcome : Outcome)
    (known : queue.jobs[job]? = some found) (busy : 0 < found.caller.remaining) :
    (queue.leave job outcome).remaining < queue.remaining := by
  unfold Queue.leave
  rw [remaining_endJob]
  exact remaining_proceed_lt known busy

theorem remaining_onAdmitted_lt {err : Option Failure}
    (stepped : queue.onAdmitted job err = some next) : next.remaining < queue.remaining := by
  unfold Queue.onAdmitted at stepped
  split at stepped
  next known =>
    cases stepped
    cases err with
    | none => exact remaining_proceed_lt known (Nat.lt_succ_self _)
    | some =>
      have ended := Queue.getElem?_jobs_endJob .canceled known
      rw [← remaining_endJob job .canceled queue]
      exact remaining_proceed_lt ended (Nat.lt_succ_self _)
  · cases stepped

theorem remaining_closeAdmitted_lt (stepped : queue.closeAdmitted job = some next) :
    next.remaining < queue.remaining := by
  unfold Queue.closeAdmitted at stepped
  have admitted := Queue.getElem?_jobs_onJob queue job Job.letIn
  have kept : (queue.onJob job Job.letIn).remaining = queue.remaining :=
    remaining_onJob fun _ => rfl
  split at stepped
  next known =>
    cases stepped
    rw [known] at admitted
    rw [← kept]
    exact remaining_proceed_lt admitted (Nat.lt_succ_self _)
  next known =>
    cases stepped
    rw [known] at admitted
    rw [← kept]
    exact remaining_leave_lt _ admitted (Nat.succ_pos _)
  · cases stepped

theorem remaining_work_lt {seesDone : Bool} (stepped : queue.work i seesDone = some next) :
    next.remaining < queue.remaining := by
  obtain ⟨entry, found, worked⟩ := worked_of_work stepped
  have moves {worker} (less : worker.remaining < entry.worker.remaining) :
      (queue.moveWorker i worker).remaining < queue.remaining :=
    remaining_onEntry_lt found (Nat.add_lt_add_right less _)
  cases worked with
  | exit waits | see waits | pass waits | ready waits | start err waits =>
    apply moves
    rw [waits]
    exact Nat.lt_succ_self _
  | take idle queued =>
    apply remaining_onEntry_lt found
    simp only [Entry.remaining, idle, queued, Worker.remaining, List.length_cons]
    omega
  | settle waits =>
    apply moves
    rcases waits with waits | waits | waits | waits <;> simp [waits, Worker.remaining]
  | @deliver job outcome held delivers known =>
    have kept : (queue.onJob job (Job.deliver outcome)).remaining = queue.remaining :=
      remaining_onJob fun _ => rfl
    rw [← kept]
    refine remaining_onEntry_lt found (Nat.add_lt_add_right ?_ _)
    rw [delivers]
    exact Nat.lt_succ_self _
  | complete completes =>
    refine remaining_onEntry_lt found (Nat.add_lt_add_right ?_ _)
    rw [completes]
    exact Nat.lt_succ_self _

theorem remaining_callbackReturns_lt {returned : Outcome}
    (stepped : queue.callbackReturns i returned = some next) :
    next.remaining < queue.remaining := by
  unfold Queue.callbackReturns at stepped
  split at stepped
  next found =>
    cases stepped
    exact remaining_onEntry_lt found (Nat.add_lt_add_right (show 3 < 4 by decide) _)
  · cases stepped

/-- Every step of a worker, a callback or a call under way leaves less to do. -/
theorem remaining_step_lt (isInternal : action.isInternal = true)
    (stepped : Queue.step action queue = some next) : next.remaining < queue.remaining := by
  cases action with
  | onAdmitted => exact remaining_onAdmitted_lt stepped
  | closeAdmitted => exact remaining_closeAdmitted_lt stepped
  | receive | giveUp =>
    simp only [Queue.step, Queue.receive, Queue.giveUp] at stepped
    split at stepped
    next known =>
      cases stepped
      exact remaining_leave_lt _ known (Nat.succ_pos _)
    · cases stepped
  | work => exact remaining_work_lt stepped
  | callbackReturns => exact remaining_callbackReturns_lt stepped
  | _ => cases isInternal

end Remaining

/-! ## Nothing is left behind -/

section Rest

variable {queue : Queue}

theorem Event.mem_of_acceptedAt (mem : job ∈ log.filterMap (acceptedAt i)) :
    ∃ uid, Event.accepted uid i job ∈ log := by
  obtain ⟨event, inside, read⟩ := List.mem_filterMap.mp mem
  cases event with
  | accepted uid entry other =>
    obtain ⟨rfl, rfl⟩ : entry = i ∧ other = job := by simpa [acceptedAt] using read
    exact ⟨uid, inside⟩
  | _ => cases read

theorem Event.mem_of_deliveredAt (mem : job ∈ log.filterMap (deliveredAt i)) :
    ∃ uid, Event.delivered uid i job ∈ log := by
  obtain ⟨event, inside, read⟩ := List.mem_filterMap.mp mem
  cases event with
  | delivered uid entry other =>
    obtain ⟨rfl, rfl⟩ : entry = i ∧ other = job := by simpa [deliveredAt] using read
    exact ⟨uid, inside⟩
  | _ => cases read

theorem Event.mem_acceptedAt (inside : Event.accepted uid i job ∈ log) :
    job ∈ log.filterMap (acceptedAt i) :=
  List.mem_filterMap.mpr ⟨_, inside, if_pos rfl⟩

/-- A job that went into a channel is known. -/
theorem LogSound.exists_job (sound : LogSound queue) (mem : Event.accepted uid i job ∈ queue.log) :
    ∃ found, queue.jobs[job]? = some found := by
  have listed : job ∈ queue.log.filterMap Event.acceptedJob := List.mem_filterMap.mpr ⟨_, mem, rfl⟩
  rw [sound.accepted, List.mem_range] at listed
  exact ⟨_, List.getElem?_eq_getElem listed⟩

/-- The job a worker holds was put into the channel of its entry. -/
theorem EntrySound.accepted_of_undelivered (sound : EntrySound log i entry)
    (holds : job ∈ entry.worker.undelivered) :
    ∃ uid, Event.accepted uid i job ∈ log := by
  apply Event.mem_of_acceptedAt
  rw [sound.accepted]
  exact List.mem_append_left _ (List.mem_append_right _ holds)

/-- When no call is before the point where it lets the worker go on, a worker that has
something to do can do it. -/
theorem Sound.enabled (sound : Sound queue) (found : queue.entries[i]? = some entry)
    (past : ∀ (job : Nat) (known : Job), queue.jobs[job]? = some known →
      known.admitted = true) (busy : entry.worker.undelivered ≠ [] ∨ entry.jobs ≠ []) :
    ∃ action next, action.isInternal = true ∧ Queue.step action queue = some next := by
  have place := sound.entries.entry i entry found
  have known {job : Nat} (holds : entry.worker.undelivered = [job]) :
      ∃ held, queue.jobs[job]? = some held := by
    obtain ⟨_, mem⟩ := place.accepted_of_undelivered (holds ▸ List.mem_singleton_self _)
    exact sound.log.exists_job mem
  have works {next : Queue} (stepped : queue.work i false = some next) :
      ∃ action next, action.isInternal = true ∧ Queue.step action queue = some next :=
    ⟨.work i false, next, rfl, stepped⟩
  cases holds : entry.worker with
  | idle =>
    cases queued : entry.jobs with
    | nil => simp [holds, queued, Worker.undelivered] at busy
    | cons =>
      apply works
      simp only [Queue.work, found, holds, queued]
      rfl
  | awaiting job =>
    obtain ⟨held, here⟩ := known (by rw [holds]; rfl)
    apply works
    simp only [Queue.work, found, holds, here, past job held here]
    rfl
  | admitted | completing =>
    apply works
    simp only [Queue.work, found, holds]
    rfl
  | unclosed =>
    obtain ⟨held, here⟩ := known (by rw [holds]; rfl)
    cases ended : held.ctxErr with
    | none | some =>
      apply works
      simp only [Queue.work, found, holds, here, ended]
      rfl
  | starting =>
    obtain ⟨_, here⟩ := known (by rw [holds]; rfl)
    cases closed : entry.closed with
    | false | true =>
      apply works
      simp only [Queue.work, found, holds, here, closed]
      rfl
  | running job err =>
    refine ⟨.callbackReturns i {},
      queue.moveWorker i (.delivering job (Queue.operationOutcome err {})), rfl, ?_⟩
    rw [Queue.step, Queue.callbackReturns, found]
    cases entry
    cases holds
    rfl
  | delivering =>
    obtain ⟨_, here⟩ := known (by rw [holds]; rfl)
    apply works
    simp only [Queue.work, found, holds, here]
    rfl
  | exited =>
    have gone := (place.exited holds).1
    simp [holds, gone, Worker.undelivered] at busy

/-- When no worker, callback or call can go on, every job has its result and every call
has returned. -/
theorem Sound.settled_of_quiet (sound : Sound queue)
    (quiet : ∀ action, action.isInternal = true → Queue.step action queue = none) {job : Job}
    (known : queue.jobs[i]? = some job) :
    Event.delivered job.uid job.entry i ∈ queue.log ∧
      ∃ outcome, job.caller = .returned outcome := by
  have past (j : Nat) (other : Job) (here : queue.jobs[j]? = some other) :
      other.caller.isPast = true := by
    cases stage : other.caller with
    | admitting =>
      have stuck := quiet (.onAdmitted j none) rfl
      rw [Queue.step, Queue.onAdmitted, here] at stuck
      cases other
      cases stage
      cases stuck
    | closing err =>
      have stuck := quiet (.closeAdmitted j) rfl
      rw [Queue.step, Queue.closeAdmitted, here] at stuck
      cases other
      cases stage
      cases err <;> cases stuck
    | waiting | returned => rfl
  have mem := sound.log.jobs i job known
  obtain ⟨_, found, named⟩ := sound.log.place _ mem _ _ rfl
  have place := sound.entries.entry _ _ found
  have delivered : Event.delivered job.uid job.entry i ∈ queue.log := by
    have listed := Event.mem_acceptedAt mem
    rw [place.accepted, List.append_assoc, List.mem_append] at listed
    rcases listed with answered | left
    · obtain ⟨_, inside⟩ := Event.mem_of_deliveredAt answered
      obtain ⟨_, same, uidSame⟩ := sound.log.place _ inside _ _ rfl
      cases found.symm.trans same
      rw [← named, uidSame]
      exact inside
    · obtain ⟨action, _, isInternal, stepped⟩ := sound.enabled found
        (fun j other here => sound.admission.past j other here (past _ _ here)) (by
          rcases List.mem_append.mp left with held | queued
          · exact .inl (List.ne_nil_of_mem held)
          · exact .inr (List.ne_nil_of_mem queued))
      rw [quiet action isInternal] at stepped
      cases stepped
  refine ⟨delivered, ?_⟩
  cases stage : job.caller with
  | returned outcome => exact ⟨outcome, rfl⟩
  | waiting =>
    obtain ⟨_, same, sent⟩ := sound.log.results _ _ _ delivered
    cases known.symm.trans same
    obtain ⟨_, here⟩ := Option.isSome_iff_exists.mp sent
    have stuck := quiet (.receive i) rfl
    rw [Queue.step, Queue.receive, known] at stuck
    cases job
    cases stage
    cases here
    cases stuck
  | admitting | closing =>
    have later := past i job known
    rw [stage] at later
    cases later

end Rest

/-! ## One session -/

namespace Event

/-- The job of a session that an event puts into a channel. -/
def acceptedOf (uid : String) : Event → Option Nat
  | accepted name _ job => if name = uid then some job else none
  | _ => none

/-- The job of a session whose callback an event starts. -/
def startedOf (uid : String) : Event → Option Nat
  | started name _ job => if name = uid then some job else none
  | _ => none

/-- The job of a session whose result an event delivers. -/
def deliveredOf (uid : String) : Event → Option Nat
  | delivered name _ job => if name = uid then some job else none
  | _ => none

/-- `Drain` of a session returned true. -/
def endsDrain (uid : String) : Event → Bool
  | drained name _ answer => name == uid && answer
  | _ => false

end Event

/-- `Drain` of a session has returned true. -/
def Queue.drained (uid : String) (queue : Queue) : Bool :=
  queue.log.any (Event.endsDrain uid)

/-- The guarantees of the queue for one session. -/
structure SerialFifo (queue : Queue) (uid : String) : Prop where
  /-- At most one callback runs. -/
  serial : ∀ (first second : Nat) (one other : Entry) (a b : Nat) (x y : Option ContextErr),
    queue.entries[first]? = some one → queue.entries[second]? = some other →
      one.uid = uid → other.uid = uid → one.worker = .running a x →
        other.worker = .running b y → first = second
  /-- Callbacks start in the order of admission. -/
  ordered : (queue.log.filterMap (Event.startedOf uid)).Sublist
    (queue.log.filterMap (Event.acceptedOf uid))
  /-- No operation gets a second result. -/
  once : (queue.log.filterMap (Event.deliveredOf uid)).Nodup
  /-- The steps of workers, callbacks and calls come to an end, and then every operation
  admitted so far has its result and its call has returned. -/
  settles : ∀ (actions : List Action) (next : Queue),
    (∀ action ∈ actions, action.isInternal = true) → run Queue.step actions queue = some next →
        actions.length ≤ queue.remaining ∧
          ((∀ action, action.isInternal = true → Queue.step action next = none) →
            ∀ (index : Nat) (job : Job), next.jobs[index]? = some job → job.uid = uid →
              Event.delivered uid job.entry index ∈ next.log ∧
                ∃ outcome, job.caller = .returned outcome)
  /-- An operation whose admission failed does not run. -/
  unadmitted : ∀ entry place job, Event.failed uid place job ∈ queue.log →
    Event.started uid entry job ∉ queue.log
  /-- The channel never holds more than its bound. -/
  bounded : ∀ (index : Nat) (entry : Entry), queue.entries[index]? = some entry →
    entry.uid = uid → entry.jobs.length ≤ entry.capacity
  /-- After a `Drain` that returned true nothing is waiting or running. -/
  empty : queue.drained uid = true → ∀ (index : Nat) (entry : Entry),
    queue.entries[index]? = some entry → entry.uid = uid →
      entry.jobs = [] ∧ (entry.worker = .idle ∨ entry.worker = .exited)
  /-- After a `Drain` that returned true nothing is admitted. -/
  refused : queue.log.Pairwise fun earlier later =>
    earlier.endsDrain uid = true → later.acceptedOf uid = none

/-! ## The condition on the callers -/

/-- No entry is created for a session after a `Drain` that returned true, and `Drain` is
not called while a closed entry of the session still works.  No operation is submitted
after `Close`. -/
def Action.respectsDrain (action : Action) (queue : Queue) : Prop :=
  match action with
  | .ensure run => queue.sessions.lookup run.uid ≠ none ∨ queue.drained run.uid = false
  | .execute run => Event.closed run.uid ∉ queue.log ∧
      (queue.sessions.lookup run.uid ≠ none ∨ queue.drained run.uid = false)
  | .drain uid => ∀ entry ∈ queue.entries, entry.uid = uid → entry.closed = true → entry.pending = 0
  | _ => True

instance (action : Action) (queue : Queue) : Decidable (action.respectsDrain queue) :=
  match action with
  | .ensure _ => inferInstanceAs (Decidable (_ ∨ _))
  | .execute _ => inferInstanceAs (Decidable (_ ∧ _))
  | .drain uid => inferInstanceAs (Decidable (∀ entry ∈ queue.entries, entry.uid = uid →
      entry.closed = true → entry.pending = 0))
  | .onAdmitted _ _ | .closeAdmitted _ | .endContext _ _ | .receive _ | .giveUp _ | .work _ _
  | .callbackReturns _ _ | .expire _ | .close _ | .cancelActive _ =>
    inferInstanceAs (Decidable True)

/-- The same condition on the event that an action records. -/
def AllowedByDrain (queue : Queue) : Event → Prop
  | .created uid _ => queue.drained uid = false
  | .accepted uid _ _ => Event.closed uid ∉ queue.log
  | .drained uid _ _ => ∀ (index : Nat) (entry : Entry), queue.entries[index]? = some entry →
      entry.uid = uid → entry.closed = true → entry.pending = 0
  | _ => True

theorem permits_of_respectsDrain (respects : action.respectsDrain queue) :
    Permits AllowedByDrain queue action := by
  cases action with
  | ensure =>
    intro absent
    exact respects.resolve_left (not_not_intro absent)
  | execute run =>
    constructor
    · intro absent
      exact respects.2.resolve_left (not_not_intro absent)
    · intro limits named i job
      change Event.closed run.uid ∉ (queue.ensureEntry limits).2.log
      unfold Queue.ensureEntry
      split
      · exact respects.1
      · simpa using respects.1
  | drain =>
    intro found answer _ i entry known
    exact respects entry (List.mem_of_getElem? known)
  | _ => trivial

theorem movesWithin_of_respectsDrain {next : Queue} (respects : action.respectsDrain queue)
    (stepped : Queue.step action queue = some next) :
    MovesWithin AllowedByDrain queue next := by
  refine movesWithin_of_step ?_ (permits_of_respectsDrain respects) stepped
  intro queue event routine
  cases event with
  | created | accepted | drained => cases routine
  | _ => trivial

/-! ## What the condition keeps -/

/-- A `Drain` that returned true, as a fence. -/
def drainFence : Fence where
  isFence := Event.endsDrain
  kind := by
    intro uid event holds
    cases event with
    | drained name found answer =>
      simp only [Event.endsDrain, Bool.and_eq_true, beq_iff_eq] at holds
      obtain ⟨rfl, rfl⟩ := holds
      exact .inr ⟨found, rfl⟩
    | _ => cases holds

theorem passed_drainFence_iff :
    drainFence.Passed uid queue ↔ queue.drained uid = true :=
  List.any_eq_true.symm

/-- The operations of a session are in one entry, and nothing is in a drained one. -/
structure Orderly (queue : Queue) : Prop where
  current : ∀ uid index job, Event.accepted uid index job ∈ queue.log →
    Event.closed uid ∉ queue.log → queue.sessions.lookup uid = some index
  single : ∀ uid first second a b, Event.accepted uid first a ∈ queue.log →
    Event.accepted uid second b ∈ queue.log → first = second
  quiet : drainFence.Quiet queue
  empty : ∀ uid, drainFence.Passed uid queue → ∀ (index : Nat) (entry : Entry),
    queue.entries[index]? = some entry → entry.uid = uid → entry.closed = true → entry.pending = 0
  refused : ∀ uid, queue.log.Pairwise fun earlier later =>
    earlier.endsDrain uid = true → later.acceptedOf uid = none

theorem Orderly.empty_move {next : Queue} (orderly : Orderly queue)
    (moved : MoveWithin AllowedByDrain queue next) (uid : String)
    (passed : drainFence.Passed uid next) (i : Nat) (entry : Entry)
    (found : next.entries[i]? = some entry) (named : entry.uid = uid)
    (closed : entry.closed = true) : entry.pending = 0 := by
  obtain ⟨move, allows⟩ := moved
  cases move with
  | create =>
    rcases getElem?_concat_eq_some_iff.mp found with known | ⟨rfl, rfl⟩
    · exact orderly.empty uid (passed.earlier rfl rfl) i entry known named closed
    · cases closed
  | @enqueue name place other mapped known accepting room =>
    rcases getElem?_modify_cases known found with ⟨rfl, rfl⟩ | ⟨_, old⟩
    · simp [Entry.accepting, show other.closed = true from closed] at accepting
    · exact orderly.empty uid (passed.earlier rfl rfl) i entry old named closed
  | refuse | fail | closeAbsent =>
    exact orderly.empty uid (passed.earlier rfl rfl) i entry found named closed
  | job => exact orderly.empty uid passed i entry found named closed
  | @entry place other events change known changed =>
    have before := passed.of_entryMove rfl changed
    rcases getElem?_modify_cases known found with ⟨rfl, rfl⟩ | ⟨_, old⟩
    · rw [changed.uid] at named
      rw [changed.closed] at closed
      have none := orderly.empty uid before _ other known named closed
      exact Nat.le_zero.mp (none ▸ changed.pending_le)
    · exact orderly.empty uid before i entry old named closed
  | @drain name place other mapped known =>
    obtain ⟨source, old, rfl⟩ := getElem?_modify_eq_some_iff.mp found
    have flagged : (if place = i then { source with draining := true } else source) =
        { source with draining := (if place = i then true else source.draining) } := by
      split <;> rfl
    rw [flagged] at named closed ⊢
    rcases passed.cases rfl with before | same | ⟨_, same⟩
    · exact orderly.empty uid before i source old named closed
    · cases same
    · exact allows _ rfl i source old ((Event.drained.inj same).1 ▸ named) closed
  | @drainAbsent name absent =>
    rcases passed.cases rfl with before | same | ⟨_, same⟩
    · exact orderly.empty uid before i entry found named closed
    · cases same
    · exact allows _ rfl i entry found ((Event.drained.inj same).1 ▸ named) closed
  | @close name place mapped =>
    have before : drainFence.Passed uid queue := passed.earlier rfl rfl
    obtain ⟨source, old, rfl⟩ := getElem?_modify_eq_some_iff.mp found
    have same : (if place = i then { source with closed := true, cancelDue := true }
        else source).pending = source.pending ∧
      (if place = i then { source with closed := true, cancelDue := true }
        else source).uid = source.uid := by
      split <;> exact ⟨rfl, rfl⟩
    rw [same.1]
    rw [same.2] at named
    cases isOpen : source.closed with
    | true => exact orderly.empty uid before i source old named isOpen
    | false => exact (orderly.quiet uid before i source old named isOpen).2

theorem Orderly.move {next : Queue} (orderly : Orderly queue) (map : MapSound queue)
    (moved : MoveWithin AllowedByDrain queue next) : Orderly next := by
  constructor
  · intro uid i job mem opened
    have stays : Event.closed uid ∉ queue.log := fun inside => opened (moved.1.log_subset inside)
    have mapped : queue.sessions.lookup uid = some i := by
      rcases moved.mem_log mem with mem | ⟨origin, _⟩
      · exact orderly.current uid i job mem stays
      · exact origin.2.1
    rcases moved.1.lookup uid with same | absent | closed
    · exact same.trans mapped
    · cases mapped.symm.trans absent
    · exact absurd closed opened
  · intro uid first second a b one other
    rcases moved.mem_log one with one | ⟨origin, opened⟩
    · rcases moved.mem_log other with other | ⟨origin, opened⟩
      · exact orderly.single uid first second a b one other
      have mapped := orderly.current uid first a one opened
      rw [origin.2.1] at mapped
      exact (Option.some.inj mapped).symm
    · rcases moved.mem_log other with other | ⟨origin', _⟩
      · have mapped := orderly.current uid second b other opened
        rw [origin.2.1] at mapped
        exact Option.some.inj mapped
      · exact Option.some.inj (origin.2.1.symm.trans origin'.2.1)
  · exact orderly.quiet.move map moved.1 fun uid i grown passed => by
      have fresh : queue.drained uid = false := moved.2 _ grown
      rw [passed_drainFence_iff.mp passed] at fresh
      cases fresh
  · exact orderly.empty_move moved
  · intro uid
    refine moved.pairwise_log (orderly.refused uid) fun later origin _ earlier inside ends => ?_
    cases later with
    | accepted name i =>
      obtain ⟨_, mapped, _, found, accepting⟩ := origin
      obtain ⟨_, known, named, _⟩ := map.mapped name i mapped
      cases found.symm.trans known
      refine if_neg ?_
      rintro rfl
      exact orderly.quiet.not_passed found accepting (named ▸ ⟨earlier, inside, ends⟩)
    | _ => rfl

theorem Orderly.moves {next : Queue} (orderly : Orderly queue) (sound : Sound queue)
    (moved : MovesWithin AllowedByDrain queue next) : Orderly next := by
  suffices both : Sound next ∧ Orderly next from both.2
  induction moved with
  | refl => exact ⟨sound, orderly⟩
  | tail _ last ih => exact ⟨ih.1.move last.1, ih.2.move ih.1.map last⟩

theorem orderly_newQueue (config : QueueConfig) : Orderly (newQueue config) := by
  constructor <;> simp [newQueue, Fence.Quiet, Fence.Passed]

/-! ## From the entry to the session -/

section Session

variable {queue : Queue} {uid : String}

theorem EntrySound.accepted_of_started (sound : EntrySound log i entry) :
    (log.filterMap (Event.startedAt i)).Sublist (log.filterMap (Event.acceptedAt i)) := by
  rw [sound.accepted]
  refine sound.started.trans (List.Sublist.trans ?_ (List.sublist_append_left _ _))
  refine (List.Sublist.refl _).append ?_
  cases holds : entry.worker <;> simp [Worker.begun, Worker.undelivered]

/-- A job that was accepted at the entry of an event was accepted for its session. -/
theorem Sound.accepted_of_listed (sound : Sound queue) {event : Event}
    (mem : event ∈ queue.log) (place : event.place = some (uid, i))
    (listed : job ∈ queue.log.filterMap (Event.acceptedAt i)) :
    Event.accepted uid i job ∈ queue.log := by
  obtain ⟨_, found, named⟩ := sound.log.place _ mem _ _ place
  obtain ⟨_, inside⟩ := Event.mem_of_acceptedAt listed
  obtain ⟨_, same, named'⟩ := sound.log.place _ inside _ _ rfl
  cases found.symm.trans same
  rw [← named, named']
  exact inside

theorem Sound.accepted_of_started (sound : Sound queue)
    (mem : Event.started uid i job ∈ queue.log) :
    Event.accepted uid i job ∈ queue.log := by
  obtain ⟨entry, found, _⟩ := sound.log.place _ mem _ _ rfl
  have listed : job ∈ queue.log.filterMap (Event.startedAt i) :=
    List.mem_filterMap.mpr ⟨_, mem, if_pos rfl⟩
  exact sound.accepted_of_listed mem rfl
    ((sound.entries.entry i entry found).accepted_of_started.subset listed)

theorem Sound.accepted_of_delivered (sound : Sound queue)
    (mem : Event.delivered uid i job ∈ queue.log) :
    Event.accepted uid i job ∈ queue.log := by
  obtain ⟨entry, found, _⟩ := sound.log.place _ mem _ _ rfl
  have listed : job ∈ queue.log.filterMap (Event.deliveredAt i) :=
    List.mem_filterMap.mpr ⟨_, mem, if_pos rfl⟩
  have place := (sound.entries.entry i entry found).accepted
  exact sound.accepted_of_listed mem rfl (place ▸
    List.mem_append_left entry.jobs (List.mem_append_left entry.worker.undelivered listed))

/-- With all its operations in one entry, what happened to a session is what happened to
that entry. -/
theorem Orderly.reads (orderly : Orderly queue) (sound : Sound queue)
    (mem : Event.accepted uid i job ∈ queue.log) :
    queue.log.filterMap (Event.acceptedOf uid) = queue.log.filterMap (Event.acceptedAt i) ∧
      queue.log.filterMap (Event.startedOf uid) = queue.log.filterMap (Event.startedAt i) ∧
        queue.log.filterMap (Event.deliveredOf uid) =
          queue.log.filterMap (Event.deliveredAt i) := by
  obtain ⟨entry, found, named⟩ := sound.log.place _ mem _ _ rfl
  -- An operation is one of the session exactly when it is in the entry.
  have agrees {name place other}
      (inside : Event.accepted name place other ∈ queue.log) : name = uid ↔ place = i := by
    constructor
    · rintro rfl
      exact orderly.single name place i other job inside mem
    · rintro rfl
      obtain ⟨_, here, named'⟩ := sound.log.place _ inside _ _ rfl
      cases found.symm.trans here
      exact named'.symm.trans named
  refine ⟨List.filterMap_congr fun event inside => ?_, List.filterMap_congr fun event inside => ?_,
    List.filterMap_congr fun event inside => ?_⟩
  · cases event with
    | accepted => simp only [Event.acceptedOf, Event.acceptedAt, agrees inside]
    | _ => rfl
  · cases event with
    | started =>
      simp only [Event.startedOf, Event.startedAt, agrees (sound.accepted_of_started inside)]
    | _ => rfl
  · cases event with
    | delivered =>
      simp only [Event.deliveredOf, Event.deliveredAt, agrees (sound.accepted_of_delivered inside)]
    | _ => rfl

theorem LogSound.nodup_acceptedAt (sound : LogSound queue) (i : Nat) :
    (queue.log.filterMap (Event.acceptedAt i)).Nodup := by
  have all : (queue.log.filterMap Event.acceptedJob).Nodup := by
    rw [sound.accepted]
    exact List.nodup_range
  have here : Event.acceptedAt i = fun event =>
      if event.site == some i then event.acceptedJob else none := by
    funext event
    cases event <;> simp [Event.acceptedAt, Event.site, Event.acceptedJob]
  rw [here, ← List.filterMap_filter]
  exact all.sublist (List.filter_sublist.filterMap _)

section Order

variable (orderly : Orderly queue) (sound : Sound queue)

include orderly sound

theorem Orderly.ordered (uid : String) :
    (queue.log.filterMap (Event.startedOf uid)).Sublist
      (queue.log.filterMap (Event.acceptedOf uid)) := by
  by_cases used : ∃ i job, Event.accepted uid i job ∈ queue.log
  · obtain ⟨i, _, mem⟩ := used
    obtain ⟨accepted, started, _⟩ := orderly.reads sound mem
    obtain ⟨entry, found, _⟩ := sound.log.place _ mem _ _ rfl
    rw [accepted, started]
    exact (sound.entries.entry i entry found).accepted_of_started
  · have none : queue.log.filterMap (Event.startedOf uid) = [] := by
      refine List.filterMap_eq_nil_iff.mpr fun event inside => ?_
      cases event with
      | started name i job =>
        refine if_neg ?_
        rintro rfl
        exact used ⟨i, job, sound.accepted_of_started inside⟩
      | _ => rfl
    rw [none]
    exact List.nil_sublist _

theorem Orderly.once (uid : String) :
    (queue.log.filterMap (Event.deliveredOf uid)).Nodup := by
  by_cases used : ∃ i job, Event.accepted uid i job ∈ queue.log
  · obtain ⟨i, _, mem⟩ := used
    obtain ⟨entry, found, _⟩ := sound.log.place _ mem _ _ rfl
    have all := sound.log.nodup_acceptedAt i
    rw [(sound.entries.entry i entry found).accepted, List.append_assoc] at all
    rw [(orderly.reads sound mem).2.2]
    exact all.sublist (List.sublist_append_left _ _)
  · have none : queue.log.filterMap (Event.deliveredOf uid) = [] := by
      refine List.filterMap_eq_nil_iff.mpr fun event inside => ?_
      cases event with
      | delivered name i job =>
        refine if_neg ?_
        rintro rfl
        exact used ⟨i, job, sound.accepted_of_delivered inside⟩
      | _ => rfl
    rw [none]
    exact List.nodup_nil

theorem Orderly.serial {first second : Nat} {one other : Entry} {a b : Nat}
    {x y : Option ContextErr} (here : queue.entries[first]? = some one)
    (there : queue.entries[second]? = some other) (named : one.uid = uid)
    (named' : other.uid = uid) (runs : one.worker = .running a x)
    (runs' : other.worker = .running b y) : first = second := by
  have accepted {i job entry err}
      (found : queue.entries[i]? = some entry) (named : entry.uid = uid)
      (runs : entry.worker = .running job err) : Event.accepted uid i job ∈ queue.log := by
    have holds : job ∈ entry.worker.undelivered := by
      rw [runs]
      exact List.mem_singleton_self _
    obtain ⟨_, mem⟩ := (sound.entries.entry i entry found).accepted_of_undelivered holds
    obtain ⟨_, known, place⟩ := sound.log.place _ mem _ _ rfl
    cases found.symm.trans known
    rw [← named, place]
    exact mem
  exact orderly.single uid first second a b (accepted here named runs) (accepted there named' runs')

end Order

theorem Worker.rests_of_held {worker : Worker} (none : worker.held = 0) :
    worker = .idle ∨ worker = .exited := by
  cases worker with
  | idle => exact .inl rfl
  | exited => exact .inr rfl
  | _ => cases none

theorem Orderly.serialFifo (orderly : Orderly queue) (sound : Sound queue) (uid : String) :
    SerialFifo queue uid where
  serial _ _ _ _ _ _ _ _ here there named named' runs runs' :=
    orderly.serial sound here there named named' runs runs'
  ordered := orderly.ordered sound uid
  once := orderly.once sound uid
  settles := by
    intro actions next isInternal ran
    have bound := length_add_le_of_run
      (fun action mem => remaining_step_lt (isInternal action mem)) ran
    refine ⟨Nat.le_of_add_right_le bound, ?_⟩
    intro quiet i job known named
    have later : Sound next := by
      refine invariant_of_run ?_ sound ran
      intro action source target before stepped
      exact before.step stepped
    have settled := later.settled_of_quiet quiet known
    rwa [named] at settled
  unadmitted := by
    intro entry place job failed started
    exact (sound.admission.started uid entry job started).2 uid place failed
  bounded := by
    intro i entry found _
    exact (sound.entries.entry i entry found).bounded
  empty := by
    intro drained i entry found named
    have passed := passed_drainFence_iff.mpr drained
    have none : entry.pending = 0 := by
      cases isOpen : entry.closed with
      | true => exact orderly.empty uid passed i entry found named isOpen
      | false => exact (orderly.quiet uid passed i entry found named isOpen).2
    rw [(sound.entries.entry i entry found).pending] at none
    exact ⟨List.eq_nil_of_length_eq_zero (by omega), Worker.rests_of_held (by omega)⟩
  refused := orderly.refused uid

end Session

/-- In every run in which no operation is submitted after `Close`, no entry is created
after `Drain` has returned true and `Drain` is not called over a closed entry at work, the
queue of every session is a serial queue that can be drained. -/
theorem serialFifo_of_guarded_run {config : QueueConfig} {actions : List Action} {queue : Queue}
    (ran : run (restrict Action.respectsDrain Queue.step) actions (newQueue config) =
      some queue) (uid : String) : SerialFifo queue uid := by
  have both : Sound queue ∧ Orderly queue := by
    refine invariant_of_guarded_run _ _ (fun queue => Sound queue ∧ Orderly queue) ?_
      ⟨sound_newQueue config, orderly_newQueue config⟩ ran
    rintro _ _ _ respects ⟨sound, orderly⟩ stepped
    have moved := movesWithin_of_respectsDrain respects stepped
    exact ⟨sound.moves moved, orderly.moves sound moved⟩
  exact both.2.serialFifo both.1 uid

/-- Two operations of a session, one after the other, and then `Drain`. -/
def drainAfterTwo : List Action :=
  [.execute { uid := "uid-1" }, .execute { uid := "uid-1" }, .onAdmitted 0 none,
    .closeAdmitted 0, .work 0 false, .work 0 false, .work 0 false, .work 0 false, .work 0 false,
    .drain "uid-1", .callbackReturns 0 {}, .work 0 false, .work 0 false, .receive 0,
    .work 0 false, .endContext 1 .canceled, .work 0 true, .work 0 false, .work 0 false,
    .drain "uid-1", .close "uid-1"]

theorem serialFifo_drainAfterTwo :
    ∃ queue, run (restrict Action.respectsDrain Queue.step) drainAfterTwo
        (newQueue (newQueueConfig 0 0)) = some queue ∧
      queue.drained "uid-1" = true ∧ SerialFifo queue "uid-1" := by
  apply exists_reached_and
  · decide +kernel
  · exact fun _ ran _ => serialFifo_of_guarded_run ran "uid-1"

/-- `Drain` of a session that has no entry yet returns true, and the next operation is
admitted. -/
theorem exists_not_serialFifo :
    ∃ queue, run Queue.step [.drain "uid-1", .execute { uid := "uid-1" }]
        (newQueue (newQueueConfig 0 0)) = some queue ∧ ¬SerialFifo queue "uid-1" := by
  refine exists_reached (fun queue => queue.log =
    [.drained "uid-1" false true, .created "uid-1" 0, .accepted "uid-1" 0 0])
    (by decide +kernel) ?_
  intro queue _ same holds
  have refused := holds.refused
  rw [same] at refused
  revert refused
  decide

/-! ## Every run -/

section

variable {config : QueueConfig} {actions : List Action}
  (ran : run Queue.step actions (newQueue config) = some queue)

include ran

theorem sound_of_run : Sound queue :=
  invariant_of_run (fun sound stepped => Sound.step sound stepped) (sound_newQueue config) ran

/-- No job is lost or overtaken, however calls, `Drain` and `Close` interleave. -/
theorem entrySound_of_run (found : queue.entries[i]? = some entry) :
    EntrySound queue.log i entry :=
  (sound_of_run ran).entries.entry i entry found

/-- Then too every queue comes to rest, with a result for each operation. -/
theorem settles_of_run {later : List Action} {next : Queue}
    (isInternal : ∀ action ∈ later, action.isInternal = true)
    (continued : run Queue.step later queue = some next) :
    later.length ≤ queue.remaining ∧
      ((∀ action, action.isInternal = true → Queue.step action next = none) →
        ∀ i job, next.jobs[i]? = some job → Event.delivered job.uid job.entry i ∈ next.log ∧
          ∃ outcome, job.caller = .returned outcome) := by
  constructor
  · exact Nat.le_of_add_right_le
      (length_add_le_of_run (fun _ mem => remaining_step_lt (isInternal _ mem)) continued)
  · intro quiet i job known
    have whole : run Queue.step (actions ++ later) (newQueue config) = some next := by
      rw [run_append, ran, Option.bind_some, continued]
    exact (sound_of_run whole).settled_of_quiet quiet known

end

theorem entrySound_drainAfterTwo :
    ∃ queue, run Queue.step drainAfterTwo (newQueue (newQueueConfig 0 0)) = some queue ∧
      ∃ entry, EntrySound queue.log 0 entry := by
  refine exists_reached (·.entries[0]?.isSome = true) (by decide +kernel) ?_
  intro _ ran present
  exact (Option.isSome_iff_exists.mp present).imp fun _ => entrySound_of_run ran

/-- Every call has returned, and every worker waits for a job. -/
def Queue.isAtRest (queue : Queue) : Bool :=
  queue.jobs.all (fun job => job.caller matches .returned _) &&
    queue.entries.all fun entry => decide (entry.worker = .idle) && entry.jobs.isEmpty &&
      !entry.closed

/-- At rest nothing can go on. -/
theorem step_of_isAtRest (rests : queue.isAtRest = true) (isInternal : action.isInternal = true) :
    Queue.step action queue = none := by
  simp only [Queue.isAtRest, Bool.and_eq_true, List.all_eq_true, decide_eq_true_eq,
    Bool.not_eq_true'] at rests
  obtain ⟨returned, idle⟩ := rests
  cases action with
  | onAdmitted job | closeAdmitted job | receive job | giveUp job =>
    simp only [Queue.step, Queue.onAdmitted, Queue.closeAdmitted, Queue.receive, Queue.giveUp]
    cases known : queue.jobs[job]? with
    | none => rfl
    | some found =>
      have past := returned found (List.mem_of_getElem? known)
      cases found with | mk uid entry callerErr ctxErr admitted caller result =>
      cases caller with
      | returned => cases callerErr <;> rfl
      | _ => cases past
  | work i | callbackReturns i =>
    simp only [Queue.step, Queue.work, Queue.callbackReturns]
    cases known : queue.entries[i]? with
    | none => rfl
    | some found =>
      obtain ⟨⟨worker, empty⟩, isOpen⟩ := idle found (List.mem_of_getElem? known)
      cases found
      obtain rfl := worker
      obtain rfl := List.isEmpty_iff.mp empty
      obtain rfl := isOpen
      rfl
  | _ => cases isInternal

/-- The two operations are carried out. -/
def settling : List Action :=
  [.onAdmitted 0 none, .closeAdmitted 0, .work 0 false, .work 0 false, .work 0 false,
    .work 0 false, .work 0 false, .callbackReturns 0 {}, .work 0 false, .work 0 false,
    .receive 0, .onAdmitted 1 none, .closeAdmitted 1, .work 0 false, .work 0 false,
    .work 0 false, .work 0 false, .work 0 false, .callbackReturns 0 {}, .work 0 false,
    .work 0 false, .receive 1]

theorem settles_drainAfterTwo :
    ∃ queue next, run Queue.step (drainAfterTwo.take 2) (newQueue (newQueueConfig 0 0)) =
        some queue ∧ run Queue.step settling queue = some next ∧ next.jobs.length = 2 ∧
      settling.length ≤ queue.remaining ∧
      ∀ i job, next.jobs[i]? = some job → Event.delivered job.uid job.entry i ∈ next.log ∧
        ∃ outcome, job.caller = .returned outcome := by
  have performed : (run Queue.step (drainAfterTwo.take 2) (newQueue (newQueueConfig 0 0))).any
      (fun queue => (run Queue.step settling queue).any fun next =>
        next.isAtRest && next.jobs.length == 2) = true := by
    decide +kernel
  obtain ⟨queue, ran, found⟩ := (Option.any_eq_true _ _).mp performed
  obtain ⟨next, continued, found⟩ := (Option.any_eq_true _ _).mp found
  obtain ⟨rests, two⟩ := Bool.and_eq_true_iff.mp found
  obtain ⟨bounded, settled⟩ := settles_of_run ran (by decide) continued
  exact ⟨queue, next, ran, continued, beq_iff_eq.mp two, bounded,
    settled fun _ isInternal => step_of_isAtRest rests isInternal⟩

end Kruntimes.Session
