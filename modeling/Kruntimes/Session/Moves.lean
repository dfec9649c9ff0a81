import Kruntimes.Session.Queue

/-!
# What an action does to the queues

Every action is a short sequence of moves, each of which concerns one entry, one job
or the log.  The invariants of the queue are proved move by move, so that none of them
looks into the code of the actions again.
-/

namespace Kruntimes.Session

open Data Transition

variable {i job : Nat} {run : SessionRun}

/-! ## Parts of the worker's state -/

namespace Worker

/-- The job the worker holds and has not delivered a result for. -/
def undelivered : Worker → List Nat
  | awaiting job => [job]
  | admitted job => [job]
  | unclosed job => [job]
  | starting job => [job]
  | running job _ => [job]
  | delivering job _ => [job]
  | idle => []
  | completing _ => []
  | exited => []

/-- The job whose callback may have been started. -/
def begun : Worker → List Nat
  | running job _ => [job]
  | delivering job _ => [job]
  | _ => []

/-- The number of jobs the worker has taken from the channel and not completed. -/
def held : Worker → Nat
  | idle => 0
  | exited => 0
  | _ => 1

/-- The job whose admission the worker has seen and whose callback it may still start. -/
def passed : Worker → List Nat
  | admitted job => [job]
  | unclosed job => [job]
  | starting job => [job]
  | _ => []

/-- Two stages that differ at most in the context of the running operation. -/
inductive SameStage : Worker → Worker → Prop
  | refl (worker : Worker) : SameStage worker worker
  | running (job : Nat) (err next : Option ContextErr) :
      SameStage (running job err) (running job next)

theorem sameStage_endContext (job : Nat) (err : ContextErr) (worker : Worker) :
    SameStage worker (worker.endContext job err) := by
  cases worker with
  | running held =>
    change SameStage _ (if held = job then _ else _)
    split
    · exact .running _ _ _
    · exact .refl _
  | _ => exact .refl _

theorem sameStage_cancelActive (worker : Worker) : SameStage worker worker.cancelActive := by
  cases worker with
  | running => exact .running _ _ _
  | _ => exact .refl _

end Worker

/-! ## Moves of one entry -/

/-- A move of the worker of an entry, or of `Drain` and `Close` at it. -/
inductive EntryMove (jobs : List Job) (index : Nat) : Entry → List Event → Entry → Prop
  | take {entry : Entry} {job : Nat} {rest : List Nat} (idle : entry.worker = .idle)
      (queued : entry.jobs = job :: rest) :
      EntryMove jobs index entry [] { entry with jobs := rest, worker := .awaiting job }
  | exit {entry : Entry} (idle : entry.worker = .idle) (empty : entry.jobs = [])
      (closed : entry.closed = true) :
      EntryMove jobs index entry [] (entry.proceed .exited)
  | seeAdmitted {entry : Entry} {job : Nat} {found : Job} (waits : entry.worker = .awaiting job)
      (known : jobs[job]? = some found) (admitted : found.admitted = true) :
      EntryMove jobs index entry [] (entry.proceed (.admitted job))
  | pass {entry : Entry} {job : Nat} (waits : entry.worker = .admitted job)
      (opened : entry.closed = false) :
      EntryMove jobs index entry [] (entry.proceed (.unclosed job))
  | ready {entry : Entry} {job : Nat} {found : Job} (waits : entry.worker = .unclosed job)
      (known : jobs[job]? = some found) (live : found.ctxErr = none) :
      EntryMove jobs index entry [] (entry.proceed (.starting job))
  | start {entry : Entry} {job : Nat} (err : Option ContextErr)
      (waits : entry.worker = .starting job) (opened : entry.closed = false) :
      EntryMove jobs index entry [.started entry.uid index job] (entry.proceed (.running job err))
  | context {entry : Entry} {worker : Worker} (due : Bool) (same : entry.worker.SameStage worker) :
      EntryMove jobs index entry [] { entry with worker, cancelDue := due }
  | settle {entry : Entry} {job : Nat} (holds : entry.worker.undelivered = [job])
      (outcome : Outcome) :
      EntryMove jobs index entry [] (entry.proceed (.delivering job outcome))
  | deliver {entry : Entry} {job : Nat} {outcome : Outcome} {found : Job}
      (delivers : entry.worker = .delivering job outcome) (known : jobs[job]? = some found)
      (sent : found.result.isSome = true) :
      EntryMove jobs index entry [.delivered entry.uid index job] (entry.proceed (.completing job))
  | complete {entry : Entry} {job : Nat} (completes : entry.worker = .completing job) :
      EntryMove jobs index entry [] { entry with worker := .idle, pending := entry.pending - 1 }

/-! ## Moves of one job -/

/-- The call has let the worker go on. -/
def Caller.isPast : Caller → Bool
  | waiting => true
  | returned _ => true
  | _ => false

/-- A move of the call that made a job. -/
structure JobMove (job next : Job) : Prop where
  uid : next.uid = job.uid
  entry : next.entry = job.entry
  ended : job.ctxErr.isSome = true → next.ctxErr.isSome = true
  admitted : job.admitted = true → next.admitted = true
  admits : next.admitted = true → job.admitted = true ∨ job.caller ≠ .admitting
  caller : next.caller = .admitting → job.caller = .admitting
  past : next.caller.isPast = true → next.admitted = true ∨ job.caller.isPast = true
  result : job.result.isSome = true → next.result.isSome = true

/-! ## Moves of the queues -/

/-- A move of the queues. -/
inductive Move : Queue → Queue → Prop
  | create {queue : Queue} (limits : Limits)
      (absent : queue.sessions.lookup limits.uid = none) : Move queue (queue.create limits)
  | enqueue {queue : Queue} {uid : String} {index : Nat} {entry : Entry}
      (mapped : queue.sessions.lookup uid = some index)
      (found : queue.entries[index]? = some entry) (accepting : entry.accepting = true)
      (room : entry.jobs.length < entry.capacity) : Move queue (queue.enqueue uid index)
  | refuse {queue : Queue} (uid : String) : Move queue (queue.note (.refused uid))
  | fail {queue : Queue} {index : Nat} {job : Job} (known : queue.jobs[index]? = some job)
      (admitting : job.caller = .admitting) (ended : job.ctxErr.isSome = true) :
      Move queue (queue.note (.failed job.uid job.entry index))
  | job {queue : Queue} {index : Nat} {job : Job} (change : Job → Job)
      (known : queue.jobs[index]? = some job) (moved : JobMove job (change job)) :
      Move queue (queue.onJob index change)
  | entry {queue : Queue} {index : Nat} {entry : Entry} {events : List Event}
      (change : Entry → Entry) (found : queue.entries[index]? = some entry)
      (moved : EntryMove queue.jobs index entry events (change entry)) :
      Move queue { queue.onEntry index change with log := queue.log ++ events }
  | drain {queue : Queue} {uid : String} {index : Nat} {entry : Entry}
      (mapped : queue.sessions.lookup uid = some index)
      (found : queue.entries[index]? = some entry) :
      Move queue ((queue.onEntry index fun entry => { entry with draining := true }).note
        (.drained uid true (entry.pending == 0)))
  | drainAbsent {queue : Queue} {uid : String} (absent : queue.sessions.lookup uid = none) :
      Move queue (queue.note (.drained uid false true))
  | closeAbsent {queue : Queue} {uid : String} (absent : queue.sessions.lookup uid = none) :
      Move queue (queue.note (.closed uid))
  | close {queue : Queue} {uid : String} {index : Nat}
      (mapped : queue.sessions.lookup uid = some index) :
      Move queue (({ queue with sessions := queue.sessions.erase uid }.onEntry index fun entry =>
        { entry with closed := true, cancelDue := true }).note (.closed uid))

/-! ## Sequences of moves -/

/-- An event that the actions record without any condition of their callers. -/
def Event.isRoutine : Event → Bool
  | created _ _ => false
  | accepted _ _ _ => false
  | drained _ _ _ => false
  | _ => true

/-- A move whose event, if it records one, is allowed in the state before. -/
def MoveWithin (allowed : Queue → Event → Prop) (queue next : Queue) : Prop :=
  Move queue next ∧ ∀ event, next.log = queue.log ++ [event] → allowed queue event

/-- A sequence of such moves. -/
abbrev MovesWithin (allowed : Queue → Event → Prop) : Queue → Queue → Prop :=
  Relation.ReflTransGen (MoveWithin allowed)

section Actions

variable {allowed : Queue → Event → Prop} {queue next : Queue}

theorem MoveWithin.of_log_eq (moved : Move queue next) (same : next.log = queue.log) :
    MoveWithin allowed queue next := by
  refine ⟨moved, fun event grown => ?_⟩
  rw [same] at grown
  exact absurd grown (by simp)

theorem MoveWithin.of_event (moved : Move queue next) {event : Event}
    (grown : next.log = queue.log ++ [event]) (allows : allowed queue event) :
    MoveWithin allowed queue next := by
  refine ⟨moved, fun other same => ?_⟩
  rw [grown] at same
  obtain rfl : event = other := by simpa using same
  exact allows

theorem movesWithin_job {job : Job} (change : Job → Job) (known : queue.jobs[i]? = some job)
    (moved : JobMove job (change job)) :
    MovesWithin allowed queue (queue.onJob i change) :=
  .single (.of_log_eq (.job change known moved) rfl)

theorem movesWithin_entry {entry : Entry} (change : Entry → Entry)
    (found : queue.entries[i]? = some entry)
    (moved : EntryMove queue.jobs i entry [] (change entry)) :
    MovesWithin allowed queue (queue.onEntry i change) := by
  have move := Move.entry change found moved
  rw [List.append_nil] at move
  exact .single (.of_log_eq move rfl)

theorem Queue.onEntry_of_none (change : Entry → Entry) (absent : queue.entries[i]? = none) :
    queue.onEntry i change = queue := by
  have same : queue.entries.modify i change = queue.entries :=
    List.modify_eq_self (List.getElem?_eq_none_iff.mp absent)
  unfold Queue.onEntry
  rw [same]

theorem Queue.getElem?_jobs_onJob (queue : Queue) (i : Nat) (change : Job → Job) :
    (queue.onJob i change).jobs[i]? = queue.jobs[i]?.map change := by
  simp [Queue.onJob]

/-! ## Contexts and callers -/

theorem jobMove_endContext (err : ContextErr) (job : Job) :
    JobMove job (job.endContext err) := by
  constructor <;> simp +contextual [Job.endContext, endErr]

theorem jobMove_proceed {caller : Caller} {job : Job} (moves : caller ≠ .admitting)
    (past : caller.isPast = true → job.admitted = true ∨ job.caller.isPast = true) :
    JobMove job (job.proceed caller) := by
  constructor <;> simp +contextual [Job.proceed, moves]
  exact past

theorem jobMove_letIn {job : Job} (proceeded : job.caller ≠ .admitting) :
    JobMove job job.letIn := by
  constructor <;> simp [Job.letIn, proceeded]

theorem movesWithin_endJob (job : Nat) (err : ContextErr) (queue : Queue) :
    MovesWithin allowed queue (queue.endJob job err) := by
  unfold Queue.endJob
  cases known : queue.jobs[job]? with
  | none => exact .refl
  | some found =>
    refine (movesWithin_job _ known (jobMove_endContext err found)).trans ?_
    cases mapped : queue.entries[found.entry]? with
    | none =>
      dsimp only
      rw [Queue.onEntry_of_none]
      exact mapped
    | some entry =>
      exact movesWithin_entry _ mapped
        (.context entry.cancelDue (Worker.sameStage_endContext _ _ _))

theorem Queue.getElem?_jobs_endJob {queue : Queue} {job : Job} (err : ContextErr)
    (known : queue.jobs[i]? = some job) :
    (queue.endJob i err).jobs[i]? = some (job.endContext err) := by
  unfold Queue.endJob
  rw [known]
  change (queue.onJob i (Job.endContext err)).jobs[i]? = _
  rw [Queue.getElem?_jobs_onJob, known]
  rfl

theorem movesWithin_leave {found : Job} (outcome : Outcome) (known : queue.jobs[job]? = some found)
    (past : found.admitted = true ∨ found.caller.isPast = true) :
    MovesWithin allowed queue (queue.leave job outcome) :=
  (movesWithin_job _ known (jobMove_proceed (by simp) fun _ => past)).trans
    (movesWithin_endJob _ _ _)

theorem movesWithin_closeAdmitted (stepped : queue.closeAdmitted job = some next) :
    MovesWithin allowed queue next := by
  unfold Queue.closeAdmitted at stepped
  have admitted := Queue.getElem?_jobs_onJob queue job Job.letIn
  split at stepped
  next known =>
    cases stepped
    rw [known] at admitted
    exact (movesWithin_job _ known (jobMove_letIn (by simp))).trans
      (movesWithin_job _ admitted (jobMove_proceed (by simp) fun _ => .inl rfl))
  next known =>
    cases stepped
    rw [known] at admitted
    exact (movesWithin_job _ known (jobMove_letIn (by simp))).trans
      (movesWithin_leave _ admitted (.inl rfl))
  · cases stepped

theorem movesWithin_endContext {err : ContextErr} (stepped : queue.endContext job err = some next) :
    MovesWithin allowed queue next := by
  unfold Queue.endContext at stepped
  split at stepped
  next known =>
    cases stepped
    refine (movesWithin_job _ known ?_).trans (movesWithin_endJob _ _ _)
    constructor <;> simp +contextual
  · cases stepped

theorem movesWithin_receive (stepped : queue.receive job = some next) :
    MovesWithin allowed queue next := by
  unfold Queue.receive at stepped
  split at stepped
  next known =>
    cases stepped
    exact movesWithin_leave _ known (.inr rfl)
  · cases stepped

theorem movesWithin_giveUp (stepped : queue.giveUp job = some next) :
    MovesWithin allowed queue next := by
  unfold Queue.giveUp at stepped
  split at stepped
  next known =>
    cases stepped
    exact movesWithin_leave _ known (.inr rfl)
  · cases stepped

/-! ## Entering the queue -/

theorem movesWithin_ensureEntry (limits : Limits)
    (allows : queue.sessions.lookup limits.uid = none →
      allowed queue (.created limits.uid queue.entries.length)) :
    MovesWithin allowed queue (queue.ensureEntry limits).2 := by
  unfold Queue.ensureEntry
  split
  · exact .refl
  next absent =>
    exact .single (.of_event (.create limits absent) rfl (allows absent))

theorem lookup_ensureEntry (limits : Limits) (queue : Queue) :
    (queue.ensureEntry limits).2.sessions.lookup limits.uid =
      some (queue.ensureEntry limits).1 := by
  unfold Queue.ensureEntry
  split
  · assumption
  · exact AList.lookup_insert _

theorem uid_of_limits {config : QueueConfig} {limits : Limits}
    (ok : config.limits run = .ok limits) : limits.uid = run.uid := by
  unfold QueueConfig.limits at ok
  split at ok
  · cases ok
  split at ok
  · cases ok
  split at ok
  · cases ok
  split at ok
  · cases ok
  · cases ok
    rfl

/-- What the callers of the queues have to make sure of, for the events of an action to
be allowed. -/
def Permits (allowed : Queue → Event → Prop) (queue : Queue) : Action → Prop
  | .ensure run => queue.sessions.lookup run.uid = none →
      allowed queue (.created run.uid queue.entries.length)
  | .execute run =>
    (queue.sessions.lookup run.uid = none → allowed queue (.created run.uid queue.entries.length)) ∧
    ∀ limits, limits.uid = run.uid → ∀ index job,
      allowed (queue.ensureEntry limits).2 (.accepted run.uid index job)
  | .drain uid => ∀ found answer, (found = true ↔ queue.sessions.lookup uid ≠ none) →
      allowed queue (.drained uid found answer)
  | _ => True

theorem movesWithin_ensure (permits : Permits allowed queue (.ensure run)) :
    MovesWithin allowed queue (queue.ensure run) := by
  unfold Queue.ensure
  split
  · exact .refl
  rename_i valid
  apply movesWithin_ensureEntry
  rw [uid_of_limits valid]
  exact permits

/-! ## Steps of a worker -/

/-- What a step of the worker of an entry can do. -/
inductive Worked (index : Nat) (queue : Queue) (entry : Entry) : Queue → Prop
  | exit (idle : entry.worker = .idle) (empty : entry.jobs = []) (closed : entry.closed = true) :
      Worked index queue entry (queue.moveWorker index .exited)
  | take {job : Nat} {rest : List Nat} (idle : entry.worker = .idle)
      (queued : entry.jobs = job :: rest) :
      Worked index queue entry (queue.onEntry index fun entry =>
        { entry with jobs := rest, worker := .awaiting job })
  | see {job : Nat} {found : Job} (waits : entry.worker = .awaiting job)
      (known : queue.jobs[job]? = some found) (admitted : found.admitted = true) :
      Worked index queue entry (queue.moveWorker index (.admitted job))
  | pass {job : Nat} (waits : entry.worker = .admitted job) (opened : entry.closed = false) :
      Worked index queue entry (queue.moveWorker index (.unclosed job))
  | ready {job : Nat} {found : Job} (waits : entry.worker = .unclosed job)
      (known : queue.jobs[job]? = some found) (live : found.ctxErr = none) :
      Worked index queue entry (queue.moveWorker index (.starting job))
  | settle {job : Nat} {outcome : Outcome} (waits : entry.worker = .awaiting job ∨
        entry.worker = .admitted job ∨ entry.worker = .unclosed job ∨ entry.worker = .starting job)
      (failed : outcome.err ≠ none) :
      Worked index queue entry (queue.moveWorker index (.delivering job outcome))
  | start {job : Nat} (err : Option ContextErr) (waits : entry.worker = .starting job)
      (opened : entry.closed = false) :
      Worked index queue entry
        ((queue.moveWorker index (.running job err)).note (.started entry.uid index job))
  | deliver {job : Nat} {outcome : Outcome} {held : Job}
      (delivers : entry.worker = .delivering job outcome) (known : queue.jobs[job]? = some held) :
      Worked index queue entry (((queue.onJob job (Job.deliver outcome)).moveWorker index
        (.completing job)).note (.delivered entry.uid index job))
  | complete {job : Nat} (completes : entry.worker = .completing job) :
      Worked index queue entry (queue.onEntry index fun entry =>
        { entry with worker := .idle, pending := entry.pending - 1 })

theorem worked_of_work {seesDone : Bool} (stepped : queue.work i seesDone = some next) :
    ∃ entry, queue.entries[i]? = some entry ∧ Worked i queue entry next := by
  unfold Queue.work at stepped
  split at stepped
  · cases stepped
  rename_i entry found
  refine ⟨entry, found, ?_⟩
  split at stepped
  next idle =>
    split at stepped
    next empty =>
      obtain ⟨closed, ⟨⟩⟩ := Option.ite_none_right_eq_some.mp stepped
      exact .exit idle empty closed
    next queued =>
      cases stepped
      exact .take idle queued
  next waits =>
    split at stepped
    · cases stepped
    rename_i known
    split at stepped
    · obtain ⟨_, _, rfl⟩ := Option.map_eq_some_iff.mp stepped
      exact .settle (.inl waits) nofun
    · obtain ⟨admitted, ⟨⟩⟩ := Option.ite_none_right_eq_some.mp stepped
      exact .see waits known admitted
  next waits =>
    cases stepped
    split
    · exact .settle (.inr (.inl waits)) nofun
    next opened =>
      exact .pass waits (Bool.eq_false_iff.mpr opened)
  next waits =>
    split at stepped
    · cases stepped
    rename_i known
    split at stepped
    · cases stepped
      exact .settle (.inr (.inr (.inl waits))) nofun
    rename_i live
    cases stepped
    exact .ready waits known live
  next waits =>
    split at stepped
    · cases stepped
    split at stepped
    · cases stepped
      exact .settle (.inr (.inr (.inr waits))) nofun
    rename_i opened
    cases stepped
    exact .start _ waits (Bool.eq_false_iff.mpr opened)
  · cases stepped
  next delivers =>
    split at stepped
    · cases stepped
    rename_i known
    cases stepped
    exact .deliver delivers known
  next completes =>
    cases stepped
    exact .complete completes
  · cases stepped

section Routine

variable (routine : ∀ queue event, event.isRoutine = true → allowed queue event)

include routine

theorem movesWithin_note {event : Event} (moved : Move queue (queue.note event))
    (isRoutine : event.isRoutine = true) : MovesWithin allowed queue (queue.note event) :=
  .single (.of_event moved rfl (routine queue event isRoutine))

theorem movesWithin_execute (permits : Permits allowed queue (.execute run))
    (executed : (queue.execute run).map Prod.snd = some next) :
    MovesWithin allowed queue next := by
  unfold Queue.execute at executed
  cases valid : queue.config.limits run with
  | error =>
    rw [valid] at executed
    cases executed
    exact movesWithin_note routine (.refuse _) rfl
  | ok limits =>
    rw [valid] at executed
    have named := uid_of_limits valid
    have first : MovesWithin allowed queue (queue.ensureEntry limits).2 := by
      apply movesWithin_ensureEntry
      rw [named]
      exact permits.1
    refine first.trans ?_
    have mapped := lookup_ensureEntry limits queue
    rw [named] at mapped
    simp only [Option.map_map, Option.map_eq_some_iff, Function.comp_apply] at executed
    obtain ⟨entry, found, rfl⟩ := executed
    split
    · exact movesWithin_note routine (.refuse _) rfl
    split
    next accepting room =>
      exact .single (.of_event (.enqueue mapped found (by simpa using accepting) room) rfl
        (permits.2 limits named _ _))
    · exact movesWithin_note routine (.refuse _) rfl

theorem movesWithin_onAdmitted {err : Option Failure}
    (stepped : queue.onAdmitted job err = some next) : MovesWithin allowed queue next := by
  unfold Queue.onAdmitted at stepped
  split at stepped
  next known =>
    cases stepped
    cases err with
    | none => exact movesWithin_job _ known (jobMove_proceed (by simp) (by simp [Caller.isPast]))
    | some =>
      have ended := Queue.getElem?_jobs_endJob .canceled known
      refine (movesWithin_endJob job .canceled queue).trans
        ((movesWithin_note routine (.fail ended rfl ?_) rfl).trans
          (movesWithin_job _ ended (jobMove_proceed (by simp) (by simp [Caller.isPast]))))
      simp [Job.endContext, endErr]
  · cases stepped

/-! ## The worker -/

theorem movesWithin_work {seesDone : Bool} (stepped : queue.work i seesDone = some next) :
    MovesWithin allowed queue next := by
  obtain ⟨_, found, worked⟩ := worked_of_work stepped
  cases worked with
  | exit idle empty closed => exact movesWithin_entry _ found (.exit idle empty closed)
  | take idle queued => exact movesWithin_entry _ found (.take idle queued)
  | see waits known admitted => exact movesWithin_entry _ found (.seeAdmitted waits known admitted)
  | pass waits opened => exact movesWithin_entry _ found (.pass waits opened)
  | ready waits known live => exact movesWithin_entry _ found (.ready waits known live)
  | settle waits =>
    refine movesWithin_entry _ found (.settle ?_ _)
    rcases waits with waits | waits | waits | waits <;> rw [waits] <;> rfl
  | start err waits opened =>
    exact .single (.of_event (.entry _ found (.start err waits opened)) rfl (routine _ _ rfl))
  | @deliver job outcome held delivers known =>
    have sent := Queue.getElem?_jobs_onJob queue job (Job.deliver outcome)
    rw [known] at sent
    have moved : JobMove held (held.deliver outcome) := by
      constructor <;> simp +contextual [Job.deliver]
    exact (movesWithin_job _ known moved).trans
      (.single (.of_event (.entry _ found (.deliver delivers sent rfl)) rfl (routine _ _ rfl)))
  | complete completes => exact movesWithin_entry _ found (.complete completes)

omit routine in
theorem movesWithin_callbackReturns {returned : Outcome}
    (stepped : queue.callbackReturns i returned = some next) :
    MovesWithin allowed queue next := by
  unfold Queue.callbackReturns at stepped
  split at stepped
  next found =>
    cases stepped
    exact movesWithin_entry _ found (.settle rfl _)
  · cases stepped

omit routine in
theorem movesWithin_expire (stepped : queue.expire i = some next) :
    MovesWithin allowed queue next := by
  unfold Queue.expire at stepped
  split at stepped
  next found =>
    cases stepped
    exact movesWithin_entry _ found (.context _ (.running _ _ _))
  · cases stepped

/-! ## Drain and Close -/

omit routine in
theorem movesWithin_drain {uid : String} (permits : Permits allowed queue (.drain uid)) :
    MovesWithin allowed queue (queue.drain uid).2 := by
  unfold Queue.drain
  split
  · exact .refl
  cases mapped : queue.sessions.lookup uid with
  | none => exact .single (.of_event (.drainAbsent mapped) rfl (permits _ _ (by simp [mapped])))
  | some i =>
    dsimp only
    cases found : queue.entries[i]? with
    | none => exact .refl
    | some =>
      exact .single (.of_event (.drain mapped found) rfl (permits _ _ (by simp [mapped])))

theorem movesWithin_close (uid : String) : MovesWithin allowed queue (queue.close uid) := by
  unfold Queue.close
  split
  · exact .refl
  split
  · exact movesWithin_note routine (.closeAbsent ‹_›) rfl
  · exact .single (.of_event (.close ‹_›) rfl (routine _ _ rfl))

omit routine in
theorem movesWithin_cancelActive (stepped : queue.cancelActive i = some next) :
    MovesWithin allowed queue next := by
  unfold Queue.cancelActive at stepped
  split at stepped
  next found =>
    cases stepped
    exact movesWithin_entry _ found (.context _ (Worker.sameStage_cancelActive _))
  · cases stepped

/-- Every action is a sequence of moves, whose events are allowed if its callers make
sure of that. -/
theorem movesWithin_of_step {action : Action} (permits : Permits allowed queue action)
    (stepped : Queue.step action queue = some next) : MovesWithin allowed queue next := by
  cases action with
  | ensure =>
    cases stepped
    exact movesWithin_ensure permits
  | execute => exact movesWithin_execute routine permits stepped
  | onAdmitted => exact movesWithin_onAdmitted routine stepped
  | closeAdmitted => exact movesWithin_closeAdmitted stepped
  | endContext => exact movesWithin_endContext stepped
  | receive => exact movesWithin_receive stepped
  | giveUp => exact movesWithin_giveUp stepped
  | work => exact movesWithin_work routine stepped
  | callbackReturns => exact movesWithin_callbackReturns stepped
  | expire => exact movesWithin_expire stepped
  | drain =>
    cases stepped
    exact movesWithin_drain permits
  | close uid =>
    cases stepped
    exact movesWithin_close routine uid
  | cancelActive => exact movesWithin_cancelActive stepped

end Routine

end Actions

end Kruntimes.Session
