import Kruntimes.Runtimed.Calls
import Kruntimes.Transition.Run

/-!
# Task table of the Python Runtime Server

`Execute` enters a task before it makes the working directory and starts the worker thread.  The
worker waits for its process and then for two readers, which end with the last process that
holds the pipes, and `Cancel` waits for an event that only a worker sets.  The handlers run
concurrently; what they do under the lock is one step.
-/

namespace Kruntimes.Python

open Runtimed Transition

/-- The processes that hold the pipes of a task: the one that was started, with its success
when it has exited, others of its process group, and those that have left the group. -/
structure Group where
  exited : Option Bool := none
  members : Nat := 0
  detached : Nat := 0

def Group.alive (group : Group) : Bool := group.exited.isNone || group.members != 0

/-- `SIGKILL` -/
def Group.kill (group : Group) : Group :=
  { group with exited := some (group.exited.getD false), members := 0 }

/-- The dictionary of a task; `proc` is an index of the groups. -/
structure Task where
  state : ExecutionState := .running
  cancelled : Bool := false
  done : Bool := false
  proc : Option Nat := none

/-- Where `_execute` stands: before the test of `_run_process`, in `proc.wait`, in the joins of
the readers, or before `_finish_task` with the state to record.  There is none when the test
found the task cancelled or gone. -/
inductive Worker
  | fresh
  | started (proc : Nat)
  | joining (proc : Nat) (state : ExecutionState)
  | returned (state : Option ExecutionState)

/-- A `Cancel` call that waits: for the event of the entry, or for that of a task that is gone
from the table.  After two seconds it kills the process group. -/
structure Waiter where
  gone : Option Task := none
  killed : Bool := false

/-- What there is for a task ID: the entry, the `Execute` calls between the entry and the thread,
the threads, the process groups that were started, and the `Cancel` calls that wait. -/
structure Slot where
  entry : Option Task := none
  starting : Nat := 0
  workers : List Worker := []
  groups : List Group := []
  waiting : List Waiter := []

/-- The dictionary that a `Cancel` call holds. -/
def Slot.held (slot : Slot) (waiter : Waiter) : Option Task := waiter.gone.or slot.entry

/-- `_tasks.pop` -/
def Slot.pop (slot : Slot) : Slot :=
  { slot with
    entry := none
    waiting := slot.waiting.map fun waiter => { waiter with gone := slot.held waiter } }

inductive Call
  | execute
  /-- `mkdir` and `Thread.start` of an `Execute` call. -/
  | start (raised : Bool)
  /-- The test of `_run_process`, and `Popen`. -/
  | check (worker : Nat)
  /-- An exception before the process is there, or when a reader is started. -/
  | raise (worker : Nat)
  /-- `proc.wait` returns, or times out and the group is killed. -/
  | wait (worker : Nat) (timeout : Bool)
  /-- The joins return.  A reader ends with its pipe, or with the next chunk when the task is
  gone. -/
  | join (worker : Nat) (chunk : Bool)
  /-- `_finish_task`. -/
  | finish (worker : Nat)
  | cancel
  /-- The event of a `Cancel` call was not set in time. -/
  | kill (call : Nat)
  /-- A `Cancel` call goes on after `done.wait()`. -/
  | resume (call : Nat)
  | forget
  | status
  | list
  | exit (proc : Nat) (success : Bool)
  | fork (proc : Nat) (detached : Bool)
  /-- A process other than the first ends or closes the pipes. -/
  | leave (proc : Nat) (detached : Bool)

def Slot.step (slot : Slot) : Call → Option Slot
  | .execute =>
    if slot.entry.isSome then some slot
    else some { slot with entry := some {}, starting := slot.starting + 1 }
  | .start raised =>
    if slot.starting = 0 then none
    else some { slot with
      starting := slot.starting - 1
      workers := if raised then slot.workers else slot.workers ++ [.fresh] }
  | .check i => (slot.workers[i]?).bind fun
    | .fresh =>
      if slot.entry.all Task.cancelled then
        some { slot with workers := slot.workers.set i (.returned none) }
      else some { slot with
        entry := slot.entry.map fun task => { task with proc := some slot.groups.length }
        workers := slot.workers.set i (.started slot.groups.length)
        groups := slot.groups ++ [{}] }
    | _ => none
  | .raise i => (slot.workers[i]?).bind fun
    | .fresh | .started _ =>
      some { slot with workers := slot.workers.set i (.returned (some .failed)) }
    | _ => none
  | .wait i timeout => (slot.workers[i]?).bind fun
    | .started proc => (slot.groups[proc]?).bind fun group =>
      if timeout then
        some { slot with
          workers := slot.workers.set i (.joining proc .failed)
          groups := slot.groups.set proc group.kill }
      else group.exited.map fun success =>
        { slot with workers :=
            slot.workers.set i (.joining proc (if success then .succeeded else .failed)) }
    | _ => none
  | .join i chunk => (slot.workers[i]?).bind fun
    | .joining proc state => (slot.groups[proc]?).bind fun group =>
      if !group.alive && group.detached == 0 || chunk && slot.entry.isNone then
        some { slot with workers := slot.workers.set i (.returned (some state)) }
      else none
    | _ => none
  | .finish i => (slot.workers[i]?).bind fun
    | .returned state =>
      some { slot with
        workers := slot.workers.eraseIdx i
        entry := slot.entry.map fun task =>
          { task with state := state.getD task.state, done := true, proc := none } }
    | _ => none
  | .cancel =>
    if slot.entry.isNone then some slot
    else some { slot with
      entry := slot.entry.map fun task => { task with cancelled := true }
      waiting := slot.waiting ++ [{}] }
  | .kill i => (slot.waiting[i]?).bind fun waiter =>
    if waiter.killed then none
    else some { slot with
      waiting := slot.waiting.set i { waiter with killed := true }
      groups := ((slot.held waiter).bind Task.proc).elim slot.groups fun proc =>
        slot.groups.modify proc Group.kill }
  | .resume i => (slot.waiting[i]?).bind fun waiter =>
    if (slot.held waiter).any Task.done then
      some { slot with waiting := slot.waiting.eraseIdx i }.pop
    else none
  | .forget =>
    if slot.entry.any fun task => task.state == .succeeded || task.state == .failed then
      some slot.pop
    else some slot
  | .status | .list => some slot
  | .exit proc success => (slot.groups[proc]?).bind fun group =>
    if group.exited.isSome then none
    else some { slot with groups := slot.groups.set proc { group with exited := some success } }
  | .fork proc detached => (slot.groups[proc]?).bind fun group =>
    if detached then
      if group.alive || group.detached != 0 then
        some { slot with
          groups := slot.groups.set proc { group with detached := group.detached + 1 } }
      else none
    else if group.alive then
      some { slot with groups := slot.groups.set proc { group with members := group.members + 1 } }
    else none
  | .leave proc detached => (slot.groups[proc]?).map fun group =>
    let left := if detached then { group with detached := group.detached - 1 }
      else { group with members := group.members - 1 }
    { slot with groups := slot.groups.set proc left }

/-- The table of the server, by task ID. -/
def step (call : String × Call) (table : String → Slot) : Option (String → Slot) :=
  ((table call.1).step call.2).map (Function.update table call.1)

/-- Nothing is raised between the entry and the thread, a `Cancel` call that goes on takes no
other entry than the one it has waited for, and no process that holds the pipes leaves the
group. -/
def Call.isClean (slot : Slot) : Call → Bool
  | .start raised => !raised
  | .resume i => slot.entry.isNone || (slot.waiting[i]?).any fun waiter => waiter.gone.isNone
  | .fork _ detached => !detached
  | _ => true

abbrev Slot.cleanStep (call : Call) (slot : Slot) : Option Slot :=
  restrict (fun call slot => call.isClean slot = true) (fun call slot => slot.step call) call slot

/-- The steps that start the worker and those that it takes. -/
def Call.isWork : Call → Bool
  | .start _ | .check _ | .raise _ | .wait .. | .join .. | .finish _ => true
  | _ => false

/-- Such a step without an exception, a timeout or a chunk. -/
def Call.isPlain : Call → Bool
  | .start raised => !raised
  | .check _ | .finish _ => true
  | .wait _ timeout => !timeout
  | .join _ chunk => !chunk
  | _ => false

/-- No entry stays unfinished and no `Cancel` call waits in vain. -/
structure Live (slot : Slot) : Prop where
  /-- The worker can go on, unless it waits for processes of the group. -/
  served : ∀ task ∈ slot.entry, task.done = false →
    (∃ call, call.isPlain = true ∧ (slot.step call).isSome = true) ∨
    ∃ proc group, task.proc = some proc ∧ slot.groups[proc]? = some group ∧ group.alive = true
  /-- A `Cancel` call that has killed the group leaves no process to wait for. -/
  killed : ∀ task ∈ slot.entry, (∃ waiter ∈ slot.waiting, waiter.gone = none ∧
    waiter.killed = true) → ∀ proc group, task.proc = some proc → slot.groups[proc]? = some group →
      group.alive = false
  /-- Five steps of the worker finish the entry, whatever else is done in between. -/
  bounded : ∀ calls next, run Slot.cleanStep calls slot = some next →
    5 ≤ calls.countP Call.isWork → ∃ front behind between, calls = front ++ behind ∧
      run Slot.cleanStep front slot = some between ∧ between.entry.all Task.done = true
  /-- A finished entry has a result, or a `Cancel` call that takes it away. -/
  ended : ∀ task ∈ slot.entry, task.done = true → task.state = .running →
    ∃ waiter ∈ slot.waiting, waiter.gone = none
  /-- A `Cancel` call waits for the entry, or for the event of a task that is set. -/
  cancels : ∀ waiter ∈ slot.waiting, ∃ task, slot.held waiter = some task ∧
    (waiter.gone.isSome = true → task.done = true)

/-! ## Process groups -/

/-- What the processes do: nothing that is dead comes back. -/
def Advance (groups next : List Group) : Prop :=
  ∀ (proc : Nat) (group : Group), groups[proc]? = some group → ∃ later, next[proc]? = some later ∧
    (group.exited.isSome = true → later.exited.isSome = true) ∧
    (group.alive = false → later.alive = false)

section Groups

variable {groups : List Group}

theorem Advance.refl : Advance groups groups := fun _ group found =>
  ⟨group, found, id, id⟩

theorem advance_set {proc : Nat} {group later : Group} (found : groups[proc]? = some group)
    (exited : group.exited.isSome = true → later.exited.isSome = true)
    (dead : group.alive = false → later.alive = false) :
    Advance groups (groups.set proc later) := by
  intro other any known
  by_cases same : proc = other
  · subst same
    rw [found] at known
    cases known
    exact ⟨later, by grind, exited, dead⟩
  · exact ⟨any, by grind, id, id⟩

@[simp]
theorem Group.kill_exited (group : Group) : group.kill.exited.isSome = true := rfl

@[simp]
theorem Group.kill_alive (group : Group) : group.kill.alive = false := rfl

theorem Group.exited_of_dead {group : Group} (dead : group.alive = false) :
    group.exited.isSome = true := by
  simp only [Group.alive, Bool.or_eq_false_iff, Option.isNone_eq_false_iff] at dead
  exact dead.1

theorem advance_kill (proc : Nat) : Advance groups (groups.modify proc Group.kill) := by
  intro other group found
  by_cases same : proc = other
  · exact ⟨group.kill, by grind, by simp, by simp⟩
  · exact ⟨group, by grind, id, id⟩

end Groups

/-! ## Clean calls -/

/-- What there is for an unfinished entry: one `Execute` call or one worker. -/
inductive Serves (task : Task) (groups : List Group) : Nat → List Worker → Prop
  | starting (unstarted : task.proc = none) : Serves task groups 1 []
  | fresh (unstarted : task.proc = none) : Serves task groups 0 [.fresh]
  | started {proc : Nat} (own : task.proc = some proc) : Serves task groups 0 [.started proc]
  | joining {proc : Nat} {group : Group} {state : ExecutionState} (own : task.proc = some proc)
    (found : groups[proc]? = some group) (exited : group.exited.isSome = true)
    (ended : state ≠ .running) : Serves task groups 0 [.joining proc state]
  | returned {state : Option ExecutionState} (ended : ∀ final ∈ state, final ≠ .running)
    (gaveUp : state = none → task.cancelled = true) : Serves task groups 0 [.returned state]

/-- The processes of a killed group are dead. -/
def Killed (task : Task) (groups : List Group) (waiting : List Waiter) : Prop :=
  ∀ waiter ∈ waiting, waiter.gone = none → waiter.killed = true →
    ∀ proc ∈ task.proc, ∃ group, groups[proc]? = some group ∧ group.alive = false

def Calm (groups : List Group) : Prop := ∀ group ∈ groups, group.detached = 0

/-- What clean calls keep. -/
inductive Sound : Slot → Prop
  | absent {groups : List Group} {waiting : List Waiter} (calm : Calm groups)
    (cancels : ∀ gone ∈ waiting.map Waiter.gone, gone.any Task.done = true) :
    Sound { groups, waiting }
  | served {task : Task} {starting : Nat} {workers : List Worker} {groups : List Group}
    {waiting : List Waiter} (calm : Calm groups)
    (cancels : ∀ gone ∈ waiting.map Waiter.gone, gone.all Task.done = true)
    (unfinished : task.done = false ∧ task.state = .running)
    (cancelled : task.cancelled = true ↔ none ∈ waiting.map Waiter.gone)
    (known : ∀ proc ∈ task.proc, proc < groups.length) (killed : Killed task groups waiting)
    (serves : Serves task groups starting workers) :
    Sound { entry := some task, starting, workers, groups, waiting }
  | finished {task : Task} {groups : List Group} {waiting : List Waiter} (calm : Calm groups)
    (cancels : ∀ gone ∈ waiting.map Waiter.gone, gone.all Task.done = true)
    (done : task.done = true ∧ task.proc = none)
    (cancelled : task.cancelled = true ↔ none ∈ waiting.map Waiter.gone)
    (ended : task.state = .running → task.cancelled = true) :
    Sound { entry := some task, groups, waiting }

variable {slot next : Slot}

section Advance

variable {task : Task} {groups later : List Group} (ahead : Advance groups later)

include ahead

theorem Serves.advance {starting : Nat} {workers : List Worker}
    (serves : Serves task groups starting workers) : Serves task later starting workers := by
  cases serves with
  | starting unstarted => exact .starting unstarted
  | fresh unstarted => exact .fresh unstarted
  | started own => exact .started own
  | joining own found exited ended =>
    obtain ⟨group, known, still, -⟩ := ahead _ _ found
    exact .joining own known (still exited) ended
  | returned ended gaveUp => exact .returned ended gaveUp

theorem Killed.advance {waiting : List Waiter} (killed : Killed task groups waiting) :
    Killed task later waiting := by
  intro waiter mem gone late proc own
  obtain ⟨group, found, dead⟩ := killed waiter mem gone late proc own
  obtain ⟨other, known, -, still⟩ := ahead proc group found
  exact ⟨other, known, still dead⟩

theorem Advance.length_le : groups.length ≤ later.length := by
  by_contra short
  obtain ⟨other, found, -⟩ := ahead later.length _
    (List.getElem?_eq_getElem (not_le.mp short))
  simp at found

end Advance

/-- What the processes do leaves a slot sound. -/
theorem Sound.advance {groups : List Group} (sound : Sound slot)
    (ahead : Advance slot.groups groups) (calm : Calm groups) :
    Sound { slot with groups } := by
  cases sound with
  | absent _ cancels => exact .absent calm cancels
  | served _ cancels unfinished cancelled known killed serves =>
    exact .served calm cancels unfinished cancelled
      (fun proc own => (known proc own).trans_le ahead.length_le) (killed.advance ahead)
      (serves.advance ahead)
  | finished _ cancels done cancelled ended =>
    exact .finished calm cancels done cancelled ended

theorem Calm.set {groups : List Group} (calm : Calm groups) {group : Group}
    (still : group.detached = 0) (proc : Nat) : Calm (groups.set proc group) := fun other mem =>
  (List.mem_or_eq_of_mem_set mem).elim (calm other) fun same => same ▸ still

theorem Sound.calm (sound : Sound slot) : Calm slot.groups := by
  cases sound with
  | absent calm => exact calm
  | served calm => exact calm
  | finished calm => exact calm

theorem Calm.kill {groups : List Group} (calm : Calm groups) (proc : Nat) :
    Calm (groups.modify proc Group.kill) := by
  intro group mem
  obtain ⟨other, found⟩ := List.mem_iff_getElem?.mp mem
  rw [List.getElem?_modify] at found
  obtain ⟨before, known, rfl⟩ := Option.map_eq_some_iff.mp found
  have still := calm before (List.mem_of_getElem? known)
  split
  · exact still
  · exact still

/-- Without a finished entry the `Cancel` calls that waited for it may go on. -/
theorem Sound.pop {entry : Option Task} {groups : List Group} {waiting : List Waiter}
    (calm : Calm groups) (cancels : ∀ gone ∈ waiting.map Waiter.gone, gone.all Task.done = true)
    (past : none ∈ waiting.map Waiter.gone → entry.any Task.done = true) :
    Sound (Slot.pop { entry, groups, waiting }) := by
  refine .absent calm ?_
  simp only [List.map_map, List.mem_map]
  rintro _ ⟨waiter, mem, rfl⟩
  have known := List.mem_map_of_mem (f := Waiter.gone) mem
  rcases waiter with ⟨_ | task, killed⟩
  · exact past known
  · exact cancels _ known

/-- One group goes on. -/
theorem Sound.set (sound : Sound slot) {proc : Nat} {group later : Group}
    (found : slot.groups[proc]? = some group)
    (exited : group.exited.isSome = true → later.exited.isSome = true)
    (dead : group.alive = false → later.alive = false)
    (still : group.detached = 0 → later.detached = 0) :
    Sound { slot with groups := slot.groups.set proc later } :=
  sound.advance (advance_set found exited dead)
    (sound.calm.set (still (sound.calm group (List.mem_of_getElem? found))) proc)

theorem Serves.worker {task : Task} {groups : List Group} {starting i : Nat}
    {workers : List Worker} {worker : Worker} (serves : Serves task groups starting workers)
    (found : workers[i]? = some worker) : i = 0 ∧ starting = 0 ∧ workers = [worker] := by
  cases serves with
  | starting => cases found
  | fresh | started | joining | returned =>
    cases i with
    | zero => exact ⟨rfl, rfl, congrArg (fun worker => [worker]) (Option.some.inj found)⟩
    | succ => cases found

/-- The worker of an unfinished entry goes on. -/
theorem Sound.replace (sound : Sound slot) {i : Nat} {worker other : Worker}
    {groups : List Group} (found : slot.workers[i]? = some worker)
    (ahead : Advance slot.groups groups) (calm : Calm groups)
    (serves : ∀ task, slot.entry = some task → Serves task slot.groups 0 [worker] →
      Serves task groups 0 [other]) :
    Sound { slot with workers := slot.workers.set i other, groups } := by
  cases sound with
  | absent => cases found
  | finished => cases found
  | served _ cancels unfinished cancelled known killed served =>
    obtain ⟨rfl, rfl, rfl⟩ := served.worker found
    exact .served calm cancels unfinished cancelled
      (fun proc own => (known proc own).trans_le ahead.length_le) (killed.advance ahead)
      (serves _ rfl served)

theorem Sound.check (sound : Sound slot) {i : Nat} (stepped : slot.step (.check i) = some next) :
    Sound next := by
  obtain ⟨worker, found, stepped⟩ := Option.bind_eq_some_iff.mp stepped
  cases worker with
  | started | joining | returned => cases stepped
  | fresh =>
    dsimp only at stepped
    split at stepped
    next cancelled =>
      cases stepped
      refine sound.replace found .refl sound.calm fun task entry _ => .returned nofun fun _ => ?_
      simpa [entry] using cancelled
    next active =>
      cases stepped
      cases sound with
      | absent => cases found
      | finished => cases found
      | @served task _ _ groups waiting calm cancels unfinished cancelled known killed serves =>
        obtain ⟨rfl, rfl, rfl⟩ := serves.worker found
        have alone : none ∉ waiting.map Waiter.gone := fun waits =>
          active (cancelled.mpr waits)
        refine .served ?_ cancels unfinished cancelled ?_ ?_ (.started rfl)
        · simpa [Calm, or_imp, forall_and] using calm
        · simp
        · exact fun waiter mem gone => absurd (gone ▸ List.mem_map_of_mem mem) alone

theorem Sound.finish (sound : Sound slot) {i : Nat}
    (stepped : slot.step (.finish i) = some next) : Sound next := by
  obtain ⟨worker, found, stepped⟩ := Option.bind_eq_some_iff.mp stepped
  cases worker with
  | fresh | started | joining => cases stepped
  | returned state =>
    cases stepped
    cases sound with
    | absent => cases found
    | finished => cases found
    | served calm cancels unfinished cancelled known killed serves =>
      obtain ⟨rfl, rfl, rfl⟩ := serves.worker found
      cases serves with
      | returned ended gaveUp =>
        refine .finished calm cancels ⟨rfl, rfl⟩ cancelled ?_
        cases state with
        | none => exact fun _ => gaveUp rfl
        | some final => exact fun running => absurd running (ended final rfl)

theorem map_gone_set {waiting : List Waiter} {i : Nat} {waiter : Waiter}
    (found : waiting[i]? = some waiter) :
    (waiting.set i { waiter with killed := true }).map Waiter.gone = waiting.map Waiter.gone := by
  rw [List.map_set]
  apply List.ext_getElem?
  grind

/-- A `Cancel` call kills the group of the task that it waits for. -/
theorem Sound.kill (sound : Sound slot) {i : Nat} (stepped : slot.step (.kill i) = some next) :
    Sound next := by
  obtain ⟨waiter, found, stepped⟩ := Option.bind_eq_some_iff.mp stepped
  split at stepped <;> cases stepped
  have ahead : Advance slot.groups (((slot.held waiter).bind Task.proc).elim slot.groups fun proc =>
      slot.groups.modify proc Group.kill) := by
    cases (slot.held waiter).bind Task.proc with
    | none => exact .refl
    | some proc => exact advance_kill proc
  have calm : Calm (((slot.held waiter).bind Task.proc).elim slot.groups fun proc =>
      slot.groups.modify proc Group.kill) := by
    cases (slot.held waiter).bind Task.proc with
    | none => exact sound.calm
    | some proc => exact sound.calm.kill proc
  have same := map_gone_set found
  cases sound with
  | absent _ cancels => exact .absent calm (same ▸ cancels)
  | finished _ cancels done cancelled ended =>
    exact .finished calm (same ▸ cancels) done (same ▸ cancelled) ended
  | @served task starting workers groups waiting _ cancels unfinished cancelled known killed
      serves =>
    refine .served calm (same ▸ cancels) unfinished (same ▸ cancelled)
      (fun proc own => (known proc own).trans_le ahead.length_le) ?_ (serves.advance ahead)
    intro other mem gone late proc own
    rcases List.mem_or_eq_of_mem_set mem with mem | rfl
    · exact killed.advance ahead other mem gone late proc own
    · have held : Slot.held { entry := some task, starting, workers, groups, waiting } waiter =
          some task := by
        rw [Slot.held, show waiter.gone = none from gone]
        rfl
      refine ⟨Group.kill (groups.get ⟨proc, known proc own⟩), ?_, rfl⟩
      rw [held, Option.bind_some, show task.proc = some proc from own]
      simp [known proc own]

theorem Sound.step {call : Call} (sound : Sound slot)
    (clean : call.isClean slot = true) (stepped : slot.step call = some next) : Sound next := by
  cases call with
  | check i => exact sound.check stepped
  | finish i => exact sound.finish stepped
  | kill i => exact sound.kill stepped
  | status | list =>
    cases stepped
    exact sound
  | execute =>
    cases sound with
    | absent calm cancels =>
      cases stepped
      refine .served calm ?_ ⟨rfl, rfl⟩ ?_ (by simp) ?_ (.starting rfl)
      · intro gone mem
        cases gone with
        | none => rfl
        | some task => exact cancels _ mem
      · exact ⟨by simp, fun mem => by cases cancels _ mem⟩
      · exact fun _ _ _ _ _ own => by cases own
    | served calm cancels unfinished cancelled known killed serves =>
      cases stepped
      exact .served calm cancels unfinished cancelled known killed serves
    | finished calm cancels done cancelled ended =>
      cases stepped
      exact .finished calm cancels done cancelled ended
  | start raised =>
    simp only [Slot.step] at stepped
    split at stepped <;> cases stepped
    obtain rfl : raised = false := by simpa [Call.isClean] using clean
    cases sound with
    | absent | finished => contradiction
    | served calm cancels unfinished cancelled known killed serves =>
      cases serves with
      | starting unstarted =>
        exact .served calm cancels unfinished cancelled known killed (.fresh unstarted)
      | fresh | started | joining | returned => contradiction
  | raise i =>
    obtain ⟨worker, found, stepped⟩ := Option.bind_eq_some_iff.mp stepped
    have failed : ∀ task groups, Serves task groups 0 [.returned (some .failed)] :=
      fun _ _ => .returned (by simp) nofun
    cases worker with
    | fresh | started =>
      cases stepped
      exact sound.replace found .refl sound.calm fun _ _ _ => failed _ _
    | joining | returned => cases stepped
  | wait i timeout =>
    obtain ⟨worker, found, stepped⟩ := Option.bind_eq_some_iff.mp stepped
    cases worker with
    | fresh | joining | returned => cases stepped
    | started proc =>
      obtain ⟨group, known, stepped⟩ := Option.bind_eq_some_iff.mp stepped
      split at stepped
      · cases stepped
        refine sound.replace found (advance_set known (by simp) (by simp))
          (sound.calm.set (show group.kill.detached = 0 from
            sound.calm group (List.mem_of_getElem? known)) proc) ?_
        intro task _ serves
        cases serves with
        | started own =>
          exact .joining own (List.getElem?_set_self (List.getElem?_eq_some_iff.mp known).1) rfl
            (by simp)
      · obtain ⟨success, exited, rfl⟩ := Option.map_eq_some_iff.mp stepped
        refine sound.replace found .refl sound.calm ?_
        intro task _ serves
        cases serves with
        | started own =>
          exact .joining own known (by simp [exited]) (by cases success <;> simp)
  | join i chunk =>
    obtain ⟨worker, found, stepped⟩ := Option.bind_eq_some_iff.mp stepped
    cases worker with
    | fresh | started | returned => cases stepped
    | joining proc state =>
      obtain ⟨group, known, stepped⟩ := Option.bind_eq_some_iff.mp stepped
      split at stepped <;> cases stepped
      refine sound.replace found .refl sound.calm ?_
      intro task _ serves
      cases serves with
      | joining _ _ _ ended => exact .returned (by simpa using ended) (by simp)
  | cancel =>
    cases sound with
    | absent calm cancels =>
      cases stepped
      exact .absent calm cancels
    | served calm cancels unfinished cancelled known killed serves =>
      cases stepped
      refine .served calm ?_ unfinished (by simp) known ?_ ?_
      · simpa [or_imp, forall_and] using cancels
      · intro waiter mem gone late
        rcases List.mem_append.mp mem with mem | mem
        · exact killed waiter mem gone late
        · cases List.mem_singleton.mp mem
          cases late
      · cases serves with
        | starting unstarted => exact .starting unstarted
        | fresh unstarted => exact .fresh unstarted
        | started own => exact .started own
        | joining own found exited ended => exact .joining own found exited ended
        | returned ended => exact .returned ended fun _ => rfl
    | finished calm cancels done cancelled ended =>
      cases stepped
      refine .finished calm ?_ done (by simp) fun _ => rfl
      simpa [or_imp, forall_and] using cancels
  | resume i =>
    obtain ⟨waiter, found, stepped⟩ := Option.bind_eq_some_iff.mp stepped
    split at stepped <;> cases stepped
    rename_i past
    have fewer : ∀ {waiting : List Waiter} {gone}, gone ∈ (waiting.eraseIdx i).map Waiter.gone →
        gone ∈ waiting.map Waiter.gone :=
      fun mem => List.map_subset _ (fun _ => List.mem_of_mem_eraseIdx) mem
    cases sound with
    | absent calm cancels =>
      refine .pop calm (fun gone mem => ?_) fun mem => by cases cancels _ (fewer mem)
      have done := cancels gone (fewer mem)
      cases gone with
      | none => rfl
      | some task => exact done
    | served calm cancels unfinished =>
      -- a clean call has waited for this entry, which is not finished
      have own : waiter.gone = none := by simpa [Call.isClean, found] using clean
      simp [Slot.held, own, unfinished.1] at past
    | finished calm cancels done =>
      exact .pop calm (fun gone mem => cancels gone (fewer mem)) fun _ => done.1
  | forget =>
    simp only [Slot.step] at stepped
    split at stepped <;> cases stepped
    · rename_i terminal
      cases sound with
      | absent => cases terminal
      | served calm cancels unfinished => simp [unfinished.2] at terminal
      | finished calm cancels done => exact .pop calm cancels fun _ => done.1
    · exact sound
  | exit proc success =>
    obtain ⟨group, found, stepped⟩ := Option.bind_eq_some_iff.mp stepped
    split at stepped <;> cases stepped
    exact sound.set found (fun _ => rfl) (by grind [Group.alive]) id
  | fork proc detached =>
    obtain ⟨group, found, stepped⟩ := Option.bind_eq_some_iff.mp stepped
    obtain rfl : detached = false := by simpa [Call.isClean] using clean
    rw [if_neg Bool.false_ne_true] at stepped
    split at stepped <;> cases stepped
    exact sound.set found id (by grind) id
  | leave proc detached =>
    obtain ⟨group, found, rfl⟩ := Option.map_eq_some_iff.mp stepped
    exact sound.set found (by grind) (by grind [Group.alive]) (by grind)

/-! ## Progress -/

/-- The number of steps that the worker has yet to take at most. -/
def stage : List Worker → Nat
  | [] => 5
  | .fresh :: _ => 4
  | .started _ :: _ => 3
  | .joining .. :: _ => 2
  | .returned _ :: _ => 1

theorem stage_pos (workers : List Worker) : 0 < stage workers := by
  cases workers with
  | nil => decide
  | cons worker rest => cases worker <;> simp [stage]

theorem stage_le (workers : List Worker) : stage workers ≤ 5 := by
  cases workers with
  | nil => decide
  | cons worker rest => cases worker <;> simp [stage]

theorem workers_of_step {call : Call} (idle : call.isWork = false)
    (stepped : slot.step call = some next) : next.workers = slot.workers := by
  cases call <;> simp only [Call.isWork, Bool.true_eq_false] at idle <;> grind [Slot.step, Slot.pop]

/-- A step of the worker brings it further. -/
theorem Sound.stage_step {call : Call} (sound : Sound slot) (work : call.isWork = true)
    (clean : call.isClean slot = true) (stepped : slot.step call = some next)
    (unfinished : slot.entry.all Task.done = false) :
    next.entry.all Task.done = true ∨ stage next.workers < stage slot.workers := by
  cases sound with
  | absent => cases unfinished
  | finished _ _ done => simp [done.1] at unfinished
  | served _ _ _ _ _ _ serves =>
    have one : ∀ {i worker}, _ → i = 0 ∧ _ ∧ _ = [worker] := serves.worker
    cases call with
    | start raised =>
      obtain rfl : raised = false := by simpa [Call.isClean] using clean
      simp only [Slot.step] at stepped
      split at stepped <;> cases stepped
      cases serves with
      | starting => exact .inr (by simp [stage])
      | fresh | started | joining | returned => contradiction
    | check i =>
      obtain ⟨worker, found, stepped⟩ := Option.bind_eq_some_iff.mp stepped
      obtain ⟨rfl, -, rfl⟩ := one found
      cases worker with
      | fresh =>
        dsimp only at stepped
        split at stepped <;> cases stepped <;> simp [stage]
      | started | joining | returned => cases stepped
    | raise i =>
      obtain ⟨worker, found, stepped⟩ := Option.bind_eq_some_iff.mp stepped
      obtain ⟨rfl, -, rfl⟩ := one found
      cases worker <;> cases stepped <;> simp [stage]
    | wait i timeout =>
      obtain ⟨worker, found, stepped⟩ := Option.bind_eq_some_iff.mp stepped
      obtain ⟨rfl, -, rfl⟩ := one found
      cases worker with
      | fresh | joining | returned => cases stepped
      | started proc =>
        obtain ⟨group, -, stepped⟩ := Option.bind_eq_some_iff.mp stepped
        split at stepped
        · cases stepped
          simp [stage]
        · obtain ⟨success, -, rfl⟩ := Option.map_eq_some_iff.mp stepped
          simp [stage]
    | join i chunk =>
      obtain ⟨worker, found, stepped⟩ := Option.bind_eq_some_iff.mp stepped
      obtain ⟨rfl, -, rfl⟩ := one found
      cases worker with
      | fresh | started | returned => cases stepped
      | joining proc state =>
        obtain ⟨group, -, stepped⟩ := Option.bind_eq_some_iff.mp stepped
        split at stepped <;> cases stepped
        simp [stage]
    | finish i =>
      obtain ⟨worker, found, stepped⟩ := Option.bind_eq_some_iff.mp stepped
      cases worker <;> cases stepped
      exact .inl rfl
    | execute | cancel | kill | resume | forget | status | list | exit | fork | leave => cases work

/-- As many steps of the worker as its stage says finish the entry. -/
theorem Sound.bounded {calls : List Call} (sound : Sound slot)
    (ran : run Slot.cleanStep calls slot = some next)
    (enough : stage slot.workers ≤ calls.countP Call.isWork) :
    ∃ front behind between, calls = front ++ behind ∧
      run Slot.cleanStep front slot = some between ∧ between.entry.all Task.done = true := by
  induction calls generalizing slot with
  | nil => exact absurd enough (not_le.mpr (stage_pos _))
  | cons call rest ih =>
    cases unfinished : slot.entry.all Task.done with
    | true => exact ⟨[], call :: rest, slot, rfl, rfl, unfinished⟩
    | false =>
      obtain ⟨middle, stepped, ran⟩ := (run_cons_eq_some_iff ..).mp ran
      obtain ⟨clean, moved⟩ := (restrict_eq_some_iff ..).mp stepped
      have on : ∀ {front between}, run Slot.cleanStep front middle = some between →
          run Slot.cleanStep (call :: front) slot = some between := fun rest =>
        (run_cons_eq_some_iff ..).mpr ⟨middle, stepped, rest⟩
      have reached : middle.entry.all Task.done = true ∨
          stage middle.workers ≤ rest.countP Call.isWork := by
        cases work : call.isWork with
        | true =>
          rw [List.countP_cons_of_pos work] at enough
          exact (sound.stage_step work clean moved unfinished).imp_right (by omega)
        | false =>
          rw [List.countP_cons_of_neg (by simp [work])] at enough
          rw [workers_of_step work moved]
          exact .inr enough
      rcases reached with done | left
      · exact ⟨[call], rest, middle, rfl, on rfl, done⟩
      · obtain ⟨front, behind, between, rfl, first, done⟩ :=
          ih (sound.step clean moved) ran left
        exact ⟨call :: front, behind, between, rfl, on first, done⟩

/-- The worker of an unfinished entry can go on when no process of the group is left. -/
theorem Sound.works (sound : Sound slot) {task : Task} (entry : slot.entry = some task)
    (unfinished : task.done = false)
    (dead : ∀ proc group, task.proc = some proc → slot.groups[proc]? = some group →
      group.alive = false) :
    ∃ call, call.isPlain = true ∧ (slot.step call).isSome = true := by
  cases sound with
  | absent => cases entry
  | finished _ _ done =>
    cases entry
    rw [done.1] at unfinished
    cases unfinished
  | served calm cancels _ cancelled known killed serves =>
    cases entry
    cases serves with
    | starting => exact ⟨.start false, rfl, rfl⟩
    | fresh =>
      refine ⟨.check 0, rfl, ?_⟩
      cases stops : task.cancelled <;> simp [Slot.step, stops]
    | @started proc own =>
      have found := List.getElem?_eq_getElem (known proc own)
      have gone := dead proc _ own found
      obtain ⟨success, exited⟩ := Option.isSome_iff_exists.mp (Group.exited_of_dead gone)
      exact ⟨.wait 0 false, rfl, by simp [Slot.step, found, exited]⟩
    | @joining proc group state own found exited ended =>
      refine ⟨.join 0 false, rfl, ?_⟩
      simp [Slot.step, found, dead proc group own found, calm group (List.mem_of_getElem? found)]
    | returned => exact ⟨.finish 0, rfl, rfl⟩

theorem Sound.live (sound : Sound slot) : Live slot := by
  constructor
  case served =>
    intro task entry unfinished
    by_cases dead : ∀ proc group, task.proc = some proc → slot.groups[proc]? = some group →
        group.alive = false
    · exact .inl (sound.works entry unfinished dead)
    · push Not at dead
      obtain ⟨proc, group, own, found, alive⟩ := dead
      exact .inr ⟨proc, group, own, found, Bool.not_eq_false _ |>.mp alive⟩
  case killed =>
    rintro task entry ⟨waiter, mem, gone, late⟩ proc group own found
    cases sound with
    | absent => cases entry
    | finished _ _ done =>
      cases entry
      rw [done.2] at own
      cases own
    | served _ _ _ _ _ killed =>
      cases entry
      obtain ⟨other, known, dead⟩ := killed waiter mem gone late proc own
      cases found.symm.trans known
      exact dead
  case bounded =>
    exact fun calls next ran enough => sound.bounded ran ((stage_le _).trans enough)
  case ended =>
    intro task entry done running
    cases sound with
    | absent => cases entry
    | served _ _ unfinished =>
      cases entry
      rw [unfinished.1] at done
      cases done
    | finished _ _ _ cancelled ended =>
      cases entry
      simpa using cancelled.mp (ended running)
  case cancels =>
    intro waiter mem
    have known := List.mem_map_of_mem (f := Waiter.gone) mem
    rcases waiter with ⟨_ | task, killed⟩
    · cases sound with
      | absent _ cancels => cases cancels _ known
      | served => exact ⟨_, rfl, by simp⟩
      | finished => exact ⟨_, rfl, by simp⟩
    · refine ⟨task, rfl, fun _ => ?_⟩
      cases sound with
      | absent _ cancels => exact cancels _ known
      | served _ cancels => exact cancels _ known
      | finished _ cancels => exact cancels _ known

/-- Clean calls leave every task ID live. -/
theorem live_of_guarded_run {calls : List (String × Call)} {table : String → Slot}
    (ran : run (restrict (fun call table => call.2.isClean (table call.1) = true) step) calls
      (fun _ => {}) = some table) (id : String) : Live (table id) := by
  have sound : ∀ id, Sound (table id) := by
    refine invariant_of_guarded_run _ _ (fun table => ∀ id, Sound (table id)) ?_
      (fun _ => .absent (by simp [Calm]) (by simp)) ran
    intro call source target clean sound stepped other
    obtain ⟨next, moved, rfl⟩ := Option.map_eq_some_iff.mp stepped
    by_cases same : other = call.1
    · subst same
      rw [Function.update_self]
      exact (sound _).step clean moved
    · rw [Function.update_of_ne same]
      exact sound other
  exact (sound id).live

/-- A task whose process has left another one behind is cancelled, and the worker goes on when
the group is killed. -/
theorem live_cancelled :
    ∃ table, run (restrict (fun call table => call.2.isClean (table call.1) = true) step)
        [("run", .execute), ("run", .start false), ("run", .check 0), ("run", .fork 0 false),
          ("run", .exit 0 true), ("run", .wait 0 false), ("run", .cancel), ("run", .kill 0)]
        (fun _ => {}) = some table ∧
      (table "run").waiting.map Waiter.killed = [true] ∧ Live (table "run") := by
  apply exists_reached_and
  · decide +kernel
  · exact fun _ ran _ => live_of_guarded_run ran "run"

/-- The working directory cannot be made: `Cancel` waits for a worker that never was. -/
theorem exists_not_live :
    ∃ table, run step [("run", .execute), ("run", .start true), ("run", .cancel), ("run", .kill 0)]
        (fun _ => {}) = some table ∧
      (table "run").waiting.map Waiter.killed = [true] ∧ ¬ Live (table "run") := by
  refine ⟨_, rfl, rfl, fun live => ?_⟩
  rcases live.served _ rfl rfl with ⟨call, plain, stepped⟩ | ⟨proc, group, own, -⟩
  · cases call with
    | start | check | wait | join | finish => cases stepped
    | raise | execute | cancel | kill | resume | forget | status | list | exit | fork | leave =>
      cases plain
  · cases own

end Kruntimes.Python
