import Kruntimes.Data.Update
import Kruntimes.Transition.Run

/-!
# The child reaper of the Bash Runtime Server

One supervisor owns `wait4`.  It hands the status of each child it reaps to the waiter that
is registered under the process ID of the child.  From the moment `wait4` has returned, the
kernel may give that process ID to another process.
-/

namespace Kruntimes.Bash

open Data Transition

/-- How far a child process has come.  The kernel keeps its process ID until it is reaped. -/
inductive Stage where
  | running
  | zombie (status : Nat)
  | reaped (status : Nat)
  deriving DecidableEq

/-- The process ID of the process is taken. -/
@[grind]
def Stage.holdsPid : Stage → Bool
  | reaped _ => false
  | _ => true

@[grind]
def Stage.isZombie : Stage → Bool
  | zombie _ => true
  | _ => false

@[grind]
def Stage.exitStatus : Stage → Option Nat
  | running => none
  | zombie status | reaped status => some status

/-- A child of the Runtime Server. -/
structure Process where
  pid : Nat
  /-- Whether it was started by `startManagedCommand`.  The others are adopted orphans. -/
  managed : Bool
  stage : Stage
  deriving DecidableEq

/-- Where the goroutine of `enableChildSubreaper` stands. -/
inductive Reaper where
  /-- It waits for a signal. -/
  | waiting
  /-- It is about to call `wait4`. -/
  | reaping
  /-- `wait4` has returned the process `index`; the waiter has not been looked up. -/
  | looking (index : Nat)
  deriving DecidableEq

/-- The children and `childSupervisor`.  A process is known by its position, a waiter by the
position of the process it was made for. -/
structure Supervisor where
  processes : List Process
  waiters : Nat → Option Nat
  /-- What has been sent to each waiter. -/
  received : Nat → List Nat
  /-- The channel of signals, which has room for one. -/
  signal : Bool
  reaper : Reaper

def Supervisor.initial : Supervisor :=
  { processes := [], waiters := fun _ => none, received := fun _ => [], signal := false,
    reaper := .waiting }

inductive ReaperAction where
  /-- `startManagedCommand`, whose command gets this process ID. -/
  | start (pid : Nat)
  /-- An orphan with this process ID becomes a child. -/
  | adopt (pid : Nat)
  | exit (index status : Nat)
  | wake
  /-- `wait4` returns a zombie. -/
  | wait (index : Nat)
  /-- `wait4` finds no zombie, so `reapChildren` ends. -/
  | waitNone
  /-- The waiter of the reaped process is taken out of the table and gets the status. -/
  | lookup

namespace Supervisor

/-- The kernel can give the process ID to a new process. -/
def Free (state : Supervisor) (pid : Nat) : Prop :=
  ∀ process ∈ state.processes, process.stage.holdsPid = true → process.pid ≠ pid

instance (state : Supervisor) (pid : Nat) : Decidable (state.Free pid) :=
  inferInstanceAs (Decidable (∀ process ∈ state.processes, _))

/-- Send the status of a process to the waiter that is registered under its process ID. -/
def handOver (state : Supervisor) (process : Process) (status : Nat) : Supervisor :=
  { state with
    waiters := Function.update state.waiters process.pid none
    received := match state.waiters process.pid with
      | some waiter => Function.update state.received waiter
          (state.received waiter ++ [status])
      | none => state.received
    reaper := .reaping }

def step : Step ReaperAction Supervisor
  | .start pid, state =>
    if state.Free pid then
      some { state with
        processes := state.processes ++ [⟨pid, true, .running⟩]
        waiters := Function.update state.waiters pid state.processes.length }
    else none
  | .adopt pid, state =>
    if state.Free pid then
      some { state with processes := state.processes ++ [⟨pid, false, .running⟩] }
    else none
  | .exit index status, state =>
    match state.processes[index]? with
    | some ⟨pid, managed, .running⟩ =>
      some { state with
        processes := state.processes.set index ⟨pid, managed, .zombie status⟩
        signal := true }
    | _ => none
  | .wake, state =>
    if state.reaper = .waiting ∧ state.signal = true then
      some { state with signal := false, reaper := .reaping }
    else none
  | .wait index, state =>
    match state.reaper, state.processes[index]? with
    | .reaping, some ⟨pid, managed, .zombie status⟩ =>
      some { state with
        processes := state.processes.set index ⟨pid, managed, .reaped status⟩
        reaper := .looking index }
    | _, _ => none
  | .waitNone, state =>
    if state.reaper = .reaping ∧ ∀ process ∈ state.processes, process.stage.isZombie = false then
      some { state with reaper := .waiting }
    else none
  | .lookup, state =>
    match state.reaper with
    | .looking index =>
      match state.processes[index]? with
      | some ⟨pid, managed, .reaped status⟩ =>
        some (state.handOver ⟨pid, managed, .reaped status⟩ status)
      | _ => none
    | _ => none

/-- No waiter has anything but the status of its own process, and when the supervisor rests,
every waiter has the status of its process if that has exited. -/
structure Attributed (state : Supervisor) : Prop where
  own : ∀ (index : Nat) (process : Process), state.processes[index]? = some process →
    process.managed = true → state.received index = [] ∨
      ∃ status, process.stage.exitStatus = some status ∧ state.received index = [status]
  all : state.reaper = .waiting → state.signal = false →
    ∀ (index : Nat) (process : Process), state.processes[index]? = some process →
      process.managed = true → ∀ status, process.stage.exitStatus = some status →
        state.received index = [status]

/-- No command gets the process ID of a child that has been reaped and whose waiter has not
been looked up. -/
def StartsApart (action : ReaperAction) (state : Supervisor) : Prop :=
  match action, state.reaper with
  | .start pid, .looking index => ∀ process ∈ state.processes[index]?, process.pid ≠ pid
  | _, _ => True

instance (action : ReaperAction) (state : Supervisor) :
    Decidable (StartsApart action state) := by
  unfold StartsApart
  split <;> infer_instance

/-! ## The invariant -/

/-- The status of a process has not been handed on. -/
def Pending (state : Supervisor) (index : Nat) (process : Process) : Prop :=
  process.stage.holdsPid = true ∨ state.reaper = .looking index

structure Sound (state : Supervisor) : Prop where
  waits : ∀ (index : Nat) (process : Process), state.processes[index]? = some process →
    process.managed = true → state.Pending index process →
      state.waiters process.pid = some index ∧ state.received index = []
  told : ∀ (index : Nat) (process : Process), state.processes[index]? = some process →
    process.managed = true → ¬ state.Pending index process → ∀ status,
      process.stage.exitStatus = some status → state.received index = [status]
  known : ∀ pid index, state.waiters pid = some index → ∃ process : Process,
    state.processes[index]? = some process ∧ process.managed = true ∧
      process.pid = pid ∧ state.Pending index process
  fresh : ∀ index, state.processes.length ≤ index → state.received index = []
  inside : ∀ index, state.reaper = .looking index → index < state.processes.length
  held : ∀ (index : Nat) (process : Process), state.reaper = .looking index →
    state.processes[index]? = some process → process.stage.holdsPid = false ∧
      ∀ (other : Nat) (live : Process), state.processes[other]? = some live →
        live.managed = true → live.stage.holdsPid = true → live.pid ≠ process.pid
  alone : ∀ (index other : Nat) (process live : Process),
    state.processes[index]? = some process → state.processes[other]? = some live →
      process.stage.holdsPid = true → live.stage.holdsPid = true →
        process.pid = live.pid → index = other
  awake : state.reaper = .waiting → state.signal = false →
    ∀ process ∈ state.processes, process.stage.isZombie = false

theorem sound_initial : Sound initial := by
  constructor <;> simp [initial]

variable {state next : Supervisor}

theorem Sound.start {pid : Nat} (sound : state.Sound) (apart : StartsApart (.start pid) state)
    (stepped : step (.start pid) state = some next) : next.Sound := by
  simp only [step, Option.ite_none_right_eq_some, Option.some.injEq] at stepped
  obtain ⟨free, rfl⟩ := stepped
  obtain ⟨_, _, known, _⟩ := sound
  have unheld : ∀ i process, state.reaper = .looking i →
      state.processes[i]? = some process → process.pid ≠ pid := by
    intro i process looking found
    simp only [StartsApart, looking, found] at apart
    exact apart process rfl
  simp only [Free, List.mem_iff_getElem?] at free
  constructor
  case known =>
    intro other i registered
    simp only [Function.update_apply] at registered
    split at registered
    next same =>
      cases registered
      exact ⟨_, List.getElem?_concat_length, rfl, same.symm, .inl rfl⟩
    · obtain ⟨process, found, rest⟩ := known other i registered
      exact ⟨process, getElem?_concat_eq_some_iff.mpr (.inl found), rest⟩
  all_goals
    simp only [Pending, getElem?_concat_eq_some_iff, List.length_append,
      List.length_singleton, Function.update_apply] at *
    grind

theorem Sound.adopt {pid : Nat} (sound : state.Sound)
    (stepped : step (.adopt pid) state = some next) : next.Sound := by
  simp only [step, Option.ite_none_right_eq_some, Option.some.injEq] at stepped
  obtain ⟨free, rfl⟩ := stepped
  obtain ⟨_, _⟩ := sound
  simp only [Free, List.mem_iff_getElem?] at free
  constructor <;> simp only [Pending, getElem?_concat_eq_some_iff, List.length_append,
    List.length_singleton] at * <;> grind

/-- A process exits, or `wait4` returns it, while the waiters stay. -/
theorem Sound.set {i pid : Nat} {managed signal : Bool} {before after : Stage} {reaper : Reaper}
    (sound : state.Sound) (found : state.processes[i]? = some ⟨pid, managed, before⟩)
    (holds : before.holdsPid = true)
    (moves : after.holdsPid = true ∧ signal = true ∧ reaper = state.reaper ∨
      after.holdsPid = false ∧ reaper = .looking i ∧ state.reaper = .reaping) :
    Sound { state with
      processes := state.processes.set i ⟨pid, managed, after⟩, signal, reaper } := by
  obtain ⟨_, _, known, _⟩ := sound
  constructor
  case known =>
    intro other j registered
    obtain ⟨process, old, named, same, _⟩ := known other j registered
    by_cases here : j = i
    · subst here
      cases found.symm.trans old
      refine ⟨_, (getElem?_set_eq_some_iff found).mpr (.inl ⟨rfl, rfl⟩), named, same, ?_⟩
      simp only [Pending] at *
      grind
    · refine ⟨process, (getElem?_set_eq_some_iff found).mpr (.inr ⟨here, old⟩), named, same, ?_⟩
      simp only [Pending] at *
      grind
  all_goals
    simp only [Pending, getElem?_set_eq_some_iff found, List.length_set] at *
    grind

section HandOver

variable {process : Process} {i : Nat} (sound : state.Sound)
  (looking : state.reaper = .looking i) (found : state.processes[i]? = some process)

include sound looking found

/-- Under the process ID of a process that has been reaped only its own waiter is
registered. -/
theorem Sound.waiters_pid :
    state.waiters process.pid = if process.managed then some i else none := by
  split
  next managed =>
    exact (sound.waits i process found managed (.inr looking)).1
  rename_i orphan
  refine Option.eq_none_iff_forall_ne_some.mpr fun other registered => ?_
  obtain ⟨live, present, managed, same, holds | held⟩ := sound.known _ _ registered
  · exact (sound.held i process looking found).2 other live present managed holds same
  cases looking.symm.trans held
  cases found.symm.trans present
  exact orphan managed

theorem Sound.handOver {status : Nat} (exited : process.stage = .reaped status) :
    (state.handOver process status).Sound := by
  have registered := sound.waiters_pid looking found
  obtain ⟨_, _⟩ := sound
  unfold Supervisor.handOver
  rw [registered]
  cases named : process.managed with
  | true =>
    constructor <;> simp only [named, if_true, Pending, Function.update_apply] at * <;> grind
  | false =>
    constructor <;> simp only [named, Bool.false_eq_true, if_false, Pending,
      Function.update_apply] at * <;> grind

end HandOver

theorem Sound.step {action : ReaperAction} (sound : state.Sound)
    (apart : StartsApart action state) (stepped : step action state = some next) :
    next.Sound := by
  cases action with
  | start => exact sound.start apart stepped
  | adopt => exact sound.adopt stepped
  | exit =>
    simp only [Supervisor.step] at stepped
    split at stepped
    next found =>
      cases stepped
      exact sound.set found rfl (.inl ⟨rfl, rfl, rfl⟩)
    · cases stepped
  | wait =>
    simp only [Supervisor.step] at stepped
    split at stepped
    next reaping found =>
      cases stepped
      exact sound.set found rfl (.inr ⟨rfl, rfl, reaping⟩)
    · cases stepped
  | lookup =>
    simp only [Supervisor.step] at stepped
    split at stepped
    next looking =>
      split at stepped
      next found =>
        cases stepped
        exact sound.handOver looking found rfl
      · cases stepped
    · cases stepped
  | wake | waitNone =>
    simp only [Supervisor.step, Option.ite_none_right_eq_some, Option.some.injEq] at stepped
    obtain ⟨⟨idle, _⟩, rfl⟩ := stepped
    obtain ⟨_, _⟩ := sound
    constructor <;> simp only [Pending, idle] at * <;> grind

theorem Sound.attributed (sound : state.Sound) : state.Attributed where
  own i process found managed := by
    by_cases pending : state.Pending i process
    · exact .inl (sound.waits i process found managed pending).2
    right
    cases stage : process.stage with
    | reaped status =>
      refine ⟨status, rfl, sound.told i process found managed pending status ?_⟩
      rw [stage]
      rfl
    | running | zombie => exact absurd (.inl (by rw [stage]; rfl)) pending
  all waiting silent i process found managed status exited := by
    refine sound.told i process found managed ?_ status exited
    have reaped := sound.awake waiting silent process (List.mem_of_getElem? found)
    rintro (_ | looking)
    · cases stage : process.stage <;> simp_all [Stage.holdsPid, Stage.isZombie, Stage.exitStatus]
    · cases waiting.symm.trans looking

/-- If no command gets the process ID of a child between `wait4` and the lookup of its
waiter, every command gets the status of its own process. -/
theorem attributed_of_guarded_run {actions : List ReaperAction}
    (ran : run (restrict StartsApart step) actions initial = some state) :
    state.Attributed :=
  Sound.attributed (invariant_of_guarded_run _ _ Sound
    (fun apart sound stepped => sound.step apart stepped) sound_initial ran)

/-- An orphan has the process ID 7.  It exits with status 9 and is reaped; its waiter is
looked up before or after a command is started. -/
def reapedFirst (last : List ReaperAction) : List ReaperAction :=
  [.adopt 7, .exit 0 9, .wake, .wait 0] ++ last

/-- The command gets the status 3 of its own process, and the supervisor comes to rest. -/
theorem attributed_reapedFirst :
    ∃ state, run (restrict StartsApart step) (reapedFirst [.lookup, .start 7, .exit 1 3, .wait 1,
        .lookup, .waitNone, .wake, .waitNone]) initial = some state ∧
      (state.reaper = .waiting ∧ state.signal = false ∧ state.received 1 = [3]) ∧
      state.Attributed := by
  apply exists_reached_and
  · decide +kernel
  · exact fun _ ran _ => attributed_of_guarded_run ran

/-- A command that still runs gets the status of an orphan that had its process ID. -/
theorem exists_not_attributed :
    ∃ state, run step (reapedFirst [.start 7, .lookup]) initial = some state ∧
      ¬state.Attributed := by
  refine exists_reached (fun state => state.processes[1]? = some ⟨7, true, .running⟩ ∧
    state.received 1 = [9]) (by decide +kernel) ?_
  rintro state _ ⟨process, received⟩ attributed
  rcases attributed.own 1 _ process rfl with none | ⟨_, exited, _⟩
  · cases received.symm.trans none
  · cases exited

end Supervisor

end Kruntimes.Bash
