import Kruntimes.Lifecycle.Writes

/-!
# Task executions of the Bash Runtime Server

The handlers of the Bash Runtime Server for task executions, on the entry that it holds for
the Run.  The handlers that change the entry hold `operationMu`, so each of them is one step;
a cancelled process is waited for.
-/

namespace Kruntimes.Bash

open Api Runtimed Lifecycle

/-- `Execute`: an entry of the same id is cancelled and replaced. -/
def execute (_ : Option Execution) (attempt : Int) : Option Execution :=
  some { attempt, state := .running }

/-- `Status`: the state that is reported. -/
def status (entry : Option Execution) : Option ExecutionState :=
  entry.map Execution.state

/-- `Cancel`: an entry is cancelled, waited for and deleted. -/
def cancel (_ : Option Execution) : Option Execution :=
  none

/-- `Forget`: whether it is accepted, and the entry after it.  It is refused while the
execution is running. -/
def forget : Option Execution → Bool × Option Execution
  | some { attempt, state := .running } => (false, some { attempt, state := .running })
  | _ => (true, none)

/-- The end of the process: `complete`.  A restarted server has lost its entries. -/
def completes (entry after : Option Execution) : Bool :=
  after == entry || after == none || match entry, after with
    | some { attempt, state := .running }, some { attempt := same, state } =>
      same == attempt && (state == .succeeded || state == .failed)
    | _, _ => false

/-- An answer to `Status`. -/
def reportsState (state : Option ExecutionState) : Polled StatusResponse → Bool
  | .notFound => state == none
  | .unavailable _ => false
  | .response response => state == some response.state

/-- The entry after a query, if it is answered in this way. -/
def answersQuery (entry : Option Execution) :
    (query : Query) → query.Answer → Option Execution → Bool
  | .status, answer, after => reportsState (status entry) answer && after == entry
  | .cancel, _, after => after == cancel entry
  | .forget, answer, after =>
    (answer : Option String).isNone == (forget entry).1 && after == (forget entry).2
  | _, _, after => after == entry

/-- The Bash Runtime Server answers a call in this way and is left in this state. -/
def serves (server : Server) (request : Call) : Reply → Bool
  | .executed failure after =>
    match request with
    | .execute attempt => failure.isNone && after.execution == execute server.execution attempt
    | _ => false
  | .answer query answer after => answersQuery server.execution query answer after.execution
  | _ => true

/-- The Runtime Server of every Pod is a Bash Runtime Server that can be reached. -/
def followsBash (action : Action) (world : World) : Bool :=
  match action with
  | .serve pod server => completes (world.nodes pod).server.execution server.execution
  | .advance pod index reply =>
    match (world.nodes pod).threads[index]? with
    | none => true
    | some thread =>
      match thread.program with
      | .call request _ => serves (world.nodes pod).server request reply
      | _ => true
  | _ => true

/-- The server holds a running execution. -/
def isBusy (server : Server) : Bool :=
  server.execution.any fun execution => execution.state == .running

theorem isBusy_of_completes {server after : Server}
    (completed : completes server.execution after.execution = true)
    (busy : isBusy after = true) : isBusy server = true := by
  unfold completes at completed
  unfold isBusy at busy ⊢
  cases found : after.execution with
  | none => simp [found] at busy
  | some execution =>
    rw [found] at completed busy
    have running : execution.state = .running := by simpa using busy
    split at completed
    · simp_all
    rename_i other
    simp only [Bool.or_false, Bool.or_eq_true, beq_iff_eq, reduceCtorEq, or_false] at completed
    simp [← completed, running]

section Served

variable {request : Call} {reply : Reply} {server : Server}
  (served : serves server request reply = true)

include served

/-- An execution begins to run with `Execute` only. -/
theorem isBusy_of_serves (busy : isBusy (serverAfter server reply) = true) :
    isBusy server = true ∨ ∃ attempt, request = .execute attempt := by
  cases reply with
  | executed =>
    cases request with
    | execute attempt => exact .inr ⟨attempt, rfl⟩
    | _ => cases served
  | answer query answer after =>
    left
    change isBusy after = true at busy
    change answersQuery server.execution query answer after.execution = true at served
    cases query with
    | status =>
      have same := (Bool.and_eq_true_iff.mp served).2
      rwa [isBusy, beq_iff_eq.mp same] at busy
    | cancel =>
      rw [isBusy, beq_iff_eq.mp served] at busy
      cases busy
    | forget =>
      rw [isBusy, beq_iff_eq.mp (Bool.and_eq_true_iff.mp served).2] at busy
      unfold forget at busy
      split at busy
      next entry =>
        rw [isBusy, entry]
        rfl
      · cases busy
    | _ => rwa [isBusy, beq_iff_eq.mp served] at busy
  | _ => exact .inl busy

/-- After a halting answer nothing is running. -/
theorem not_isBusy_of_halts {answer : Answer request} {world : World} {node : Node}
    (answered : answerCall world node request reply = some answer)
    (halting : halts ⟨request, answer⟩ = true) :
    isBusy (serverAfter server reply) = false := by
  cases request with
  | query query =>
    cases query with
    | cancel =>
      obtain ⟨after, rfl⟩ := reply_of_isExternal rfl answered
      change isBusy after = false
      rw [isBusy, beq_iff_eq.mp served]
      rfl
    | status =>
      obtain ⟨after, rfl⟩ := reply_of_isExternal rfl answered
      obtain ⟨reported, same⟩ := Bool.and_eq_true_iff.mp served
      change isBusy after = false
      rw [isBusy, beq_iff_eq.mp same]
      match answer with
      | .notFound =>
        have none : status server.execution = none := beq_iff_eq.mp reported
        rw [Option.map_eq_none_iff.mp none]
        rfl
      | .unavailable message => cases reported
      | .response response =>
        have some := Option.map_eq_some_iff.mp (beq_iff_eq.mp reported)
        obtain ⟨_, entry, state⟩ := some
        have idle := (Bool.and_eq_true_iff.mp halting).2
        rw [entry, Option.any_some, state]
        simpa using idle
    | _ => cases halting
  | _ => cases halting

end Served

end Kruntimes.Bash
