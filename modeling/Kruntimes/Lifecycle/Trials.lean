import Mathlib.Data.List.TakeWhile
import Kruntimes.Lifecycle.Course

/-!
# Attempts that are tried

A retry raises the attempt of a task, and the task is meant to be executed again before
its next failure is counted.  Runtimed counts a failure because of what it was shown: an
entry whose deadline has passed or that is marked as started, a missing entry, a recorded
start failure, or a response about some execution.  Each of them can be left over from an
earlier attempt.  If none of them is shown while nothing has been tried for the current
attempt, every attempt is real.
-/

namespace Kruntimes.Lifecycle

open Api Transition Runtimed

variable {action : Action} {event : Event} {attempt : Int} {log : List Event} {pod : String}
  {thread : Thread} {next : World}

/-! ## Trials -/

/-- `Execute` was requested during an attempt, by a start that began in it. -/
def Event.executes (attempt : Int) : Event → Bool
  | .executed _ _ stored launched _ => stored == attempt && currentAttempt launched == attempt
  | _ => false

/-- `prepareSource` was called for an attempt. -/
def Event.prepares (attempt : Int) : Event → Bool
  | .queried _ _ _ copy query =>
    query == .prepareSource && copy.any fun run => number run == attempt
  | _ => false

/-- Runtimed counted a failure, which led to an attempt. -/
def Event.retriesTo (attempt : Int) : Event → Bool
  | .wrote (.runtimed _) _ old new _ => decide (number old < number new) && number new == attempt
  | _ => false

/-- Runtimed or the reaper ended the Run as failed at its last attempt. -/
def Event.exhausts (limit : Int) : Event → Bool
  | .wrote writer _ old new _ =>
    writer != .scheduler && decide (limit ≤ number old) &&
      (new.status.phase == .failed || new.status.phase == .timeout)
  | _ => false

/-- The attempt was tried: it was executed, or its source was prepared.  A preparation is
part of a claim, so it does not count after a retry on the same Pod. -/
def tried (log : List Event) (attempt : Int) : Bool :=
  log.any (·.executes attempt) || (log.any (·.prepares attempt) && !log.any (·.retriesTo attempt))

/-- `Execute` was requested between two retries, and every attempt was tried when they were
exhausted. -/
structure AttemptsReal (limit : Int) (log : List Event) : Prop where
  between : ∀ later second middle first earlier,
    log = later ++ second :: (middle ++ first :: earlier) →
    (∃ attempt, first.retriesTo attempt = true) →
    (∃ attempt, second.retriesTo attempt = true) →
      ∃ event ∈ middle, ∃ pod time stored launched prepared,
        event = .executed pod time stored launched prepared
  exhausted : ∀ later last earlier, log = later ++ last :: earlier →
    last.exhausts limit = true → ∀ attempt, 1 ≤ attempt → attempt ≤ limit →
      (earlier.any (·.executes attempt) || earlier.any (·.prepares attempt)) = true

/-- The current attempt runs and nothing has been tried for it. -/
def untried (ledger : Ledger) : Bool :=
  ledger.stored.status.phase == .running && !tried ledger.log (number ledger.stored)

/-- The look shows an entry.  After the backoff it is the entry that the program found first,
and nothing is left over in it: no mark, no failure, and a deadline that is still ahead. -/
def looksFresh (ledger : Ledger) (node : Node) (thread : Thread) : Bool :=
  node.memory.active.any fun handle =>
    (held thread.exchanges).any inBackoff ||
      ((firstLook thread.exchanges).all (fun seen => seen.active == some handle) &&
        (node.memory.objects[handle]?).any fun object =>
          !object.started && object.executionStart.isNone &&
            object.deadline.all fun deadline => decide (ledger.clock ≤ deadline))

/-- The program works on a running copy of the current attempt. -/
def worksOnCurrent (ledger : Ledger) (thread : Thread) : Bool :=
  (held thread.exchanges).any fun run =>
    run.status.phase == .running && number run == number ledger.stored

/-- Before anything was tried for the current attempt, nothing is shown that would count as
its failure. -/
def judgesFairly (action : Action) (world : World) : Bool :=
  !untried world.toLedger || match action with
    | .reap _ _ _ _ => false
    | .advance pod index reply =>
      match (world.nodes pod).threads[index]? with
      | none => true
      | some thread =>
        !worksOnCurrent world.toLedger thread || match thread.program with
          | .call (.query .memory) _ => looksFresh world.toLedger (world.nodes pod) thread
          | .call (.query .status) _ => !reports reply
          | _ => true
    | _ => true

/-! ## Events and trials -/

theorem executed_of_executes (executes : event.executes attempt = true) :
    ∃ pod time stored launched prepared, event = .executed pod time stored launched prepared := by
  cases event with
  | executed => exact ⟨_, _, _, _, _, rfl⟩
  | wrote | queried => cases executes

theorem not_executes_of_retriesTo {other : Int} (retries : event.retriesTo attempt = true) :
    event.executes other = false := by
  cases event with
  | wrote => rfl
  | executed | queried => cases retries

/-- More events leave an attempt tried, as long as none of them retries to it. -/
theorem tried_of_suffix {longer : List Event} (later : log <:+ longer)
    (fresh : ∀ event ∈ longer, event ∈ log ∨ event.retriesTo attempt = false)
    (known : tried log attempt = true) : tried longer attempt = true := by
  rcases Bool.or_eq_true_iff.mp known with executed | prepared
  · obtain ⟨event, mem, executes⟩ := List.any_eq_true.mp executed
    exact Bool.or_eq_true_iff.mpr
      (.inl (List.any_eq_true.mpr ⟨event, later.subset mem, executes⟩))
  · obtain ⟨some, none⟩ := Bool.and_eq_true_iff.mp prepared
    obtain ⟨event, mem, prepares⟩ := List.any_eq_true.mp some
    refine Bool.or_eq_true_iff.mpr (.inr (Bool.and_eq_true_iff.mpr ⟨?_, ?_⟩))
    · exact List.any_eq_true.mpr ⟨event, later.subset mem, prepares⟩
    · simp only [Bool.not_eq_true', List.any_eq_false] at none ⊢
      intro other otherMember
      rcases fresh other otherMember with old | unrelated
      · exact none other old
      · simp [unrelated]

/-- A tried attempt that a retry led to was executed. -/
theorem executes_of_tried {retry : Event} (known : tried log attempt = true)
    (mem : retry ∈ log) (retries : retry.retriesTo attempt = true) :
    ∃ event ∈ log, event.executes attempt = true := by
  rcases Bool.or_eq_true_iff.mp known with executed | prepared
  · exact List.any_eq_true.mp executed
  have none := (Bool.and_eq_true_iff.mp prepared).2
  simp only [Bool.not_eq_true', List.any_eq_false] at none
  exact absurd retries (none retry mem)

/-- In a real history every attempt before the current one was tried. -/
structure Counted (limit : Int) (ledger : Ledger) : Prop where
  newest : ∀ version ∈ ledger.versions, number version ≤ number ledger.stored
  executed : ∀ event ∈ ledger.log, ∀ attempt, event.executes attempt = true →
    attempt ≤ number ledger.stored
  retried : ∀ event ∈ ledger.log, ∀ attempt, event.retriesTo attempt = true →
    1 ≤ attempt ∧ attempt ≤ number ledger.stored
  running : ∀ version ∈ ledger.versions, version.status.phase = .running →
    number version = number ledger.stored →
      ledger.stored.status.phase = .running ∨ ledger.stored.status.phase.isTerminal = true
  claimed : ∀ event ∈ ledger.log, ∀ version ∈ ledger.versions,
    event.retriesTo (number version) = true →
      version.status.phase = .running ∨ version.status.phase.isTerminal = true
  below : ∀ attempt, 1 ≤ attempt → attempt < number ledger.stored → tried ledger.log attempt = true
  ordered : ledger.log.Pairwise fun newer older => ∀ attempt other,
    newer.retriesTo attempt = true → older.executes other = true → other < attempt
  real : AttemptsReal limit ledger.log

section Counted

variable {limit : Int} {deployment : Deployment} {world : World} {ledger : Ledger}
  {created : Run}

section Numbers

variable (lawful : LawfulRun created world.stored) (change : StoreChange deployment world ledger)

include lawful change

/-- The number of the stored attempt stays or advances by one. -/
theorem number_of_storeChange :
    number ledger.stored = number world.stored ∨ number ledger.stored = number world.stored + 1 :=
  (progress_of_storeChange change).number_eq lawful.lawful.nonneg

theorem number_le_of_storeChange :
    number world.stored ≤ number ledger.stored := by
  rcases number_of_storeChange lawful change with _ | _ <;> omega

end Numbers

/-- Runtimed counts a failure only when it has a cause: it retries where the Run is, or
ends it at the same attempt. -/
theorem statusWrite_counts {controller : Controller} {history : History} {base run : Run}
    {thereafter : List Edit} (nonneg : 0 ≤ base.status.attempt)
    (write : StatusWrite controller history base run thereafter) :
    (run.status.phase = base.status.phase ∧
        (base.status.phase = .running ∨ base.status.phase = .ready) ∧
        FailureCause history base) ∨
      (number run = number base ∧ (run.status.phase = .failed ∨ run.status.phase = .timeout →
          FailureCause history base)) := by
  have recorded := currentAttempt_currentAttempt nonneg
  cases write with
  | @claim time phase found =>
    have shape := course_claimStatus base time
    refine .inr ⟨congrArg currentAttempt (congrArg Course.attempt shape), ?_⟩
    have running : (claimStatus base time).status.phase = .running := congrArg Course.phase shape
    simp [running]
  | observe phase same =>
    refine .inr ⟨congrArg currentAttempt same.attempt, ?_⟩
    rcases phase with known | known <;> simp [same.phase, known]
  | @resume handle condition checked time phase found waiting failed read elapsed =>
    have shape := course_retryingStatus base time
    refine .inr ⟨congrArg currentAttempt (congrArg Course.attempt shape), ?_⟩
    have running : (retryingStatus base time).status.phase = .running :=
      (congrArg Course.phase shape).trans phase
    simp [running]
  | succeed phase same =>
    refine .inr ⟨?_, nofun⟩
    change currentAttempt (currentAttempt _) = _
    rw [same.attempt, recorded]
    rfl
  | retry phase same retries cause => exact .inl ⟨same.phase, phase, cause⟩
  | finish active same cause =>
    refine .inr ⟨?_, ?_⟩
    · change currentAttempt (currentAttempt _) = _
      rw [same.attempt, recorded]
      rfl
    · intro ended
      rcases cause with ⟨rfl, _⟩ | ⟨rfl, _⟩ | ⟨_, failure⟩
      · rcases ended with failed | timeout <;> contradiction
      · rcases ended with failed | timeout <;> contradiction
      · exact failure.1
  | sessionReady | functionReady | finalize => exact .inr ⟨rfl, nofun⟩

section Logs

variable (lawful : LawfulRun created world.stored) (change : StoreChange deployment world ledger)

include lawful change

/-- The events that a change adds. -/
theorem log_of_storeChange :
    ledger.log = world.log ∨ ∃ event, ledger.log = event :: world.log ∧
      (∀ attempt, event.retriesTo attempt = true →
        number world.stored < attempt ∧ attempt = number ledger.stored ∧
        ledger.stored.status.phase = world.stored.status.phase ∧
        (world.stored.status.phase = .running ∨ world.stored.status.phase = .ready)) ∧
      (∀ attempt, event.executes attempt = true → attempt = number world.stored) ∧
      (∀ limit, event.exhausts limit = true → limit ≤ number world.stored) := by
  cases change with
  | idle | amended => exact .inl rfl
  | @wrote writer status polled present write =>
    refine .inr ⟨_, rfl, ?_, nofun, fun limit ends =>
      of_decide_eq_true (Bool.and_eq_true_iff.mp (Bool.and_eq_true_iff.mp ends).1).2⟩
    intro attempt retries
    cases writer with
    | runtimed =>
      obtain ⟨raised, same⟩ := Bool.and_eq_true_iff.mp retries
      have reached : number (storeStatus world.stored status) = attempt := beq_iff_eq.mp same
      have rise := of_decide_eq_true raised
      refine ⟨reached ▸ rise, reached.symm, ?_⟩
      cases write with
      | runtimed mem holds write =>
        rcases statusWrite_counts lawful.lawful.nonneg write with
          ⟨kept, phase, _⟩ | ⟨kept, _⟩
        · exact ⟨kept, phase⟩
        · exact absurd kept rise.ne'
    | scheduler | reaper => cases retries
  | executed =>
    refine .inr ⟨_, rfl, nofun, ?_, nofun⟩
    intro attempt executes
    exact (beq_iff_eq.mp (Bool.and_eq_true_iff.mp executes).1).symm
  | queried => exact .inr ⟨_, rfl, nofun, nofun, nofun⟩

/-- An event is an old one, or it is told by the change. -/
theorem mem_log_of_storeChange (mem : event ∈ ledger.log) :
    event ∈ world.log ∨
      (∀ attempt, event.retriesTo attempt = true →
        number world.stored < attempt ∧ attempt = number ledger.stored ∧
        ledger.stored.status.phase = world.stored.status.phase ∧
        (world.stored.status.phase = .running ∨ world.stored.status.phase = .ready)) ∧
      ∀ attempt, event.executes attempt = true → attempt = number world.stored := by
  rcases log_of_storeChange lawful change with same | ⟨_, same, retries, executes, _⟩
  · exact .inl (same ▸ mem)
  rw [same] at mem
  rcases List.mem_cons.mp mem with rfl | old
  · exact .inr ⟨retries, executes⟩
  · exact .inl old

/-- What was tried up to the current attempt stays tried. -/
theorem tried_of_storeChange (reached : attempt ≤ number world.stored)
    (known : tried world.log attempt = true) :
    tried ledger.log attempt = true := by
  have longer : world.log <:+ ledger.log := by
    rcases log_of_storeChange lawful change with same | ⟨_, same, _⟩ <;> simp [same]
  refine tried_of_suffix longer (fun other mem => ?_) known
  refine (mem_log_of_storeChange lawful change mem).imp_right fun fresh => ?_
  refine eq_false_of_ne_true fun retried => ?_
  have := (fresh.1 attempt retried).1
  omega

end Logs

/-- A further event that is no retry and no exhaustion, or that comes after the trials it
needs. -/
theorem AttemptsReal.cons (real : AttemptsReal limit log)
    (between : (∃ attempt, event.retriesTo attempt = true) → ∀ middle first earlier,
      log = middle ++ first :: earlier → (∃ attempt, first.retriesTo attempt = true) →
        ∃ event ∈ middle, ∃ attempt, event.executes attempt = true)
    (exhausted : event.exhausts limit = true → ∀ attempt, 1 ≤ attempt → attempt ≤ limit →
      tried log attempt = true) : AttemptsReal limit (event :: log) where
  between later second middle first earlier shape firstRetries secondRetries := by
    cases later with
    | nil =>
      obtain ⟨rfl, rest⟩ := List.cons.inj shape
      obtain ⟨found, mem, _, executes⟩ :=
        between secondRetries middle first earlier rest firstRetries
      exact ⟨found, mem, executed_of_executes executes⟩
    | cons newest later =>
      exact real.between later second middle first earlier (List.cons.inj shape).2
        firstRetries secondRetries
  exhausted later last earlier shape ends attempt positive reached := by
    cases later with
    | nil =>
      obtain ⟨rfl, rfl⟩ := List.cons.inj shape
      rcases Bool.or_eq_true_iff.mp (exhausted ends attempt positive reached) with
        executed | prepared
      · rw [executed, Bool.true_or]
      · rw [(Bool.and_eq_true_iff.mp prepared).1, Bool.or_true]
    | cons newest later =>
      exact real.exhausted later last earlier (List.cons.inj shape).2 ends attempt positive reached

/-- Once the current attempt was tried, so was every attempt. -/
theorem Counted.tried_of_le (counted : Counted limit ledger)
    (current : tried ledger.log (number ledger.stored) = true) (positive : 1 ≤ attempt)
    (reached : attempt ≤ number ledger.stored) : tried ledger.log attempt = true := by
  rcases reached.eq_or_lt with rfl | former
  · exact current
  · exact counted.below attempt positive former

/-- Before a retry, every earlier retry was followed by an execution. -/
theorem Counted.between (counted : Counted limit ledger)
    (current : tried ledger.log (number ledger.stored) = true) {middle earlier : List Event}
    {first : Event} (shape : ledger.log = middle ++ first :: earlier)
    (retries : first.retriesTo attempt = true) :
    ∃ event ∈ middle, event.executes attempt = true := by
  have mem : first ∈ ledger.log := by simp [shape]
  obtain ⟨positive, reached⟩ := counted.retried first mem attempt retries
  obtain ⟨event, found, executes⟩ :=
    executes_of_tried (counted.tried_of_le current positive reached) mem retries
  rw [shape] at found
  rcases List.mem_append.mp found with inside | outside
  · exact ⟨event, inside, executes⟩
  rcases List.mem_cons.mp outside with rfl | older
  · rw [not_executes_of_retriesTo retries] at executes
    cases executes
  -- What was executed before the retry belongs to an earlier attempt.
  have pairs := counted.ordered
  rw [shape] at pairs
  have order := (List.pairwise_append.mp pairs).2.1
  have := (List.pairwise_cons.mp order).1 event older attempt attempt retries executes
  omega

/-- A change of the ledger keeps the count, if the attempt that it ends was tried. -/
theorem Counted.storeChange (counted : Counted limit world.toLedger)
    (lawful : LawfulRun created world.stored) (task : isLongLived created = false)
    (change : StoreChange deployment world ledger)
    (justified : number world.stored < number ledger.stored ∨
      (∃ event, ledger.log = event :: world.log ∧ event.exhausts limit = true) →
        tried world.log (number world.stored) = true) : Counted limit ledger := by
  have advance := number_of_storeChange lawful change
  have mono := number_le_of_storeChange lawful change
  have claimed (same : number ledger.stored = number world.stored)
      (known : world.stored.status.phase = .running ∨ world.stored.status.phase.isTerminal = true) :
      ledger.stored.status.phase = .running ∨ ledger.stored.status.phase.isTerminal = true := by
    have progress := progress_of_storeChange change
    rw [isLongLived_of_fixedSpec lawful.fixedSpec, task] at progress
    exact progress.of_claimed lawful.lawful.nonneg known same
  have older (version : Run) (mem : version ∈ world.versions) := counted.newest version mem
  have log := log_of_storeChange lawful change
  constructor
  case newest =>
    intro version mem
    rcases mem_versions_of_storeChange change mem with rfl | old
    · exact le_rfl
    · exact (older version old).trans mono
  case executed =>
    intro event mem attempt executes
    rcases mem_log_of_storeChange lawful change mem with old | ⟨_, executed⟩
    · exact (counted.executed event old attempt executes).trans mono
    · exact (executed attempt executes).le.trans mono
  case retried =>
    intro event mem attempt retries
    rcases mem_log_of_storeChange lawful change mem with old | ⟨retried, _⟩
    · have known := counted.retried event old attempt retries
      exact ⟨known.1, known.2.trans mono⟩
    · have positive : 1 ≤ number world.stored := one_le_currentAttempt lawful.lawful.nonneg
      obtain ⟨_, reached, _⟩ := retried attempt retries
      exact ⟨by omega, reached.le⟩
  case running =>
    intro version mem running same
    rcases mem_versions_of_storeChange change mem with rfl | old
    · exact .inl running
    · have := older version old
      exact claimed (by omega) (counted.running version old running (by omega))
  case claimed =>
    intro event mem version stored retries
    rcases mem_log_of_storeChange lawful change mem with former | ⟨retried, _⟩
    · rcases mem_versions_of_storeChange change stored with rfl | old
      · have reached := (counted.retried event former _ retries).2
        have kept : number ledger.stored = number world.stored := by omega
        exact claimed kept (counted.claimed event former world.stored (.head _)
          (kept ▸ retries))
      · exact counted.claimed event former version old retries
    · obtain ⟨_, _, phase, serving⟩ := retried _ retries
      rcases mem_versions_of_storeChange change stored with rfl | old
      · rcases serving with running | ready
        · exact .inl (phase.trans running)
        · cases task.symm.trans (lawful.lawful.serves (.inl ready))
      · have := older version old
        omega
  case below =>
    intro attempt positive less
    apply tried_of_storeChange lawful change (by omega)
    by_cases former : attempt < number world.stored
    · exact counted.below attempt positive former
    · exact counted.tried_of_le (justified (.inl (by omega))) positive (by omega)
  case ordered =>
    rcases log with same | ⟨_, same, retried, _⟩
    · rw [same]
      exact counted.ordered
    rw [same]
    refine List.pairwise_cons.mpr ⟨?_, counted.ordered⟩
    intro event mem attempt other retries executes
    have above := (retried attempt retries).1
    have := counted.executed event mem other executes
    omega
  case real =>
    rcases log with same | ⟨newest, same, retried, _, ends⟩
    · rw [same]
      exact counted.real
    rw [same]
    apply counted.real.cons
    · rintro ⟨attempt, retries⟩ _ _ _ shape ⟨former, formerRetries⟩
      obtain ⟨_, _⟩ := retried attempt retries
      have current := justified (.inl (by omega))
      obtain ⟨event, inside, executes⟩ := counted.between current shape formerRetries
      exact ⟨event, inside, former, executes⟩
    · intro exhausted attempt positive allowed
      exact counted.tried_of_le (justified (.inr ⟨newest, same, exhausted⟩)) positive
        (allowed.trans (ends limit exhausted))

end Counted

/-! ## What programs were shown -/

/-- The exchange shows something that counts as a failure of the attempt. -/
inductive Telling (older : History) : Exchange runtimed → Prop
  | response (response : StatusResponse) : Telling older ⟨.query .status, .response response⟩
  | missing {seen : Memory} (missing : seen.active = none) : Telling older ⟨.query .memory, seen⟩
  | started {seen : Memory} {handle : Nat} {run : Run} (awake : Awake older)
      (found : FoundEntry older handle)
      (observed : (seen.object handle run).started = true) :
      Telling older ⟨.query .memory, seen⟩
  | startFailure {seen : Memory} {handle : Nat} {run : Run} (awake : Awake older)
      (found : FoundEntry older handle)
      (recorded : (seen.object handle run).executionStart.isSome = true) :
      Telling older ⟨.query .memory, seen⟩
  | overdue {seen : Memory} {handle : Nat} {run : Run} {time deadline : Time}
      (awake : Awake older) (found : FoundEntry older handle)
      (read : (⟨.query .clock, time⟩ : Exchange runtimed) ∈ older)
      (due : (seen.object handle run).deadline = some deadline) (past : deadline < time) :
      Telling older ⟨.query .memory, seen⟩

/-- The attempt was tried, or it is over. -/
def Settled (ledger : Ledger) (attempt : Int) : Prop :=
  attempt ≤ number ledger.stored ∧
    (tried ledger.log attempt = true ∨ attempt < number ledger.stored ∨
      ledger.stored.status.phase.isTerminal = true)

/-- A program was shown the failure of settled attempts only, and its preparations are
recorded. -/
structure Informed (ledger : Ledger) (thread : Thread) : Prop where
  prepared : ∀ (answer : Option String) older first,
    (⟨.query .prepareSource, answer⟩ :: older : History) <:+ thread.exchanges →
    held older = some first → ledger.log.any (·.prepares (number first)) = true
  shown : ∀ exchange older first, exchange :: older <:+ thread.exchanges →
    Telling older exchange → held older = some first → first.status.phase = .running →
      Settled ledger (number first)

section Informed

variable {limit : Int} {deployment : Deployment} {world : World} {ledger : Ledger}
  {created : Run}

theorem Settled.storeChange (settled : Settled world.toLedger attempt)
    (lawful : LawfulRun created world.stored) (change : StoreChange deployment world ledger) :
    Settled ledger attempt := by
  have mono := number_le_of_storeChange lawful change
  obtain ⟨reached, known⟩ := settled
  refine ⟨reached.trans mono, ?_⟩
  rcases known with known | less | terminal
  · exact .inl (tried_of_storeChange lawful change reached known)
  · exact .inr (.inl (less.trans_le mono))
  · have kept := (progress_of_storeChange change).phase_of_isTerminal terminal
    exact .inr (.inr (by rw [show ledger.stored.status.phase = _ from kept]; exact terminal))

theorem Informed.storeChange (informed : Informed world.toLedger thread)
    (lawful : LawfulRun created world.stored) (later : world.toLedger.Extends ledger)
    (change : StoreChange deployment world ledger) : Informed ledger thread where
  prepared answer older first place holds := by
    obtain ⟨event, mem, prepares⟩ :=
      List.any_eq_true.mp (informed.prepared answer older first place holds)
    exact List.any_eq_true.mpr ⟨event, later.log.subset mem, prepares⟩
  shown exchange older first place telling holds running :=
    (informed.shown exchange older first place telling holds running).storeChange lawful change

theorem informed_of_exchanges (none : handed thread.exchanges = []) :
    Informed ledger thread := by
  have holds (exchange : Exchange runtimed) (older : History)
      (place : exchange :: older <:+ thread.exchanges) : held older = Option.none := by
    have short := (((List.suffix_cons exchange older).trans place).filterMap heldBy)
    change handed older <:+ handed thread.exchanges at short
    rw [none] at short
    rw [held, List.suffix_nil.mp short]
    rfl
  constructor
  · intro answer older first place held
    cases (holds _ older place).symm.trans held
  · intro exchange older first place _ held
    cases (holds _ older place).symm.trans held

/-- A fresh look tells nothing. -/
theorem not_telling_of_looksFresh {deployment : Deployment} {node : Node}
    (sound : SoundThread deployment ledger pod thread)
    (fresh : looksFresh ledger node thread = true) :
    ¬ Telling thread.exchanges ⟨.query .memory, node.memory⟩ := by
  obtain ⟨handle, active, inspected⟩ := (Option.any_eq_true _ _).mp fresh
  -- After the backoff, the entry that was found first is the one that is shown.
  have shown {other run} (awake : Awake thread.exchanges)
      (found : FoundEntry thread.exchanges other) :
      (node.memory.object other run).started = false ∧
        (node.memory.object other run).executionStart = none ∧
        ∀ deadline, (node.memory.object other run).deadline = some deadline →
          ledger.clock ≤ deadline := by
    obtain ⟨_, holds, resumed⟩ := awake
    simp only [holds, Option.any_some, resumed, Bool.false_or] at inspected
    obtain ⟨first, entry⟩ := Bool.and_eq_true_iff.mp inspected
    obtain ⟨object, stored, blank⟩ := (Option.any_eq_true _ _).mp entry
    obtain ⟨seen, looked, same⟩ := (Option.any_eq_true _ _).mp found
    rw [looked] at first
    have known : seen.active = some handle := beq_iff_eq.mp first
    have this : other = handle := Option.some.inj ((beq_iff_eq.mp same).symm.trans known)
    have object_eq : node.memory.object other run = object := by
      rw [this, Memory.object, List.getD_eq_getElem?_getD, stored]
      rfl
    obtain ⟨plain, ahead⟩ := Bool.and_eq_true_iff.mp blank
    obtain ⟨unmarked, unfailed⟩ := Bool.and_eq_true_iff.mp plain
    rw [object_eq]
    refine ⟨by simpa using unmarked, Option.isNone_iff_eq_none.mp unfailed, ?_⟩
    intro deadline due
    rw [due] at ahead
    exact of_decide_eq_true ahead
  intro telling
  cases telling with
  | missing none => cases active.symm.trans none
  | started awake found observed => cases (shown awake found).1.symm.trans observed
  | startFailure awake found recorded =>
    rw [(shown awake found).2.1] at recorded
    cases recorded
  | @overdue _ _ _ time deadline awake found read due past =>
    have reached := (shown awake found).2.2 deadline due
    exact absurd ((sound.read time read).trans reached) (not_le.mpr past)

/-- What a fair exchange tells a program about a running attempt is settled. -/
theorem settled_of_answers {i : Nat} {reply : Reply} {request : Call}
    {rest : Answer request → Process Result} {answer : Answer request}
    (sound : Sound deployment world) (counted : Counted limit world.toLedger)
    (fair : judgesFairly (.advance pod i reply) world = true)
    (answers : Answers world pod i reply thread request rest answer)
    (telling : Telling thread.exchanges ⟨request, answer⟩) {first : Run}
    (holds : held thread.exchanges = some first) (running : first.status.phase = .running) :
    Settled world.toLedger (number first) := by
  have soundThread := sound.threads pod thread answers.member
  have version := soundThread.versions first (List.mem_of_head? holds)
  have reached := counted.newest first version
  refine ⟨reached, ?_⟩
  by_cases former : number first < number world.stored
  · exact .inr (.inl former)
  have same : number first = number world.stored := by omega
  rcases counted.running first version running same with phase | terminal
  · by_cases known : tried world.log (number first) = true
    · exact .inl known
    -- Nothing was tried, so the exchange is a fair one.
    rw [same] at known
    have pending : untried world.toLedger = true := by
      simp [untried, phase, eq_false_of_ne_true known]
    have current : worksOnCurrent world.toLedger thread = true := by
      simp [worksOnCurrent, holds, running, same]
    simp only [judgesFairly, pending, answers.found, answers.program, current,
      Bool.not_true, Bool.false_or] at fair
    exfalso
    have answered := answers.answered
    have told := telling
    cases telling with
    | response =>
      rw [reports_of_answered answered] at fair
      cases fair
    | missing | started | startFailure | overdue =>
      obtain rfl := eq_memory_of_answerCall answered
      exact not_telling_of_looksFresh soundThread fair told
  · exact .inr (.inr terminal)

section Knowledge

variable (informed : Informed world.toLedger thread) (lived : Lived deployment created world)
  (counted : Counted limit world.toLedger)

include informed lived counted

/-- An answer leaves a program informed. -/
theorem Informed.resumed {i : Nat} {reply : Reply} {request : Call}
    {rest : Answer request → Process Result} {answer : Answer request}
    (fair : judgesFairly (.advance pod i reply) world = true)
    (answers : Answers world pod i reply thread request rest answer) :
    Informed (afterCall world pod thread request reply) (thread.resumed (world.nodes pod).server
        ((world.nodes pod).settled request rest answer reply).1 request answer) := by
  have lawful := lived.lawful _ (.head _)
  have change := storeChange_of_answers lived.sound answers
  have kept := informed.storeChange lawful (extends_afterCall _ _ _ _ _) change
  constructor
  · intro reported older first place holds
    rcases List.suffix_cons_iff.mp place with newest | former
    · obtain ⟨same, rfl⟩ := List.cons.inj newest
      cases same
      obtain ⟨_, rfl⟩ := reply_of_isExternal rfl answers.answered
      have recorded : Event.prepares (number first)
          (.queried pod world.clock (number world.stored) (held thread.exchanges)
            .prepareSource) = true := by
        simp [Event.prepares, holds]
      exact List.any_eq_true.mpr ⟨_, .head _, recorded⟩
    · exact kept.prepared reported older first former holds
  · intro exchange older first place telling holds running
    rcases List.suffix_cons_iff.mp place with newest | former
    · obtain ⟨rfl, rfl⟩ := List.cons.inj newest
      exact (settled_of_answers lived.sound counted fair answers telling holds
        running).storeChange lawful change
    · exact kept.shown exchange older first former telling holds running

/-- Runtimed counts the failure of tried attempts only. -/
theorem tried_of_failureCause (task : isLongLived created = false)
    (mem : thread ∈ (world.nodes pod).threads)
    (active : world.stored.status.phase.isActive = true)
    (cause : FailureCause thread.exchanges world.stored) :
    tried world.log (number world.stored) = true := by
  have lawful := lived.lawful _ (.head _)
  have shown {exchange older}
      (witnessed : Witnessed thread.exchanges older world.stored exchange)
      (telling : Telling older exchange) : tried world.log (number world.stored) = true := by
    obtain ⟨first, holds, running, same⟩ := witnessed.copy
    have settled := informed.shown exchange older first witnessed.later telling holds running
    rw [show number first = number world.stored from congrArg currentAttempt same] at settled
    rcases settled.2 with known | less | terminal
    · exact known
    · exact absurd less (lt_irrefl _)
    · cases (RunPhase.isActive_of_isTerminal terminal).symm.trans active
  cases cause with
  | @unprepared message older answered read =>
    obtain ⟨first, holds, _, same⟩ := answered.copy
    have prepared := informed.prepared _ older first answered.later holds
    rw [show number first = number world.stored from congrArg currentAttempt same] at prepared
    obtain ⟨claimed, handedOut, scheduled, equal⟩ := read
    have version := (lived.sound.threads pod thread mem).versions claimed handedOut
    -- The attempt was claimed after a binding, so no retry on the Pod led to it.
    have none : world.log.any (·.retriesTo (number world.stored)) = false := by
      rw [List.any_eq_false]
      intro event known retries
      rw [← show number claimed = number world.stored from congrArg currentAttempt equal] at retries
      have phase := counted.claimed event known claimed version retries
      simp [scheduled, RunPhase.isTerminal] at phase
    rw [tried, prepared, none]
    exact Bool.or_true _
  | overdue awake found looked read due past =>
    exact shown looked (.overdue awake found read due past)
  | startFailure awake found looked recorded =>
    exact shown looked (.startFailure awake found recorded)
  | lost awake found looked observed => exact shown looked (.started awake found observed)
  | answered polled => exact shown polled (.response _)
  | recovered looked missing => exact shown looked (.missing missing)
  | registration mode =>
    have longLived : isLongLived world.stored = true := Bool.or_eq_true_iff.mpr mode
    cases (isLongLived_of_fixedSpec lawful.fixedSpec ▸ longLived).symm.trans task
  | misplaced phase => cases task.symm.trans (lawful.lawful.serves (.inr phase))

end Knowledge

/-- A fair step ends tried attempts only. -/
theorem tried_of_step (informed : AllThreads (fun ledger _ => Informed ledger) world)
    (lived : Lived deployment created world) (counted : Counted limit world.toLedger)
    (task : isLongLived created = false) (fair : judgesFairly action world = true)
    (stepped : step deployment action world = some next)
    (ends : number world.stored < number next.stored ∨
      ∃ event, next.log = event :: world.log ∧ event.exhausts limit = true) :
    tried world.log (number world.stored) = true := by
  have lawful := (lived.lawful _ (.head _)).lawful
  have adds := @adds_of_step action deployment world next
  have change := storeChange_of_step lived.sound stepped
  generalize next.toLedger = ledger at change ends adds
  cases change with
  | idle =>
    rcases ends with raised | ⟨_, same, _⟩
    · exact absurd raised (lt_irrefl _)
    · exact absurd same.symm (List.cons_ne_self _ _)
  | @amended run gone present key name status spec version =>
    rcases ends with raised | ⟨_, same, _⟩
    · have kept : number run = number world.stored := by rw [number, status, number]
      exact absurd kept raised.ne'
    · exact absurd same.symm (List.cons_ne_self _ _)
  | executed | queried =>
    rcases ends with raised | ⟨_, same, exhausts⟩
    · exact absurd raised (lt_irrefl _)
    · obtain ⟨rfl, _⟩ := List.cons.inj same
      cases exhausts
  | wrote present write =>
    cases write with
    | @scheduler decision chosen made timely =>
      rcases ends with raised | ⟨_, same, exhausts⟩
      · -- No attempt is left for the scheduler to raise.
        have progress : Progress (number world.stored) false (course world.stored.status)
          (course chosen.status) := progress_of_decided made
        exact absurd (progress.number_of_limit lawful.nonneg le_rfl) raised.ne'
      · obtain ⟨rfl, _⟩ := List.cons.inj same
        cases exhausts
    | reaper found =>
      obtain ⟨_, _, _, _, rfl⟩ := adds stepped rfl
      have unmonitored := Reaper.runningRunPredicate_of_reconcile found
      have phase : world.stored.status.phase = .running := by
        have monitored := (Bool.and_eq_true_iff.mp unmonitored).1
        cases known : world.stored.status.phase with
        | running => rfl
        | ready => cases task.symm.trans (lawful.serves (.inl known))
        | finalizing => cases task.symm.trans (lawful.serves (.inr known))
        | _ => simp [known, Reaper.isStaleMonitoredRunPhase] at monitored
      simpa [judgesFairly, untried, phase] using fair
    | @runtimed pod thread run thereafter mem holds write =>
      have known := informed pod thread mem
      apply tried_of_failureCause known lived counted task mem write.isActive
      rcases statusWrite_counts lawful.nonneg write with ⟨_, _, cause⟩ | ⟨kept, ended⟩
      · exact cause
      rcases ends with raised | ⟨_, same, exhausts⟩
      · exact absurd kept raised.ne'
      obtain ⟨rfl, _⟩ := List.cons.inj same
      have phases := (Bool.and_eq_true_iff.mp exhausts).2
      rcases Bool.or_eq_true_iff.mp phases with failed | timeout
      · exact ended (.inl (beq_iff_eq.mp failed))
      · exact ended (.inr (beq_iff_eq.mp timeout))

end Informed

/-! ## Runs of fair steps -/

/-- What is known about every world that fair steps lead to. -/
structure Trialled (deployment : Deployment) (created : Run) (world : World) : Prop where
  lived : Lived deployment created world
  counted : Counted (attemptLimit created) world.toLedger
  informed : AllThreads (fun ledger _ => Informed ledger) world

theorem trialled_of_step {deployment : Deployment} {created : Run} {world : World}
    (task : isLongLived created = false) (fair : judgesFairly action world = true)
    (trialled : Trialled deployment created world)
    (stepped : step deployment action world = some next) :
    Trialled deployment created next := by
  obtain ⟨lived, counted, informed⟩ := trialled
  have lawful := lived.lawful _ (.head _)
  have change := storeChange_of_step lived.sound stepped
  refine ⟨lived_of_step lived stepped, ?_, ?_⟩
  · exact counted.storeChange lawful task change
      (tried_of_step informed lived counted task fair stepped)
  · refine allThreads_of_step ?_ ?_ ?_ ?_ informed stepped
    · intro pod thread known
      exact known.storeChange lawful (extends_of_step stepped) change
    · intro pod controller _
      exact ⟨informed_of_exchanges rfl, informed_of_exchanges rfl⟩
    · intro pod goroutine _
      exact informed_of_exchanges rfl
    · rintro _ _ _ _ _ _ _ answers rfl after known
      rw [after]
      exact known.resumed lived counted fair answers

theorem trialled_initial (deployment : Deployment) {created : Run} (new : IsNew created)
    (clock : Time) : Trialled deployment created (World.initial created clock) where
  lived := lived_initial deployment new clock
  counted := by
    have first : number created = 1 := by
      rcases new with status | status <;> rw [number, status] <;> rfl
    constructor
    case newest =>
      intro version mem
      rcases List.mem_singleton.mp mem with rfl
      exact le_rfl
    case executed => intro event none; cases none
    case retried => intro event none; cases none
    case running =>
      intro version mem running _
      rcases List.mem_singleton.mp mem with rfl
      exact .inl running
    case claimed => intro event none; cases none
    case below =>
      intro attempt positive less
      change attempt < number created at less
      omega
    case ordered => exact .nil
    case real =>
      constructor
      · intro later second middle first earlier shape
        cases later <;> cases shape
      · intro later last earlier shape
        cases later <;> cases shape
  informed pod thread mem := by cases mem

/-- As long as nothing counts as the failure of an attempt before it was tried, every attempt
of a task is real. -/
theorem attemptsReal_of_guarded_run (deployment : Deployment) {created : Run}
    (new : IsNew created) (task : isLongLived created = false) {clock : Time}
    {actions : List Action} {world : World}
    (ran : run (restrict (fun action world => judgesFairly action world = true)
      (step deployment)) actions (World.initial created clock) = some world) :
    AttemptsReal (attemptLimit created) world.log :=
  (invariant_of_guarded_run _ _ (Trialled deployment created) (trialled_of_step task)
    (trialled_initial deployment new clock) ran).counted.real

/-! ## A task that fails -/

/-- A task is executed and fails, and does so again after its backoff. -/
def exhaustedActions : List Action :=
  [.schedule 0 .backfill] ++ bindTo Scheduler.smallPod 0 ++ claimOn "runtime-0" ++
    startOn "runtime-0" 0 ++ failOn "runtime-0" 0 ++ [.tick second] ++ resumeOn "runtime-0" ++
    startOn "runtime-0" 2 ++ failOn "runtime-0" 2

theorem attemptsReal_exhaustedActions :
    ∃ world, run (restrict (fun action world => judgesFairly action world = true)
        (step smallDeployment)) exhaustedActions (World.initial (retriedRun 2) 0) = some world ∧
      world.stored.status.phase = .failed ∧
      AttemptsReal (attemptLimit (retriedRun 2)) world.log := by
  apply exists_reached_and
  · decide +kernel
  · exact fun _ ran _ => attemptsReal_of_guarded_run smallDeployment (by decide) (by decide) ran

/-- A task is executed and fails; runtimed restarts during the backoff and finds no
execution. -/
def restartedActions : List Action :=
  [.schedule 0 .backfill] ++ bindTo Scheduler.smallPod 0 ++ claimOn "runtime-0" ++
    startOn "runtime-0" 0 ++ failOn "runtime-0" 0 ++
    .restart "runtime-0" :: .trigger "runtime-0" :: advances "runtime-0"
      [.version 0, .own, .answer .status .notFound {}, .own, .own, .accepted]

/-- Runtimed counted a failure. -/
def Event.isRetry : Event → Bool
  | .wrote (.runtimed _) _ old new _ => decide (number old < number new)
  | _ => false

theorem Event.exists_retriesTo (retry : event.isRetry = true) :
    ∃ attempt, event.retriesTo attempt = true := by
  cases event with
  | wrote writer time old new =>
    cases writer with
    | runtimed => exact ⟨number new, Bool.and_eq_true_iff.mpr ⟨retry, beq_self_eq_true _⟩⟩
    | scheduler | reaper => cases retry
  | executed | queried => cases retry

/-- Two retries stand in the history without an execution between them. -/
def countsTwice : List Event → Bool
  | [] => false
  | second :: rest =>
    second.isRetry && rest.any Event.isRetry && (rest.takeWhile (!·.isRetry)).all fun event =>
        match event with
        | .executed .. => false
        | _ => true

theorem not_attemptsReal_of_countsTwice {limit : Int} (twice : countsTwice log = true) :
    ¬ AttemptsReal limit log := by
  intro real
  cases log with
  | nil => cases twice
  | cons second rest =>
    obtain ⟨retries, idle⟩ := Bool.and_eq_true_iff.mp twice
    obtain ⟨last, former⟩ := Bool.and_eq_true_iff.mp retries
    obtain ⟨retry, mem, counted⟩ := List.any_eq_true.mp former
    cases behind : rest.dropWhile (!·.isRetry) with
    | nil =>
      have none := List.dropWhile_eq_nil_iff.mp behind retry mem
      simp [counted] at none
    | cons first earlier =>
      have isFirst : first.isRetry = true := by
        have head := List.head?_dropWhile_not (fun event : Event => !event.isRetry) rest
        simpa [behind] using head
      have shape : second :: rest =
          [] ++ second :: (rest.takeWhile (!·.isRetry) ++ first :: earlier) := by
        rw [← behind, List.takeWhile_append_dropWhile]
        rfl
      obtain ⟨_, inside, _, _, _, _, _, rfl⟩ :=
        real.between _ _ _ _ _ shape (Event.exists_retriesTo isFirst) (Event.exists_retriesTo last)
      cases List.all_eq_true.mp idle _ inside

/-- The restart consumes the second attempt, which was never executed. -/
theorem exists_not_attemptsReal :
    ∃ actions world, run (step smallDeployment) actions (World.initial (retriedRun 3) 0) =
        some world ∧
      world.stored.status.attempt = 3 ∧
      ¬ AttemptsReal (attemptLimit (retriedRun 3)) world.log := by
  refine ⟨restartedActions, exists_reached (fun world => world.stored.status.attempt = 3 ∧
    countsTwice world.log = true) (by decide +kernel) ?_⟩
  rintro world _ ⟨attempt, twice⟩
  exact ⟨attempt, not_attemptsReal_of_countsTwice twice⟩

end Kruntimes.Lifecycle
