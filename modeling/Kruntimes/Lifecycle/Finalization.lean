import Kruntimes.Lifecycle.Alone
import Kruntimes.Lifecycle.Restarts

/-!
# Finalization and crashes

A runtimed that restarts while a Session is being finalized asks its Runtime Server for the
Session.  If the Session has been closed before the restart, the server does not know it any
more, and runtimed takes the finished work for a lost one.  As long as every such question is
answered with a Session that is served, or not answered, and no shutdown drains the Session,
finalization ends in success only, and the workspace stays until then.
-/

namespace Kruntimes.Lifecycle

open Api Transition Runtimed

variable {identity : SessionIdentity}

/-! ## The property -/

/-- A step leaves a Finalizing Session as it is, or ends it in success with the references of
all that was staged on its Pod.  The workspace is not removed. -/
structure FinalizesSafely (deployment : Deployment) (world next : World) : Prop where
  outcome : next.stored.status.phase = .finalizing ∨ (next.stored.status.phase = .succeeded ∧
      ∃ thread ∈ (world.nodes world.stored.status.assignedPod).threads,
        Exported (deployment.controllers world.stored.status.assignedPod) thread.exchanges
          next.stored.status.artifactRefs)
  workspace : ∀ pod time attempt copy,
    next.log ≠ .queried pod time attempt copy .cleanupRunFiles :: world.log

/-! ## The condition -/

/-- The answer ends a finalization: a deadline has come, the Session is not served any more, or
an artifact is refused. -/
def disturbs (clock : Time) (copy : Run) : Exchange runtimed → Bool
  | ⟨.query .memory, seen⟩ =>
    (newActiveRun copy).isDue clock || (seen : Memory).objects.any fun object => object.isDue clock
  | ⟨.query (.sessionStatus _), polled⟩ => isUnhosted polled
  | exchange => isSpoiled exchange

/-- No program is disturbed that works on a Finalizing Run. -/
def answersUndisturbed (world : World) (pod : String) (thread : Thread) (request : Call)
    (reply : Reply) : Bool :=
  (answerCall world (world.nodes pod) request reply).all fun answer =>
    (held thread.exchanges).all fun copy =>
      copy.status.phase != .finalizing || !disturbs world.clock copy ⟨request, answer⟩

/-- The Run is not deleted.  While it is Finalizing, its Pod lives, nobody asks for an immediate
termination, no program is disturbed, and no shutdown drain is at work.  `Get` returns Runs of
the Pod. -/
def leavesFinalizing (action : Action) (world : World) : Bool :=
  !(world.stored.status.phase == .finalizing && world.stored.spec.hasImmediateTermination) &&
  match action with
  | .delete => false
  | .reap _ _ _ _ => world.stored.status.phase != .finalizing
  | .advance pod index reply =>
    match (world.nodes pod).threads[index]? with
    | none => true
    | some thread =>
      match thread.program with
      | .call request _ =>
        answersUndisturbed world pod thread request reply &&
          (request != .get || readsOwn world.toLedger pod reply) &&
          !(world.stored.status.phase == .finalizing && decide (Draining thread.exchanges))
      | _ => true
  | _ => true

/-! ## The Run object -/

/-- No version of the Run is deleted, and all have its identity. -/
structure Intact (created : Run) (ledger : Ledger) : Prop where
  present : ledger.gone = false
  versions : ∀ version ∈ ledger.versions, version.uid = created.uid ∧ version.deleting = false

section Intact

variable {created : Run} {ledger : Ledger}

theorem Intact.store (intact : Intact created ledger) (run : Run)
    (uid : run.uid = ledger.stored.uid) (deleting : run.deleting = ledger.stored.deleting) :
    Intact created (ledger.store run) := by
  obtain ⟨named, kept⟩ := intact.versions ledger.stored (.head _)
  refine ⟨intact.present, List.forall_mem_cons.mpr ⟨?_, intact.versions⟩⟩
  exact ⟨uid.trans named, deleting.trans kept⟩

theorem Intact.storeStatus (intact : Intact created ledger) (writer : Writer)
    (status : RunStatus) (polled : Option Int) :
    Intact created (ledger.storeStatus writer status polled) :=
  have stored := intact.store (Api.storeStatus ledger.stored status) rfl rfl
  ⟨stored.present, stored.versions⟩

theorem Intact.storeMetadata (intact : Intact created ledger) (finalizers : List String) :
    Intact created (ledger.storeMetadata finalizers) := by
  have stored := intact.store (Api.storeMetadata ledger.stored finalizers) rfl rfl
  refine ⟨?_, stored.versions⟩
  simp [Ledger.storeMetadata, (intact.versions ledger.stored (.head _)).2]

theorem intact_of_step {deployment : Deployment} {action : Action} {world next : World}
    (intact : Intact created world.toLedger)
    (guarded : leavesFinalizing action world = true)
    (stepped : step deployment action world = some next) : Intact created next.toLedger := by
  cases change_of_step stepped with
  | tick => exact ⟨intact.present, intact.versions⟩
  | terminate => exact intact.store _ rfl rfl
  | delete => simp [leavesFinalizing] at guarded
  | finalizers | abandon =>
    exact intact.storeMetadata _
  | schedule | reap =>
    exact intact.storeStatus _ _ _
  | @advance pod i reply thread request rest answer answers =>
    change Intact created (afterCall world pod thread request reply)
    unfold afterCall
    split
    iterate 2 exact intact.storeStatus _ _ _
    iterate 4 exact intact.storeMetadata _
    · exact ⟨intact.present, intact.versions⟩
    · exact ⟨intact.present, intact.versions⟩
    · exact intact
  | _ => exact intact

end Intact

/-! ## What a program has learnt -/

/-- The exchange does not end a finalization. -/
structure Undisturbing (older : History) (exchange : Exchange runtimed) : Prop where
  timely : ∀ {seen : Memory} {copy : Run} {time : Time},
    exchange = ⟨.query .memory, seen⟩ → held older = some copy →
    (⟨.query .clock, time⟩ : Exchange runtimed) ∈ older →
    ∀ handle, (seen.object handle copy).isDue time = false
  hosted : ∀ {identity : SessionIdentity} {polled : Polled SessionState},
    exchange = ⟨.query (.sessionStatus identity), polled⟩ → isUnhosted polled = false
  sound : isSpoiled exchange = false

/-- A program of a guarded run. -/
structure UndisturbedThread (ledger : Ledger) (pod : String) (thread : Thread) : Prop where
  own : ∀ run ∈ handed thread.exchanges, run.status.assignedPod = pod
  undisturbed : ∀ {older exchange}, WhileFinalizing thread.exchanges older exchange →
    Undisturbing older exchange
  undeleted : ¬ Deleted thread.exchanges
  ended : Ended thread.exchanges → ledger.stored.status.phase.isTerminal = true

theorem isDue_of_le {object : ActiveRun} {time clock : Time} (early : time ≤ clock)
    (timely : object.isDue clock = false) : object.isDue time = false := by
  unfold ActiveRun.isDue at timely ⊢
  cases deadline : object.deadline with
  | none => rfl
  | some =>
    rw [deadline] at timely
    simp only [Option.any_some, decide_eq_false_iff_not, not_le] at timely ⊢
    exact lt_of_le_of_lt early timely

/-- An object is among those of the memory, or fresh. -/
theorem object_mem (memory : Memory) (handle : Nat) (run : Run) :
    memory.object handle run ∈ memory.objects ∨ memory.object handle run = newActiveRun run := by
  unfold Memory.object
  rw [List.getD_eq_getElem?_getD]
  cases found : memory.objects[handle]? with
  | none => exact .inr rfl
  | some => exact .inl (List.mem_of_getElem? found)

section Resumed

variable {deployment : Deployment} {world : World} {pod : String} {i : Nat} {reply : Reply}
  {thread : Thread} {request : Call} {rest : Answer request → Process Result}
  {answer : Answer request}

theorem guarded_of_answers (guarded : leavesFinalizing (.advance pod i reply) world = true)
    (answers : Answers world pod i reply thread request rest answer) :
    answersUndisturbed world pod thread request reply = true ∧
      (request = .get → readsOwn world.toLedger pod reply = true) ∧
      (world.stored.status.phase = .finalizing → ¬ Draining thread.exchanges) := by
  simp only [leavesFinalizing, answers.found, answers.program, Bool.and_eq_true] at guarded
  obtain ⟨_, ⟨undisturbed, reads⟩, undrained⟩ := guarded
  refine ⟨undisturbed, ?_, fun finalizing => ?_⟩
  · rintro rfl
    simpa using reads
  · simpa [finalizing] using undrained

/-- The answers of a guarded run disturb no finalization. -/
theorem undisturbing_of_answers {copy : Run} (sound : Sound deployment world)
    (guarded : answersUndisturbed world pod thread request reply = true)
    (answers : Answers world pod i reply thread request rest answer)
    (holds : held thread.exchanges = some copy) (phase : copy.status.phase = .finalizing) :
    Undisturbing thread.exchanges ⟨request, answer⟩ := by
  have harmless : disturbs world.clock copy ⟨request, answer⟩ = false := by
    simpa [answersUndisturbed, answers.answered, holds, phase] using guarded
  have read := (sound.threads pod thread answers.member).read
  constructor
  · intro seen other time same known clocked handle
    cases same
    cases holds.symm.trans known
    obtain ⟨fresh, stored⟩ := Bool.or_eq_false_iff.mp harmless
    refine isDue_of_le (read time clocked) ?_
    rcases object_mem seen handle copy with mem | new
    · exact eq_false_of_ne_true (List.any_eq_false.mp stored _ mem)
    · rw [new]
      exact fresh
  · intro identity polled same
    cases same
    exact harmless
  · cases request with
    | query query => cases query <;> first | rfl | exact harmless
    | _ => rfl

theorem whileFinalizing_cons {history older : History} {exchange new : Exchange runtimed}
    (during : WhileFinalizing (new :: history) older exchange) :
    (exchange = new ∧ older = history) ∨ WhileFinalizing history older exchange := by
  rcases List.suffix_cons_iff.mp during.later with same | longer
  · obtain ⟨rfl, rfl⟩ := List.cons.inj same
    exact .inl ⟨rfl, rfl⟩
  · exact .inr ⟨longer, during.copy⟩

/-- Nobody is told that an intact Run is deleted. -/
theorem undeleted_of_answers {created : Run} (intact : Intact created world.toLedger)
    (answers : Answers world pod i reply thread request rest answer)
    (undeleted : ¬ Deleted thread.exchanges) :
    ¬ Deleted (⟨request, answer⟩ :: thread.exchanges) := by
  have answered := answers.answered
  rintro (mem | ⟨run, mem, deleting⟩)
  · rcases List.mem_cons.mp mem with same | old
    · cases same
      cases reply with
      | version =>
        obtain ⟨_, _, other⟩ := Option.map_eq_some_iff.mp answered
        cases other
      | absent =>
        obtain ⟨gone, _⟩ := Option.ite_none_right_eq_some.mp answered
        cases intact.present.symm.trans gone
      | _ => cases answered
    · exact undeleted (.inl old)
  · rcases List.mem_cons.mp mem with same | old
    · cases same
      have version : run ∈ (afterCall world pod thread _ reply).versions :=
        mem_versions_of_heldBy answered rfl
      cases (intact.versions run version).2.symm.trans deleting
    · exact undeleted (.inr ⟨run, old, deleting⟩)

/-- A program that has ended the Run finds it ended. -/
theorem ended_of_answers (answers : Answers world pod i reply thread request rest answer)
    (kept : Ended thread.exchanges →
      (afterCall world pod thread request reply).stored.status.phase.isTerminal = true)
    (ended : Ended (⟨request, answer⟩ :: thread.exchanges)) :
    (afterCall world pod thread request reply).stored.status.phase.isTerminal = true := by
  obtain ⟨run, stored, mem, terminal⟩ := ended
  rcases List.mem_cons.mp mem with same | old
  · cases same
    have answered := answers.answered
    cases reply with
    | accepted => exact terminal
    | lost => cases (Option.ite_none_right_eq_some.mp answered).2
    | refused | _ => cases answered
  · exact kept ⟨run, stored, old, terminal⟩

end Resumed

/-- A program begins with its arguments, if any. -/
theorem undisturbedThread_begin {ledger : Ledger} {pod : String} {worker : Bool}
    {program : Process Result} {exchanges : History}
    (plain : ∀ exchange ∈ exchanges, ∃ goroutine : Goroutine,
      exchange = ⟨.query .arguments, goroutine⟩) :
    UndisturbedThread ledger pod { worker, program, exchanges } := by
  have unread : ∀ run, run ∉ handed exchanges := by
    intro run mem
    obtain ⟨exchange, known, hands⟩ := List.mem_filterMap.mp mem
    obtain ⟨_, rfl⟩ := plain exchange known
    cases hands
  refine ⟨fun run mem => absurd mem (unread run), ?_, ?_, ?_⟩
  · intro older exchange during
    obtain ⟨copy, holds, _⟩ := during.copy
    have earlier := ((List.suffix_cons _ _).trans during.later).filterMap heldBy
    exact absurd (earlier.subset (List.mem_of_head? holds)) (unread copy)
  · rintro (mem | ⟨_, mem, _⟩)
    · obtain ⟨_, same⟩ := plain _ mem
      cases same
    · obtain ⟨_, same⟩ := plain _ mem
      cases same
  · rintro ⟨_, _, mem, _⟩
    obtain ⟨_, same⟩ := plain _ mem
    cases same

/-! ## Whole runs -/

/-- The invariant of guarded runs. -/
structure Undisturbed (deployment : Deployment) (created : Run) (world : World) : Prop where
  lived : Lived deployment created world
  intact : Intact created world.toLedger
  threads : AllThreads UndisturbedThread world

section Invariant

variable {deployment : Deployment} {created : Run} {action : Action} {world next : World}

theorem isTerminal_of_step (sound : Sound deployment world)
    (stepped : step deployment action world = some next)
    (terminal : world.stored.status.phase.isTerminal = true) :
    next.stored.status.phase.isTerminal = true := by
  have progress := progress_of_storeChange (storeChange_of_step sound stepped)
  have kept := progress.phase_of_isTerminal terminal
  exact (congrArg RunPhase.isTerminal kept).trans terminal

theorem undisturbed_of_step (guarded : leavesFinalizing action world = true)
    (undisturbed : Undisturbed deployment created world)
    (stepped : step deployment action world = some next) :
    Undisturbed deployment created next where
  lived := lived_of_step undisturbed.lived stepped
  intact := intact_of_step undisturbed.intact guarded stepped
  threads := by
    have sound := undisturbed.lived.sound
    refine allThreads_of_step ?_ ?_ ?_ ?_ undisturbed.threads stepped
    · intro pod thread known
      exact ⟨known.own, known.undisturbed, known.undeleted,
        fun ended => isTerminal_of_step sound stepped (known.ended ended)⟩
    · intro pod controller _
      have plain : ∀ exchange ∈ ([] : History), ∃ goroutine : Goroutine,
          exchange = ⟨.query .arguments, goroutine⟩ :=
        fun _ mem => absurd mem List.not_mem_nil
      exact ⟨undisturbedThread_begin plain, undisturbedThread_begin plain⟩
    · intro pod goroutine _
      exact undisturbedThread_begin fun exchange mem =>
        ⟨goroutine, List.mem_singleton.mp mem⟩
    · intro pod i reply thread request rest answer answers performed after known
      subst performed
      obtain ⟨harmless, reads, _⟩ := guarded_of_answers guarded answers
      refine ⟨assignedPod_of_resumed sound reads answers known.own, ?_,
        undeleted_of_answers undisturbed.intact answers known.undeleted, ?_⟩
      · intro older exchange during
        rcases whileFinalizing_cons during with ⟨rfl, rfl⟩ | before
        · obtain ⟨_, holds, phase⟩ := during.copy
          exact undisturbing_of_answers sound harmless answers holds phase
        · exact known.undisturbed before
      · rw [after]
        refine ended_of_answers answers fun ended => ?_
        rw [← after]
        exact isTerminal_of_step sound stepped (known.ended ended)

theorem undisturbed_initial (deployment : Deployment) (new : IsNew created)
    (kept : created.deleting = false) (clock : Time) :
    Undisturbed deployment created (World.initial created clock) where
  lived := lived_initial deployment new clock
  intact := ⟨rfl, fun version mem => by
    rcases List.mem_singleton.mp mem with rfl
    exact ⟨rfl, kept⟩⟩
  threads pod thread mem := by cases mem

/-! ## Steps from a Finalizing Session -/

/-- A Finalizing Session has an identity. -/
theorem Undisturbed.identified (undisturbed : Undisturbed deployment created world)
    (named : created.uid ≠ "") (session : created.spec.mode.session.isSome = true)
    (finalizing : world.stored.status.phase = .finalizing) :
    ∃ identity, sessionIdentityForRun world.stored = .ok identity := by
  have lawful := undisturbed.lived.lawful world.stored (.head _)
  have uid := (undisturbed.intact.versions world.stored (.head _)).1
  have active : world.stored.status.phase.isActive = true := by rw [finalizing]; rfl
  have assigned : world.stored.status.assignedPodUID ≠ "" := (lawful.lawful.assigned active).2
  have mode : world.stored.spec.mode = created.spec.mode :=
    (congrArg RunSpec.mode lawful.fixedSpec :)
  have isSession : world.stored.spec.mode.session.isNone = false := by
    rw [mode]
    simpa using session
  refine ⟨⟨created.uid, world.stored.status.assignedPodUID⟩, ?_⟩
  rw [sessionIdentityForRun, uid, if_neg named, if_neg assigned, isSession,
    if_neg Bool.false_ne_true]

/-- No program of a guarded run has seen a reason to give the finalization up. -/
theorem not_finalizationFailure {pod : String} {thread : Thread}
    (known : UndisturbedThread world.toLedger pod thread)
    (identified : sessionIdentityForRun world.stored = .ok identity) :
    ¬ FinalizationFailure thread.exchanges world.stored := by
  intro failure
  cases failure with
  | expired looked holds read due =>
    cases ((known.undisturbed looked).timely rfl holds read _).symm.trans due
  | unhosted asked unready => cases ((known.undisturbed asked).hosted rfl).symm.trans unready
  | unidentified unknown => cases identified.symm.trans unknown
  | spoiled told refused => cases (known.undisturbed told).sound.symm.trans refused
  | misplaced mode =>
    have isSession := (isSome_of_sessionIdentity identified).2
    rw [mode] at isSession
    cases isSession

/-- What runtimed writes over a Finalizing Session. -/
theorem outcome_of_statusWrite {controller : Controller} {history : History} {base run : Run}
    {thereafter : List Edit} (write : StatusWrite controller history base run thereafter)
    (finalizing : base.status.phase = .finalizing)
    (unterminated : base.spec.hasImmediateTermination = false)
    (undisturbed : ¬ FinalizationFailure history base) :
    run.status.phase = .finalizing ∨ (run.status.phase = .succeeded ∧
        Exported controller history run.status.artifactRefs) := by
  have elsewhere : base.status.phase = .running ∨ base.status.phase = .ready → False := by
    rw [finalizing]
    rintro (other | other) <;> cases other
  cases write with
  | claim phase => cases finalizing.symm.trans phase
  | observe phase same => exact .inl (same.phase.trans finalizing)
  | resume phase | succeed phase | sessionReady phase | functionReady phase =>
    exact (elsewhere (.inl phase)).elim
  | retry phase | finalize phase => exact (elsewhere phase).elim
  | finish active same cause exported =>
    rcases cause with ⟨_, requested, _⟩ | ⟨rfl, _⟩ | ⟨_, _, failure⟩
    · cases unterminated.symm.trans requested
    · exact .inr ⟨rfl, exported rfl⟩
    · exact absurd (failure finalizing) undisturbed

theorem Undisturbed.outcome_of_step (undisturbed : Undisturbed deployment created world)
    (named : created.uid ≠ "") (session : created.spec.mode.session.isSome = true)
    (finalizing : world.stored.status.phase = .finalizing)
    (guarded : leavesFinalizing action world = true)
    (stepped : step deployment action world = some next) :
    next.stored.status.phase = .finalizing ∨ (next.stored.status.phase = .succeeded ∧
        ∃ thread ∈ (world.nodes world.stored.status.assignedPod).threads,
          Exported (deployment.controllers world.stored.status.assignedPod) thread.exchanges
            next.stored.status.artifactRefs) := by
  obtain ⟨_, identified⟩ := undisturbed.identified named session finalizing
  have sound := undisturbed.lived.sound
  have unterminated : world.stored.spec.hasImmediateTermination = false := by
    simp only [leavesFinalizing, Bool.and_eq_true] at guarded
    simpa [finalizing] using guarded.1
  cases change_of_step stepped with
  | schedule read made accepted =>
    have stored := decided_stored sound read made accepted
    have established : isEstablished world.stored.status.phase = true := by
      rw [finalizing]
      rfl
    exact .inl ((phase_of_decided stored established).trans finalizing)
  | abandon | reap => simp [leavesFinalizing, finalizing] at guarded
  | @advance pod i reply thread request rest answer answers =>
    change (afterCall world pod thread request reply).stored.status.phase = _ ∨
      (afterCall world pod thread request reply).stored.status.phase = _ ∧
        ∃ thread' ∈ _, Exported _ _
          (afterCall world pod thread request reply).stored.status.artifactRefs
    have known := undisturbed.threads pod thread answers.member
    have soundThread := sound.threads pod thread answers.member
    have conforms := soundThread.conforms
    rw [answers.program] at conforms
    cases request with
    | updateStatus =>
      obtain ⟨_, holds, write⟩ := conforms.1
      cases reply with
      | accepted | lost =>
        obtain ⟨accepted, _⟩ := Option.ite_none_right_eq_some.mp answers.answered
        obtain rfl := held_eq_stored sound.ordered soundThread holds write.resourceVersion accepted
        have own := known.own world.stored (List.mem_of_head? holds)
        rcases outcome_of_statusWrite write finalizing unterminated
          (not_finalizationFailure known identified) with same | ⟨ended, exported⟩
        · exact .inl same
        · rw [own]
          exact .inr ⟨ended, thread, answers.member, exported⟩
      | _ => exact .inl finalizing
    | update | updateLogged | query => cases reply <;> exact .inl finalizing
    | _ => exact .inl finalizing
  | _ => exact .inl finalizing

theorem Undisturbed.workspace_of_step (undisturbed : Undisturbed deployment created world)
    (finalizing : world.stored.status.phase = .finalizing)
    (guarded : leavesFinalizing action world = true)
    (stepped : step deployment action world = some next) (pod : String) (time : Time)
    (attempt : Int) (copy : Option Run) :
    next.log ≠ .queried pod time attempt copy .cleanupRunFiles :: world.log := by
  intro removed
  obtain ⟨_, _, thread, _, _, rfl, answers⟩ := adds_of_step stepped removed
  have known := undisturbed.threads pod thread answers.member
  have conforms := (undisturbed.lived.sound.threads pod thread answers.member).conforms
  rw [answers.program] at conforms
  -- The files are removed after the end, for a deleted Run, or in a shutdown.
  rcases conforms.1 with ended | deleted | draining
  · have terminal := known.ended ended
    rw [finalizing] at terminal
    cases terminal
  · exact known.undeleted deleted
  · exact (guarded_of_answers guarded answers).2.2 finalizing draining

end Invariant

/-! ## The way to the end -/

/-- The Pod of a Finalizing Session can go on: no reconcile is in progress, its runtimed watches
the Run and has an artifact store, no other Run has the place of the Session, nobody has asked
for an immediate termination, and no deadline has come. -/
structure Resumable (deployment : Deployment) (world : World) (pod : String) : Prop where
  idle : ∀ thread ∈ (world.nodes pod).threads, thread.worker = false
  watched : runFilter (deployment.controllers pod) world.stored = true
  store : (deployment.controllers pod).artifactStore = true
  configured : (deployment.controllers pod).artifactStoreSpec = true
  alone : (world.nodes pod).memory.others = 0
  unterminated : world.stored.spec.hasImmediateTermination = false
  fresh : (newActiveRun world.stored).isDue world.clock = false
  timely : ∀ object ∈ (world.nodes pod).memory.objects, object.isDue world.clock = false

section Progress

variable {deployment : Deployment} {created : Run} {world : World} {pod : String}

theorem Undisturbed.finalizing (undisturbed : Undisturbed deployment created world)
    (finalizing : world.stored.status.phase = .finalizing)
    (identified : sessionIdentityForRun world.stored = .ok identity)
    (resumable : Resumable deployment world pod) :
    (world.site pod).Finalizing identity where
  present := undisturbed.intact.present
  kept := (undisturbed.intact.versions world.stored (.head _)).2
  phase := finalizing
  identified := identified
  unterminated := resumable.unterminated
  timely handle := by
    change ((world.nodes pod).memory.object handle world.stored).isDue world.clock = false
    rcases object_mem (world.nodes pod).memory handle world.stored with mem | new
    · exact resumable.timely _ mem
    · rw [new]
      exact resumable.fresh

/-- One reconcile after the other. -/
theorem leftAlone_of_reconcile_twice (outside : Outside Server) (sound : Sound deployment world)
    (idle : ∀ thread ∈ (world.nodes pod).threads, thread.worker = false)
    (watched : runFilter (deployment.controllers pod) world.stored = true) :
    ∃ n, (∃ last, LeftAlone deployment outside pod n world last) ∧
      ∀ last, LeftAlone deployment outside pod n world last → last.site pod =
        (Site.perform outside (reconcile (deployment.controllers pod))
          (Site.perform outside (reconcile (deployment.controllers pod))
            (world.site pod)).2).2 := by
  obtain ⟨⟨middle, first⟩, reaches⟩ := leftAlone_of_reconcile outside sound idle
    ⟨world.stored, .head _, watched⟩
  have second (middle : World) (alone : LeftAlone deployment outside pod _ world middle) :=
    leftAlone_of_reconcile outside (alone.invariant sound_of_step sound)
      ((reaches middle alone).2 ▸ idle)
      ⟨world.stored, alone.mem_versions (.head _), watched⟩
  obtain ⟨last, continued⟩ := (second middle first).1
  refine ⟨_, ⟨last, first.append continued⟩, fun last alone => ?_⟩
  obtain ⟨between, before, after⟩ := alone.split
  rw [(reaches middle first).1, ← (reaches between before).1] at after
  rw [((second between before).2 last after).1, (reaches between before).1]

/-- When its calls succeed, finalization completes. -/
theorem Undisturbed.completes (undisturbed : Undisturbed deployment created world)
    {outside : Outside Server} {names : List String} {artifactRefs : List ArtifactRef}
    (finalizing : world.stored.status.phase = .finalizing)
    (identified : sessionIdentityForRun world.stored = .ok identity)
    (obliging : Obliging outside names artifactRefs) (resumable : Resumable deployment world pod) :
    ∃ n, (∃ last, LeftAlone deployment outside pod n world last) ∧
      ∀ last, LeftAlone deployment outside pod n world last → Completed names (last.site pod) := by
  have sound := undisturbed.lived.sound
  rcases completed_of_finalizing obliging resumable.store resumable.configured
    (undisturbed.finalizing finalizing identified resumable) resumable.alone with once | twice
  · obtain ⟨possible, reaches⟩ := leftAlone_of_reconcile outside sound resumable.idle
      ⟨world.stored, .head _, resumable.watched⟩
    exact ⟨_, possible, fun last alone => (reaches last alone).1 ▸ once⟩
  · obtain ⟨n, possible, reaches⟩ :=
      leftAlone_of_reconcile_twice outside sound resumable.idle resumable.watched
    exact ⟨n, possible, fun last alone => reaches last alone ▸ twice⟩

end Progress

/-- The small deployment with an artifact store. -/
def storingDeployment : Deployment :=
  { smallDeployment with
    controllers := fun pod =>
      { smallDeployment.controllers pod with artifactStore := true, artifactStoreSpec := true } }

/-- The Session as the first Pod registers it. -/
def firstIdentity : SessionIdentity := smallIdentity Scheduler.smallPod

/-- A Ready Session is drained. -/
def drainedActions : List Action :=
  readyActions ++ .terminate (some .drain) :: .trigger "runtime-0" ::
    advances "runtime-0" [.version 0, .own, .own, .accepted]

/-- A Runtime Server and an artifact store whose calls succeed; one artifact is staged. -/
def obligingServer : Outside Server where
  query
    | .clock, server => ((0 : Int), server)
    | .memory, server => (({} : Memory), server)
    | .arguments, server => (Goroutine.registerSession 0, server)
    | .health, server | .drainOperations, server => (true, server)
    | .listExecutions, server => (some true, server)
    | .status, server => (Polled.notFound, server)
    | .cancel, server => ((), server)
    | .forget, server | .prepareExecution, server | .prepareSource, server
    | .stageInputs, server | .cleanupRunFiles, server | .ensureOperations, server
    | .unregisterFunction _, server => ((none : Option String), server)
    | .closeSession _, server => ((none : Option String), { server with session := none })
    | .readOutputs, server => (Except.ok ∅, server)
    | .stagedArtifacts, server => (Except.ok ["report"], server)
    | .storeArtifacts _, server => (Except.ok [⟨"report", "sha256"⟩], server)
    | .sessionStatus _, server => (Polled.response SessionState.ready, server)
    | .registerSession _, server => (Except.ok SessionState.ready, server)
    | .leaseDeadline _, server => ((none : Option Time), server)
    | .registerFunction _, server => (Except.error "no handler", server)
    | .functionStatus _, server => (Polled.notFound, server)
  execute _ server := (none, server)

theorem obliging_obligingServer :
    Obliging obligingServer ["report"] [⟨"report", "sha256"⟩] where
  serves _ _ := rfl
  tracks _ := rfl
  drains _ := rfl
  closes _ _ := rfl
  stages _ := rfl
  stores _ := rfl
  complete := rfl
  few := by decide

/-- Runtimed restarts after it has closed the Session, and reads that it is not found. -/
def lostSessionActions : List Action :=
  drainedActions ++ .trigger "runtime-0" ::
    advances "runtime-0" [.version 0, .own, .own, .own,
      .answer .drainOperations true (hosting .ready), .own,
      .answer (.closeSession firstIdentity) none {}] ++
    .restart "runtime-0" :: .trigger "runtime-0" ::
    advances "runtime-0" [.version 0, .own, .own,
      .answer (.sessionStatus firstIdentity) .notFound {}, .own]

/-- The query of an event. -/
def Event.query : Event → Option Query
  | .queried _ _ _ _ query => some query
  | _ => none

end Kruntimes.Lifecycle
