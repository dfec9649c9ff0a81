import Kruntimes.Runtimed.Controller

/-!
# One runtimed alone

The programs of runtimed when nobody else acts: every call is answered at once, every update
over the stored version is accepted, and the Runtime Server and the file system answer as
`Outside` says.  This is the reading of a `Reconcile` that the source suggests; what happens
between its calls is the business of the whole system.
-/

namespace Kruntimes.Runtimed

open Api Transition

variable {artifactRefs : List ArtifactRef} {names : List String} {identity : SessionIdentity}
  {run : Run}

/-- The answers from outside the process, with a state of their own. -/
structure Outside (σ : Type) where
  query : (query : Query) → σ → query.Answer × σ
  execute : Int → σ → Option String × σ

/-- A Pod and the API server, as far as they concern the Run. -/
structure Site (σ : Type) where
  memory : Memory
  stored : Run
  gone : Bool := false
  clock : Time
  server : σ

namespace Site

variable {σ : Type}

/-- The API server takes updates over the stored version only. -/
def accepts (site : Site σ) (run : Run) : Bool :=
  !site.gone && run.resourceVersion == site.stored.resourceVersion

/-- Change the memory. -/
def edit (change : Edit) (site : Site σ) : Site σ :=
  { site with memory := site.memory.edit change }

section Edit

variable (change : Edit) (site : Site σ)

@[simp]
theorem edit_memory : (site.edit change).memory = site.memory.edit change := rfl

@[simp]
theorem edit_clock : (site.edit change).clock = site.clock := rfl

end Edit

/-- An accepted status update, with the edits that follow it. -/
def storeStatus (site : Site σ) (status : RunStatus) (thereafter : List Edit) : Site σ :=
  { site with
    stored := Api.storeStatus site.stored status
    memory := thereafter.foldl (fun memory edit => memory.edit edit) site.memory }

/-- An accepted metadata update.  A deleted object without finalizers goes away. -/
def storeMetadata (site : Site σ) (finalizers : List String) : Site σ :=
  { site with
    stored := Api.storeMetadata site.stored finalizers
    gone := site.stored.deleting && finalizers.isEmpty }

/-- The answer to a query. -/
def ask (outside : Outside σ) (site : Site σ) : (query : Query) → query.Answer × Site σ
  | .clock => (site.clock, site)
  | .memory => (site.memory, site)
  | query =>
    let answered := outside.query query site.server
    (answered.1, { site with server := answered.2 })

/-- The answer to a call. -/
def respond (outside : Outside σ) : (request : Call) → Site σ → Answer request × Site σ
  | .get, site => (if site.gone then none else some site.stored, site)
  | .listRuns _, site => (if site.gone then none else some site.stored, site)
  | .updateStatus run thereafter, site =>
    if site.accepts run then
      (.ok (Api.storeStatus site.stored run.status), site.storeStatus run.status thereafter)
    else (.error "conflict", site)
  | .update run, site =>
    if site.accepts run then
      (.ok (Api.storeMetadata site.stored run.finalizers), site.storeMetadata run.finalizers)
    else (.error "conflict", site)
  | .updateLogged run, site =>
    if site.accepts run then (none, site.storeMetadata run.finalizers)
    else (some "conflict", site)
  | .execute attempt, site =>
    let answered := outside.execute attempt site.server
    (answered.1, { site with server := answered.2 })
  | .query query, site => site.ask outside query

/-- Run a program. -/
def perform {α : Type} (outside : Outside σ) (program : Process α) (site : Site σ) :
    α × Site σ :=
  program.execute edit (respond outside) site

end Site

/-! ## The rules for the common commands -/

section Rules

open Site

variable {σ α β : Type} (outside : Outside σ) (site : Site σ)

@[simp]
theorem perform_pure (value : α) : perform outside (pure value) site = (value, site) := rfl

@[simp]
theorem perform_bind (program : Process α) (rest : α → Process β) :
    perform outside (program >>= rest) site =
      perform outside (rest (perform outside program site).1) (perform outside program site).2 :=
  Program.execute_bind _ _ _ _ _

@[simp]
theorem perform_getRun :
    perform outside getRun site = (if site.gone then none else some site.stored, site) :=
  rfl

@[simp]
theorem perform_now : perform outside now site = (site.clock, site) := rfl

@[simp]
theorem perform_memory : perform outside memory site = (site.memory, site) := rfl

@[simp]
theorem perform_activeRun (handle : Nat) (run : Run) :
    perform outside (activeRun handle run) site = (site.memory.object handle run, site) :=
  rfl

@[simp]
theorem perform_amend (change : Edit) :
    perform outside (amend change) site = ((), site.edit change) :=
  rfl

theorem perform_updateStatus {thereafter : List Edit} (accepted : site.accepts run = true) :
    perform outside (updateStatus run thereafter) site =
      (.ok (Api.storeStatus site.stored run.status), site.storeStatus run.status thereafter) :=
  if_pos accepted

theorem perform_updateMetadata (accepted : site.accepts run = true) :
    perform outside (updateMetadata run) site = (.ok (Api.storeMetadata site.stored run.finalizers),
        site.storeMetadata run.finalizers) :=
  if_pos accepted

@[simp]
theorem perform_buildActiveRun (run : Run) :
    perform outside (buildActiveRun run) site =
      (site.memory.objects.length, site.edit (.allocate (newActiveRun run))) :=
  rfl

@[simp]
theorem perform_keepObserving (handle : Nat) (run : Run) :
    perform outside (keepObserving handle run) site =
      (.requeue (activeRunRequeueAfter (site.memory.object handle run) site.clock), site) :=
  rfl

theorem perform_ask (query : Query) : perform outside (ask query) site = site.ask outside query :=
  rfl

end Rules

/-! ## Programs that leave the API server alone -/

section Inert

open Site

variable {α β : Type} {handle : Nat} {run : Run}

/-- Two sites with the same API server. -/
structure SameStore {σ : Type} (site other : Site σ) : Prop where
  stored : other.stored = site.stored
  gone : other.gone = site.gone
  clock : other.clock = site.clock

/-- The program changes nothing in the API server. -/
def Inert (program : Process α) : Prop :=
  ∀ (σ : Type) (outside : Outside σ) (site : Site σ),
    SameStore site (perform outside program site).2

/-- Only queries and edits. -/
def queriesOnly : Program.Contract runtimed where
  calls _ request := ∃ query, request = .query query
  edits _ _ := True
  answers _ _ := True

theorem inert_of_keeps {program : Process α} {post : α → History → Prop} {history : History}
    (keeps : program.Keeps queriesOnly post history) : Inert program := by
  intro σ outside site
  induction program generalizing history site with
  | done => exact ⟨rfl, rfl, rfl⟩
  | call request next ih =>
    obtain ⟨⟨query, rfl⟩, later⟩ := keeps
    have after := ih (site.ask outside query).1 (later _ trivial) (site.ask outside query).2
    have before : SameStore site (site.ask outside query).2 := by
      cases query <;> exact ⟨rfl, rfl, rfl⟩
    exact ⟨after.stored.trans before.stored, after.gone.trans before.gone,
      after.clock.trans before.clock⟩
  | edit change next ih =>
    have after := ih keeps.2 (site.edit change)
    exact ⟨after.stored, after.gone, after.clock⟩

theorem removing_queriesOnly : Removing queriesOnly where
  memory _ := ⟨_, rfl⟩
  forget _ := ⟨_, rfl⟩
  query _ _ _ := ⟨_, rfl⟩
  edits _ _ := ⟨trivial, trivial, trivial, fun _ => trivial⟩

theorem inert_ensureActiveSessionClosed (handle : Nat) (run : Run) :
    Inert (ensureActiveSessionClosed handle run) := by
  have keeps : (ensureActiveSessionClosed handle run).Keeps queriesOnly (Removal True []) [] :=
    removes_ensureActiveSessionClosed removing_queriesOnly fun _ _ => trivial
  exact inert_of_keeps keeps

theorem inert_cleanup (handle : Nat) (run : Run) : Inert (cleanup handle run) := by
  have keeps : (cleanup handle run).Keeps queriesOnly (fun _ _ => True) [] := by
    rw [cleanup, Program.keeps_bind]
    apply (removes_releaseRuntimeServerState removing_queriesOnly).weaken
    intro _ _ _ _
    unfold releaseLocalRunState
    split
    · exact trivial
    · exact ⟨trivial, ⟨_, rfl⟩, fun _ _ => trivial⟩
  exact inert_of_keeps keeps

end Inert

/-- A terminal status is stored, and what follows leaves it. -/
theorem stored_applyTerminal {σ : Type} (outside : Outside σ) {site : Site σ} (handle : Nat)
    (phase : RunPhase) (reason message : String) (accepted : site.accepts run = true) :
    (Site.perform outside (applyTerminal handle run phase reason message) site).2.stored =
      storeStatus site.stored (terminalStatus run phase reason message site.clock).status := by
  have taken : site.accepts (terminalStatus run phase reason message site.clock) = true := accepted
  simp only [applyTerminal, perform_bind, perform_now, perform_updateStatus _ _ taken]
  exact (inert_cleanup handle _ σ outside _).stored

/-! ## The end of a Session -/

section Finalization

open Site

variable {σ : Type} (outside : Outside σ) {site : Site σ} {controller : Controller}
  {handle : Nat} {run : Run}

/-- The calls of a finalization succeed: the Runtime Server serves the Session until it is
closed, and `names` are staged and stored. -/
structure Obliging (outside : Outside σ) (names : List String)
    (artifactRefs : List ArtifactRef) : Prop where
  serves : ∀ identity server,
    (outside.query (.sessionStatus identity) server).1 = Polled.response SessionState.ready
  tracks : ∀ server, (outside.query .ensureOperations server).1 = (none : Option String)
  drains : ∀ server, (outside.query .drainOperations server).1 = true
  closes : ∀ identity server,
    (outside.query (.closeSession identity) server).1 = (none : Option String)
  stages : ∀ server, (outside.query .stagedArtifacts server).1 = (Except.ok names : Except String _)
  stores : ∀ server, (outside.query (.storeArtifacts names) server).1 =
    (Except.ok artifactRefs : Except ArtifactError _)
  complete : artifactRefs.map ArtifactRef.name = names
  few : names.length ≤ maxArtifactRefs

variable {outside} in
theorem perform_ensureActiveSessionClosed (obliging : Obliging outside names artifactRefs)
    (identified : sessionIdentityForRun run = .ok identity) :
    (perform outside (ensureActiveSessionClosed handle run) site).1 = none := by
  by_cases closed : (site.memory.object handle run).sessionClosed = true
  · simp [ensureActiveSessionClosed, closed]
  · simp [ensureActiveSessionClosed, closed, closeRuntimeSession, identified, perform_ask,
      Site.ask, obliging.closes]

/-- The program has the stored object at hand, which is still the Session of `run`. -/
structure AtHand (run current : Run) (site : Site σ) : Prop where
  stored : site.stored = current
  present : site.gone = false
  spec : current.spec = run.spec
  kept : current.deleting = false

theorem perform_recordArtifactStore (configured : controller.artifactStoreSpec = true)
    (hand : AtHand run run site) :
    (perform outside (recordArtifactStore controller run) site).1.2 = none ∧
      AtHand run (perform outside (recordArtifactStore controller run) site).1.1
        (perform outside (recordArtifactStore controller run) site).2 := by
  by_cases known : run.status.artifactStore = true
  · simp only [recordArtifactStore, known, if_true, perform_pure]
    exact ⟨trivial, hand⟩
  have accepted : site.accepts (artifactStoreStatus run) = true := by
    simp [Site.accepts, hand.present, hand.stored, artifactStoreStatus]
  simp only [recordArtifactStore, known, Bool.false_eq_true, if_false, configured,
    Bool.true_eq_false, perform_bind, perform_updateStatus _ _ accepted, perform_pure]
  refine ⟨trivial, rfl, hand.present, ?_, ?_⟩
  · exact (congrArg Run.spec hand.stored :)
  · exact (congrArg Run.deleting hand.stored :).trans hand.kept

theorem perform_ensureArtifactFinalizer (configured : controller.artifactStoreSpec = true)
    (hand : AtHand run run site) :
    (perform outside (ensureArtifactFinalizer controller run) site).1.2 = none ∧
      AtHand run (perform outside (ensureArtifactFinalizer controller run) site).1.1
        (perform outside (ensureArtifactFinalizer controller run) site).2 := by
  obtain ⟨fine, later⟩ := perform_recordArtifactStore outside configured hand
  simp only [ensureArtifactFinalizer, perform_bind]
  generalize perform outside (recordArtifactStore controller run) site = recorded at fine later
  obtain ⟨⟨recorded, _⟩, after⟩ := recorded
  cases fine
  have stored : after.stored = recorded := later.stored
  have present : after.gone = false := later.present
  have kept : recorded.deleting = false := later.kept
  by_cases marked : runArtifactFinalizer ∈ recorded.finalizers
  · simp only [addFinalizer, marked, if_true, perform_pure]
    exact ⟨trivial, later⟩
  have accepted : after.accepts
      { recorded with finalizers := recorded.finalizers ++ [runArtifactFinalizer] } = true := by
    simp [Site.accepts, present, stored]
  simp only [addFinalizer, marked, if_false, perform_bind,
    perform_updateMetadata _ _ accepted, perform_pure]
  refine ⟨trivial, rfl, ?_, ?_, ?_⟩
  · simp [Site.storeMetadata, stored, kept]
  · exact (congrArg Run.spec stored :).trans later.spec
  · exact (congrArg Run.deleting stored :).trans kept

variable {outside} in
theorem perform_collectArtifacts (obliging : Obliging outside names artifactRefs)
    (used : controller.artifactStore = true) (configured : controller.artifactStoreSpec = true)
    (hand : AtHand run run site) :
    (∃ collected, (perform outside (collectArtifacts controller run) site).1.2 = .ok collected ∧
        collected.map ArtifactRef.name = names) ∧
      AtHand run (perform outside (collectArtifacts controller run) site).1.1
        (perform outside (collectArtifacts controller run) site).2 := by
  have asked : perform outside (ask .stagedArtifacts) site =
      (Except.ok names, { site with server := (outside.query .stagedArtifacts site.server).2 }) :=
    Prod.ext (obliging.stages _) rfl
  simp only [collectArtifacts, used, Bool.true_eq_false, if_false, perform_bind, asked,
    Nat.not_lt.mpr obliging.few]
  by_cases empty : names = []
  · simp only [empty, List.isEmpty_nil, if_true, perform_pure]
    exact ⟨⟨[], rfl, rfl⟩, hand.stored, hand.present, hand.spec, hand.kept⟩
  have still : AtHand run run
      { site with server := (outside.query .stagedArtifacts site.server).2 } :=
    ⟨hand.stored, hand.present, hand.spec, hand.kept⟩
  obtain ⟨fine, later⟩ := perform_ensureArtifactFinalizer outside configured still
  simp only [List.isEmpty_iff, empty, if_false, perform_bind]
  generalize perform outside (ensureArtifactFinalizer controller run) _ = ensured at fine later
  obtain ⟨⟨ensured, _⟩, _⟩ := ensured
  cases fine
  exact ⟨⟨artifactRefs, obliging.stores _, obliging.complete⟩, later.stored, later.present,
    later.spec, later.kept⟩

/-- The Session ends Succeeded with a reference for every staged artifact. -/
structure Completed (names : List String) (site : Site σ) : Prop where
  phase : site.stored.status.phase = .succeeded
  artifactRefs : site.stored.status.artifactRefs.map ArtifactRef.name = names

variable {outside} in
theorem completed_completeFinalizingSession (obliging : Obliging outside names artifactRefs)
    (used : controller.artifactStore = true) (configured : controller.artifactStoreSpec = true)
    (hand : AtHand run run site) :
    Completed names (perform outside (completeFinalizingSession controller handle run) site).2 := by
  obtain ⟨⟨collected, exported, complete⟩, later⟩ :=
    perform_collectArtifacts obliging used configured hand
  simp only [completeFinalizingSession, perform_bind]
  generalize perform outside (collectArtifacts controller run) site = outcome at exported later
  obtain ⟨⟨current, _⟩, after⟩ := outcome
  cases exported
  have stored : after.stored = current := later.stored
  have present : after.gone = false := later.present
  have accepted : after.accepts
      { current with status := { current.status with artifactRefs := collected } } = true := by
    simp [Site.accepts, present, stored]
  have ended := stored_applyTerminal outside handle .succeeded "SessionCompleted"
    "session finalized" accepted
  constructor
  · exact congrArg (fun run => run.status.phase) ended
  · exact (congrArg (fun run => run.status.artifactRefs.map ArtifactRef.name) ended).trans complete

/-- A Session is being finalized, nobody has asked for anything else, and no deadline has
come. -/
structure Site.Finalizing (site : Site σ) (identity : SessionIdentity) : Prop where
  present : site.gone = false
  kept : site.stored.deleting = false
  phase : site.stored.status.phase = .finalizing
  identified : sessionIdentityForRun site.stored = .ok identity
  unterminated : site.stored.spec.hasImmediateTermination = false
  timely : ∀ handle, (site.memory.object handle site.stored).isDue site.clock = false

theorem isSome_of_sessionIdentity (identified : sessionIdentityForRun run = .ok identity) :
    run.uid ≠ "" ∧ run.spec.mode.session.isSome = true := by
  unfold sessionIdentityForRun at identified
  split at identified
  · cases identified
  rename_i named
  split at identified
  · cases identified
  split at identified
  · cases identified
  next mode =>
    exact ⟨named, Option.isSome_iff_ne_none.mpr (by simpa using mode)⟩

variable {outside} in
/-- With an entry, one reconcile completes the Session. -/
theorem completed_of_entry (obliging : Obliging outside names artifactRefs)
    (used : controller.artifactStore = true) (configured : controller.artifactStoreSpec = true)
    (finalizing : site.Finalizing identity) (entry : site.memory.active = some handle) :
    Completed names (perform outside (reconcile controller) site).2 := by
  have mode := (isSome_of_sessionIdentity finalizing.identified).2
  have session : site.stored.spec.mode.session.isNone = false := by
    simpa using mode
  have timely : ((site.memory.edit (.assign handle site.stored)).object handle
      site.stored).isDue site.clock = false := by
    rcases object_modify site.memory handle handle site.stored
      (fun object => { object with run := site.stored }) with same | ⟨_, changed⟩
    · exact (congrArg (ActiveRun.isDue · site.clock) same :).trans (finalizing.timely handle)
    · exact (congrArg (ActiveRun.isDue · site.clock) changed :).trans (finalizing.timely handle)
  have drained : ∀ site : Site σ, perform outside (ask .drainOperations) site =
      (true, { site with server := (outside.query .drainOperations site.server).2 }) :=
    fun site => Prod.ext (obliging.drains _) rfl
  simp only [reconcile, perform_bind, perform_getRun, finalizing.present, finalizing.kept,
    finalizing.phase, reconcileFinalizing, session, perform_memory, entry, perform_amend,
    finalizing.unterminated, perform_now, perform_activeRun, edit_memory, edit_clock, timely,
    drained, Bool.false_eq_true, if_false,
    perform_ensureActiveSessionClosed obliging finalizing.identified]
  apply completed_completeFinalizingSession obliging used configured
  have left := inert_ensureActiveSessionClosed handle site.stored σ outside
    { site.edit (.assign handle site.stored) with
      server := (outside.query .drainOperations site.server).2 }
  exact ⟨left.stored, left.gone.trans finalizing.present, rfl, finalizing.kept⟩

theorem capacity_pos (controller : Controller) : 0 < controller.capacity := by
  unfold Controller.capacity
  split <;> omega

variable {outside} in
/-- Without an entry, the first reconcile finds the Session registered and makes one. -/
theorem finalizing_of_recovery (obliging : Obliging outside names artifactRefs)
    (finalizing : site.Finalizing identity) (missing : site.memory.active = none)
    (alone : site.memory.others = 0) :
    (perform outside (reconcile controller) site).2.Finalizing identity ∧
      ∃ handle, (perform outside (reconcile controller) site).2.memory.active = some handle := by
  obtain ⟨named, mode⟩ := isSome_of_sessionIdentity finalizing.identified
  have session : site.stored.spec.mode.session.isNone = false := by
    simpa using mode
  have served : ∀ site : Site σ, perform outside (ask (.sessionStatus identity)) site =
      (.response .ready,
        { site with server := (outside.query (.sessionStatus identity) site.server).2 }) :=
    fun site => Prod.ext (obliging.serves _ _) rfl
  have tracked : ∀ site : Site σ, perform outside (ask .ensureOperations) site =
      (none, { site with server := (outside.query .ensureOperations site.server).2 }) :=
    fun site => Prod.ext (obliging.tracks _) rfl
  have claimed : ∀ site' : Site σ, site'.memory.active = none → site'.memory.others = 0 →
      perform outside (tryClaimActiveRun controller site.memory.objects.length site.stored)
        site' = (true, site'.edit (.claim site.memory.objects.length)) := by
    intro site' missing alone
    have room : ¬ controller.capacity ≤ 0 := not_le.mpr (capacity_pos controller)
    simp [tryClaimActiveRun, missing, Memory.activeRunCount, alone, named, mode, room]
  simp only [reconcile, perform_bind, perform_getRun, finalizing.present, finalizing.kept,
    finalizing.phase, reconcileFinalizing, session, perform_memory, missing,
    reconcileSessionRecovery, perform_buildActiveRun, finalizing.identified, served,
    restoreSession, Bool.false_eq_true, if_false, if_true, reduceCtorEq,
    claimed { site.edit (.allocate (newActiveRun site.stored)) with
      server := _ } missing alone, tracked, perform_keepObserving]
  refine ⟨⟨finalizing.present, finalizing.kept, finalizing.phase, finalizing.identified,
    finalizing.unterminated, fun handle => ?_⟩, _, rfl⟩
  have same := object_allocate site.memory handle site.stored
  exact (congrArg (ActiveRun.isDue · site.clock) same :).trans (finalizing.timely handle)

variable {outside} in
/-- One reconcile completes the Session, or two if the entry was lost. -/
theorem completed_of_finalizing (obliging : Obliging outside names artifactRefs)
    (used : controller.artifactStore = true) (configured : controller.artifactStoreSpec = true)
    (finalizing : site.Finalizing identity) (alone : site.memory.others = 0) :
    Completed names (perform outside (reconcile controller) site).2 ∨
      Completed names (perform outside (reconcile controller)
        (perform outside (reconcile controller) site).2).2 := by
  cases entry : site.memory.active with
  | some => exact .inl (completed_of_entry obliging used configured finalizing entry)
  | none =>
    obtain ⟨still, _, entry⟩ := finalizing_of_recovery obliging finalizing entry alone
    exact .inr (completed_of_entry obliging used configured still entry)

end Finalization

end Kruntimes.Runtimed
