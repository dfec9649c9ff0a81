import Kruntimes.Lifecycle.Writes
import Kruntimes.Runtimed.Sequential

/-!
# A reconcile that is left alone

A `Reconcile` that nobody interrupts is a run of the system: the answers that it receives at
its site are answers of the whole system, one action per call.
-/

namespace Kruntimes.Lifecycle

open Api Transition Runtimed

/-- A Pod and the API server. -/
def World.site (world : World) (pod : String) : Site Server :=
  { memory := (world.nodes pod).memory, stored := world.stored, gone := world.gone
    clock := world.clock, server := (world.nodes pod).server }

/-- The reply with which a call is answered at a site. -/
def replyTo (outside : Outside Server) (site : Site Server) : Call → Reply
  | .get | .listRuns _ => if site.gone then .absent else .version 0
  | .updateStatus run _ | .update run | .updateLogged run =>
    if site.accepts run then .accepted else .refused "conflict"
  | .execute attempt =>
    .executed (outside.execute attempt site.server).1 (outside.execute attempt site.server).2
  | .query .clock | .query .memory => .own
  | .query query =>
    .answer query (outside.query query site.server).1 (outside.query query site.server).2

section Answers

variable {outside : Outside Server} {world : World} {pod : String}

theorem answerCall_external {query : Query} (external : isExternal query = true) :
    answerCall world (world.nodes pod) (.query query)
        (replyTo outside (world.site pod) (.query query)) =
      some (Site.respond outside (.query query) (world.site pod)).1 := by
  have reply : replyTo outside (world.site pod) (.query query) =
      .answer query (outside.query query (world.site pod).server).1
        (outside.query query (world.site pod).server).2 := by
    cases query <;> first | rfl | cases external
  have answer : (Site.respond outside (.query query) (world.site pod)).1 =
      (outside.query query (world.site pod).server).1 := by
    cases query <;> first | rfl | cases external
  rw [reply, answer]
  exact dif_pos ⟨rfl, external⟩

/-- The reply brings the answer of the site. -/
theorem answerCall_replyTo {request : Call} (other : request ≠ .query .arguments) :
    answerCall world (world.nodes pod) request (replyTo outside (world.site pod) request) =
      some (Site.respond outside request (world.site pod)).1 := by
  cases request with
  | get =>
    change answerCall world _ .get (if world.gone then .absent else .version 0) =
      some (if world.gone then none else some world.stored)
    split
    next gone =>
      exact if_pos gone
    · rfl
  | listRuns podName =>
    change answerCall world _ (.listRuns podName) (if world.gone then .absent else .version 0) =
      some (if world.gone then none else some world.stored)
    split <;> rfl
  | updateStatus run thereafter =>
    change answerCall world _ (.updateStatus run thereafter)
        (if world.accepts run then .accepted else .refused "conflict") =
      some (if world.accepts run then (_, _) else (_, _)).1
    split
    next accepted =>
      exact if_pos accepted
    · rfl
  | update run =>
    change answerCall world _ (.update run)
        (if world.accepts run then .accepted else .refused "conflict") =
      some (if world.accepts run then (_, _) else (_, _)).1
    split
    next accepted =>
      exact if_pos accepted
    · rfl
  | updateLogged run =>
    change answerCall world _ (.updateLogged run)
        (if world.accepts run then .accepted else .refused "conflict") =
      some (if world.accepts run then (_, _) else (_, _)).1
    split
    next accepted =>
      exact if_pos accepted
    · rfl
  | execute => rfl
  | query query =>
    cases query with
    | arguments => exact absurd rfl other
    | clock | memory => rfl
    | _ =>
      apply answerCall_external
      rfl

/-- A Pod after a reply, before the edits of the program itself. -/
def siteAfter (world : World) (pod : String) (thread : Thread) (request : Call)
    (reply : Reply) : Site Server :=
  { memory := (editsAfter request reply).foldl (fun memory edit => memory.edit edit)
      (world.nodes pod).memory
    stored := (afterCall world pod thread request reply).stored
    gone := (afterCall world pod thread request reply).gone
    clock := (afterCall world pod thread request reply).clock
    server := serverAfter (world.nodes pod).server reply }

/-- The reply leaves what the site says. -/
theorem siteAfter_replyTo {request : Call} {thread : Thread} (other : request ≠ .query .arguments) :
    siteAfter world pod thread request (replyTo outside (world.site pod) request) =
      (Site.respond outside request (world.site pod)).2 := by
  cases request with
  | get =>
    change siteAfter world pod thread .get (if world.gone then .absent else .version 0) = _
    split <;> rfl
  | listRuns podName =>
    change siteAfter world pod thread (.listRuns podName)
      (if world.gone then .absent else .version 0) = _
    split <;> rfl
  | updateStatus run thereafter =>
    by_cases accepted : world.accepts run = true
    · have reply : replyTo outside (world.site pod) (.updateStatus run thereafter) =
          .accepted := if_pos accepted
      have answer : (Site.respond outside (.updateStatus run thereafter) (world.site pod)).2 =
          (world.site pod).storeStatus run.status thereafter :=
        congrArg Prod.snd (if_pos accepted)
      rw [reply, answer]
      rfl
    · have reply : replyTo outside (world.site pod) (.updateStatus run thereafter) =
          .refused "conflict" := if_neg accepted
      have answer : (Site.respond outside (.updateStatus run thereafter) (world.site pod)).2 =
          world.site pod := congrArg Prod.snd (if_neg accepted)
      rw [reply, answer]
      rfl
  | update run =>
    by_cases accepted : world.accepts run = true
    · have reply : replyTo outside (world.site pod) (.update run) = .accepted :=
        if_pos accepted
      have answer : (Site.respond outside (.update run) (world.site pod)).2 =
          (world.site pod).storeMetadata run.finalizers :=
        congrArg Prod.snd (if_pos accepted)
      rw [reply, answer]
      rfl
    · have reply : replyTo outside (world.site pod) (.update run) = .refused "conflict" :=
        if_neg accepted
      have answer : (Site.respond outside (.update run) (world.site pod)).2 =
          world.site pod := congrArg Prod.snd (if_neg accepted)
      rw [reply, answer]
      rfl
  | updateLogged run =>
    by_cases accepted : world.accepts run = true
    · have reply : replyTo outside (world.site pod) (.updateLogged run) = .accepted :=
        if_pos accepted
      have answer : (Site.respond outside (.updateLogged run) (world.site pod)).2 =
          (world.site pod).storeMetadata run.finalizers :=
        congrArg Prod.snd (if_pos accepted)
      rw [reply, answer]
      rfl
    · have reply : replyTo outside (world.site pod) (.updateLogged run) =
          .refused "conflict" := if_neg accepted
      have answer : (Site.respond outside (.updateLogged run) (world.site pod)).2 =
          world.site pod := congrArg Prod.snd (if_neg accepted)
      rw [reply, answer]
      rfl
  | execute => rfl
  | query query =>
    cases query with
    | arguments => exact absurd rfl other
    | _ => rfl

end Answers

/-! ## Whole programs -/

section Programs

variable {deployment : Deployment} {pod : String}

/-- The next step of a Pod whose reconciles are answered by `outside`. -/
def ownAction (outside : Outside Server) (pod : String) (world : World) : Action :=
  match (world.nodes pod).threads.head? with
  | some { worker := true, program := .call request _, .. } =>
    .advance pod 0 (replyTo outside (world.site pod) request)
  | _ => .trigger pod

/-- Courses of the system that leave a Pod alone, with the number of its own steps.  Whatever
else happens touches neither the Pod nor the Run. -/
inductive LeftAlone (deployment : Deployment) (outside : Outside Server) (pod : String) :
    Nat → World → World → Prop
  | refl (world : World) : LeftAlone deployment outside pod 0 world world
  | own {n : Nat} {world next last : World}
      (stepped : step deployment (ownAction outside pod world) world = some next)
      (rest : LeftAlone deployment outside pod n next last) :
      LeftAlone deployment outside pod (n + 1) world last
  | elsewhere {n : Nat} {action : Action} {world next last : World}
      (stepped : step deployment action world = some next)
      (node : next.nodes pod = world.nodes pod) (site : next.site pod = world.site pod)
      (rest : LeftAlone deployment outside pod n next last) :
      LeftAlone deployment outside pod n world last

section LeftAlone

variable {outside : Outside Server} {n m : Nat} {world middle last : World}

theorem LeftAlone.append (first : LeftAlone deployment outside pod n world middle)
    (second : LeftAlone deployment outside pod m middle last) :
    LeftAlone deployment outside pod (m + n) world last := by
  induction first with
  | refl => exact second
  | own stepped _ ih => exact .own stepped (ih second)
  | elsewhere stepped node site _ ih => exact .elsewhere stepped node site (ih second)

theorem LeftAlone.split (alone : LeftAlone deployment outside pod (m + n) world last) :
    ∃ middle, LeftAlone deployment outside pod n world middle ∧
      LeftAlone deployment outside pod m middle last := by
  generalize total : m + n = length at alone
  induction alone generalizing n with
  | refl =>
    obtain ⟨rfl, rfl⟩ := Nat.add_eq_zero_iff.mp total
    exact ⟨_, .refl _, .refl _⟩
  | own stepped rest ih =>
    cases n with
    | zero =>
      subst total
      exact ⟨_, .refl _, .own stepped rest⟩
    | succ n =>
      obtain ⟨middle, first, second⟩ := ih (Nat.succ.inj total)
      exact ⟨middle, .own stepped first, second⟩
  | elsewhere stepped node site _ ih =>
    obtain ⟨middle, first, second⟩ := ih total
    exact ⟨middle, .elsewhere stepped node site first, second⟩

/-- What every step preserves holds after a course. -/
theorem LeftAlone.invariant {Inv : World → Prop}
    (preserved : ∀ {action source target}, Inv source →
      step deployment action source = some target → Inv target)
    (alone : LeftAlone deployment outside pod n world last) (initial : Inv world) : Inv last := by
  induction alone with
  | refl => exact initial
  | own stepped _ ih | elsewhere stepped _ _ _ ih => exact ih (preserved initial stepped)

theorem LeftAlone.mem_versions {version : Run}
    (alone : LeftAlone deployment outside pod n world last) (known : version ∈ world.versions) :
    version ∈ last.versions := by
  refine @LeftAlone.invariant _ _ _ _ _ _ (fun world => version ∈ world.versions) ?_ alone known
  intro action source target before stepped
  exact (extends_of_step stepped).versions.subset before

/-- Without own steps the Pod stays as it is. -/
theorem LeftAlone.same (alone : LeftAlone deployment outside pod 0 world last) :
    last.nodes pod = world.nodes pod ∧ last.site pod = world.site pod := by
  generalize unmoved : 0 = length at alone
  induction alone with
  | refl => exact ⟨rfl, rfl⟩
  | own => cases unmoved
  | elsewhere _ node site _ ih =>
    obtain ⟨nodes, sites⟩ := ih unmoved
    exact ⟨nodes.trans node, sites.trans site⟩

/-- The first own step comes after what happens elsewhere. -/
theorem LeftAlone.exists_own (alone : LeftAlone deployment outside pod (n + 1) world last) :
    ∃ before next, LeftAlone deployment outside pod 0 world before ∧
      step deployment (ownAction outside pod world) before = some next ∧
      LeftAlone deployment outside pod n next last := by
  generalize total : n + 1 = length at alone
  induction alone with
  | refl => cases total
  | own stepped rest =>
    cases total
    exact ⟨_, _, .refl _, stepped, rest⟩
  | elsewhere stepped node site _ ih =>
    obtain ⟨before, next, waited, moved, rest⟩ := ih total
    refine ⟨before, next, .elsewhere stepped node site waited, ?_, rest⟩
    rw [← moved, ownAction, ownAction, node, site]

end LeftAlone

/-- The number of calls that a program makes when it is left alone. -/
def calls (outside : Outside Server) : Process Result → Site Server → Nat
  | .done _, _ => 0
  | .call request next, site =>
    calls outside (next (Site.respond outside request site).1)
      (Site.respond outside request site).2 + 1
  | .edit change next, site => calls outside next (Site.edit change site)

/-- The rest of a program that has the memory of the Pod before its next edits, in front of
the other programs. -/
structure Performs (world : World) (pod : String) (program : Process Result) (memory : Memory)
    (thread : Thread) (others : List Thread) : Prop where
  worker : thread.worker = true
  remembers : (world.nodes pod).memory = (program.settle Memory.edit memory).2
  threads : (world.nodes pod).threads = if isDone (program.settle Memory.edit memory).1 then others
    else { thread with program := (program.settle Memory.edit memory).1 } :: others

section Performs

variable {outside : Outside Server} {world last : World} {memory : Memory} {thread : Thread}
  {others : List Thread} {request : Call} {next : Answer request → Process Result}

/-- The answer to the call of a program is its own step. -/
theorem Performs.answered (sound : Sound deployment world)
    (performs : Performs world pod (.call request next) memory thread others) :
    ∃ after memory' thread', step deployment (ownAction outside pod world) world = some after ∧
      Performs after pod (next (Site.respond outside request (world.site pod)).1) memory' thread'
        others ∧
      { after.site pod with memory := memory' } =
        (Site.respond outside request (world.site pod)).2 := by
  let front : Thread := { thread with program := .call request next }
  have threads : (world.nodes pod).threads = front :: others := performs.threads
  have conforms := (sound.threads pod _ (threads ▸ List.mem_cons_self)).conforms
  have other : request ≠ .query .arguments := by
    rintro rfl
    exact conforms.1
  let reply := replyTo outside (world.site pod) request
  let answer := (Site.respond outside request (world.site pod)).1
  let after := (world.setLedger (afterCall world pod front request reply)).setNode pod
    ((world.nodes pod).resume 0 front request next answer reply)
  have node : after.nodes pod = (world.nodes pod).resume 0 front request next answer reply :=
    Function.update_self _ _ _
  refine ⟨after, (siteAfter world pod front request reply).memory,
    front.resumed (world.nodes pod).server (.done .empty) request answer, ?_,
    ⟨performs.worker, ?_, ?_⟩, ?_⟩
  · have own : ownAction outside pod world = .advance pod 0 reply := by
      simp only [ownAction, threads, List.head?_cons, front, performs.worker]
      rfl
    rw [own]
    change performAdvance world pod 0 reply = some after
    simp only [performAdvance, threads, List.getElem?_cons_zero]
    change (answerCall world (world.nodes pod) request reply).map _ = some after
    rw [answerCall_replyTo other]
    rfl
  · rw [node]
    rfl
  · rw [node]
    simp only [Node.resume, threads, List.eraseIdx_cons_zero]
    rfl
  · rw [← siteAfter_replyTo other]
    simp only [World.site, node]
    rfl

end Performs

/-- A program that is left alone does what it does at its site. -/
theorem leftAlone_of_performs (outside : Outside Server) (program : Process Result) :
    ∀ {world memory thread others},
      Sound deployment world → Performs world pod program memory thread others →
      (∃ last, LeftAlone deployment outside pod
        (calls outside program { world.site pod with memory }) world last) ∧
      ∀ last, LeftAlone deployment outside pod
          (calls outside program { world.site pod with memory }) world last →
        last.site pod = (Site.perform outside program { world.site pod with memory }).2 ∧
        (last.nodes pod).threads = others := by
  induction program with
  | done =>
    intro world memory thread others _ performs
    have kept : (world.nodes pod).memory = memory := performs.remembers
    refine ⟨⟨world, .refl _⟩, fun last alone => ?_⟩
    obtain ⟨node, site⟩ := alone.same
    rw [site, node]
    exact ⟨by simp [Site.perform, Program.execute, World.site, kept], performs.threads⟩
  | edit change next ih =>
    intro world memory thread others sound performs
    exact ih sound ⟨performs.worker, performs.remembers, performs.threads⟩
  | call request next ih =>
    intro world memory thread others sound performs
    have start : { world.site pod with memory } = world.site pod := by
      rw [← show (world.nodes pod).memory = memory from performs.remembers]
      rfl
    rw [start]
    constructor
    · obtain ⟨after, memory', thread', stepped, continues, site⟩ := performs.answered sound
      obtain ⟨last, alone⟩ := (ih _ (sound_of_step sound stepped) continues).1
      rw [site] at alone
      exact ⟨last, .own stepped alone⟩
    · intro last alone
      obtain ⟨before, after, waited, stepped, rest⟩ := alone.exists_own
      obtain ⟨node, same⟩ := waited.same
      have soundBefore := waited.invariant sound_of_step sound
      have before' : Performs before pod (.call request next) memory thread others :=
        ⟨performs.worker, node ▸ performs.remembers, node ▸ performs.threads⟩
      obtain ⟨reached, memory', thread', moved, continues, site⟩ := before'.answered soundBefore
      have own : ownAction outside pod before = ownAction outside pod world := by
        rw [ownAction, ownAction, node, same]
      rw [own] at moved
      obtain rfl := Option.some.inj (stepped.symm.trans moved)
      rw [same] at site continues
      have final := (ih _ (sound_of_step soundBefore stepped) continues).2 last
      rw [site] at final
      exact final rest

/-- An idle Pod begins a reconcile. -/
theorem ownAction_of_idle {world : World} (outside : Outside Server)
    (idle : ∀ thread ∈ (world.nodes pod).threads, thread.worker = false) :
    ownAction outside pod world = .trigger pod := by
  unfold ownAction
  split
  next front =>
    cases idle _ (List.mem_of_head? front)
  · rfl

theorem performs_trigger {world : World}
    (idle : ∀ thread ∈ (world.nodes pod).threads, thread.worker = false)
    (own : ∃ version ∈ world.versions, runFilter (deployment.controllers pod) version = true) :
    ∃ after thread, step deployment (.trigger pod) world = some after ∧
      Performs after pod (reconcile (deployment.controllers pod)) (world.nodes pod).memory thread
        (world.nodes pod).threads ∧
      { after.site pod with memory := (world.nodes pod).memory } = world.site pod := by
  let begun : Thread := { worker := true, program := reconcile (deployment.controllers pod) }
  let after := world.setNode pod ((world.nodes pod).begin begun)
  have node : after.nodes pod = (world.nodes pod).begin begun := Function.update_self _ _ _
  refine ⟨after, begun, if_pos ⟨idle, own⟩, ⟨rfl, ?_, ?_⟩, ?_⟩
  · rw [node]
    rfl
  · rw [node]
    rfl
  · simp only [World.site, node]
    rfl

/-- A `Reconcile` that is left alone does what it does at its site. -/
theorem leftAlone_of_reconcile {world : World} (outside : Outside Server)
    (sound : Sound deployment world)
    (idle : ∀ thread ∈ (world.nodes pod).threads, thread.worker = false)
    (own : ∃ version ∈ world.versions, runFilter (deployment.controllers pod) version = true) :
    (∃ last, LeftAlone deployment outside pod
      (calls outside (reconcile (deployment.controllers pod)) (world.site pod) + 1) world last) ∧
    ∀ last, LeftAlone deployment outside pod
        (calls outside (reconcile (deployment.controllers pod)) (world.site pod) + 1) world last →
      last.site pod =
        (Site.perform outside (reconcile (deployment.controllers pod)) (world.site pod)).2 ∧
      (last.nodes pod).threads = (world.nodes pod).threads := by
  have trigger := ownAction_of_idle outside idle
  constructor
  · obtain ⟨after, thread, stepped, performs, site⟩ := performs_trigger idle own
    obtain ⟨last, alone⟩ :=
      (leftAlone_of_performs outside _ (sound_of_step sound stepped) performs).1
    rw [site] at alone
    exact ⟨last, .own (trigger ▸ stepped) alone⟩
  · intro last alone
    obtain ⟨before, after, waited, stepped, rest⟩ := alone.exists_own
    obtain ⟨node, same⟩ := waited.same
    obtain ⟨version, known, watched⟩ := own
    obtain ⟨reached, thread, moved, performs, site⟩ := performs_trigger
      (node ▸ idle) ⟨version, waited.mem_versions known, watched⟩
    rw [trigger] at stepped
    obtain rfl := Option.some.inj (stepped.symm.trans moved)
    have soundBefore := waited.invariant sound_of_step sound
    have final := (leftAlone_of_performs outside _ (sound_of_step soundBefore stepped) performs).2
      last
    rw [site, same, node] at final
    exact final rest

end Programs

end Kruntimes.Lifecycle
