import Kruntimes.Session.Soundness

/-!
# Drain and Close as fences

`Drain` and `Close` are meant to fence a session: nothing of it starts afterwards.  An
entry that was drained or closed keeps to that.  A session without an entry is not fenced
by either: the next call that looks for its entry creates one.
-/

namespace Kruntimes.Session

open Data Transition

variable {entry : Entry} {event : Event} {i : Nat} {queue : Queue} {uid : String}

/-! ## Entries behind a fence -/

/-- Events that fence a session: some of those at which `Drain` returned true or `Close`
was called. -/
structure Fence where
  isFence : String → Event → Bool
  kind : ∀ {uid event}, isFence uid event = true →
    event = .closed uid ∨ ∃ found, event = .drained uid found true

namespace Fence

variable (fence : Fence)

/-- The session has been fenced. -/
def Passed (uid : String) (queue : Queue) : Prop :=
  ∃ event ∈ queue.log, fence.isFence uid event = true

instance (uid : String) (queue : Queue) : Decidable (fence.Passed uid queue) :=
  inferInstanceAs (Decidable (∃ event ∈ queue.log, fence.isFence uid event = true))

/-- An entry of a fenced session that is not closed is drained. -/
def Quiet (queue : Queue) : Prop :=
  ∀ uid, fence.Passed uid queue → ∀ (index : Nat) (entry : Entry),
    queue.entries[index]? = some entry → entry.uid = uid → entry.closed = false →
      entry.draining = true ∧ entry.pending = 0

variable {fence} {queue next : Queue}

section Passing

variable {event : Event} {uid : String} (passed : fence.Passed uid next)
  (grown : next.log = queue.log ++ [event])

include passed grown

theorem Passed.cases :
    fence.Passed uid queue ∨ event = .closed uid ∨ ∃ found, event = .drained uid found true := by
  obtain ⟨earlier, mem, holds⟩ := passed
  rw [grown, List.mem_append, List.mem_singleton] at mem
  rcases mem with mem | rfl
  · exact .inl ⟨earlier, mem, holds⟩
  · exact .inr (fence.kind holds)

theorem Passed.earlier (other : fence.isFence uid event = false) :
    fence.Passed uid queue := by
  obtain ⟨earlier, mem, holds⟩ := passed
  rw [grown, List.mem_append, List.mem_singleton] at mem
  rcases mem with mem | rfl
  · exact ⟨earlier, mem, holds⟩
  · cases other.symm.trans holds

end Passing

theorem isFence_eq_false (fence : Fence) (notClosed : event ≠ .closed uid)
    (notDrained : ∀ found, event ≠ .drained uid found true) :
    fence.isFence uid event = false := by
  cases holds : fence.isFence uid event with
  | false => rfl
  | true =>
    rcases fence.kind holds with same | ⟨found, same⟩
    · exact absurd same notClosed
    · exact absurd same (notDrained found)

end Fence

theorem EntryMove.isFence_eq_false {jobs : List Job} {next : Entry} {events : List Event}
    (moved : EntryMove jobs i entry events next) (fence : Fence) (uid : String)
    (mem : event ∈ events) :
    fence.isFence uid event = false := by
  cases moved with
  | start | deliver =>
    obtain rfl := List.mem_singleton.mp mem
    exact Fence.isFence_eq_false fence (by simp) (by simp)
  | _ => cases mem

namespace Fence

variable {fence : Fence} {queue next : Queue}

theorem Passed.of_entryMove {jobs : List Job} {before after : Entry} {events : List Event}
    (passed : fence.Passed uid next) (grown : next.log = queue.log ++ events)
    (moved : EntryMove jobs i before events after) :
    fence.Passed uid queue := by
  obtain ⟨event, mem, holds⟩ := passed
  rw [grown] at mem
  rcases List.mem_append.mp mem with mem | new
  · exact ⟨event, mem, holds⟩
  · rw [moved.isFence_eq_false fence uid new] at holds
    cases holds

/-- An entry that still accepts operations belongs to a session that is not fenced. -/
theorem Quiet.not_passed (quiet : fence.Quiet queue) (found : queue.entries[i]? = some entry)
    (accepting : entry.accepting = true) :
    ¬fence.Passed entry.uid queue := by
  intro passed
  cases closed : entry.closed with
  | true => simp [Entry.accepting, closed] at accepting
  | false =>
    have draining := (quiet _ passed i entry found rfl closed).1
    simp [Entry.accepting, draining] at accepting

theorem Quiet.move (quiet : fence.Quiet queue) (map : MapSound queue) (moved : Move queue next)
    (creates : ∀ uid i, next.log = queue.log ++ [.created uid i] →
      ¬fence.Passed uid queue) : fence.Quiet next := by
  intro uid passed i entry found named isOpen
  cases moved with
  | create limits =>
    have before : fence.Passed uid queue :=
      passed.earlier rfl (isFence_eq_false fence (by simp) (by simp))
    rcases getElem?_concat_eq_some_iff.mp found with known | ⟨rfl, rfl⟩
    · exact quiet uid before i entry known named isOpen
    · exact absurd before (named ▸ creates limits.uid _ rfl)
  | @enqueue name place other mapped known accepting room =>
    have before : fence.Passed uid queue :=
      passed.earlier rfl (isFence_eq_false fence (by simp) (by simp))
    rcases getElem?_modify_cases known found with ⟨rfl, rfl⟩ | ⟨_, old⟩
    · have accepts := quiet.not_passed known accepting
      rw [show other.uid = uid from named] at accepts
      exact absurd before accepts
    · exact quiet uid before i entry old named isOpen
  | refuse | fail =>
    exact quiet uid (passed.earlier rfl (isFence_eq_false fence (by simp) (by simp)))
      i entry found named isOpen
  | job => exact quiet uid passed i entry found named isOpen
  | @entry place other events change known changed =>
    have before := passed.of_entryMove rfl changed
    rcases getElem?_modify_cases known found with ⟨rfl, rfl⟩ | ⟨_, old⟩
    · rw [changed.uid] at named
      rw [changed.closed] at isOpen
      obtain ⟨draining, pending⟩ := quiet uid before _ other known named isOpen
      rw [changed.draining]
      exact ⟨draining, Nat.le_zero.mp (pending ▸ changed.pending_le)⟩
    · exact quiet uid before i entry old named isOpen
  | @drain name place other mapped known =>
    rcases passed.cases rfl with before | same | ⟨_, same⟩
    · rcases getElem?_modify_cases known found with ⟨rfl, rfl⟩ | ⟨_, old⟩
      · exact ⟨rfl, (quiet uid before _ other known named isOpen).2⟩
      · exact quiet uid before i entry old named isOpen
    · cases same
    · -- The answer was true, so the entry that `Drain` found has nothing left.
      obtain ⟨rfl, _, empty⟩ := Event.drained.inj same
      rcases getElem?_modify_cases known found with ⟨rfl, rfl⟩ | ⟨apart, old⟩
      · exact ⟨rfl, beq_iff_eq.mp empty⟩
      have same := map.opened i entry old isOpen
      rw [named, mapped] at same
      exact absurd (Option.some.inj same) apart
  | @drainAbsent name absent =>
    rcases passed.cases rfl with before | same | ⟨_, same⟩
    · exact quiet uid before i entry found named isOpen
    · cases same
    have mapped := map.opened i entry found isOpen
    rw [named, ← (Event.drained.inj same).1, absent] at mapped
    cases mapped
  | @closeAbsent name absent =>
    rcases passed.cases rfl with before | same | ⟨_, same⟩
    · exact quiet uid before i entry found named isOpen
    · cases same
      have mapped := map.opened i entry found isOpen
      rw [named, absent] at mapped
      cases mapped
    · cases same
  | @close name place mapped =>
    obtain ⟨source, old, rfl⟩ := getElem?_modify_eq_some_iff.mp found
    by_cases here : place = i
    · rw [if_pos here] at isOpen
      cases isOpen
    rw [if_neg here] at named isOpen ⊢
    rcases passed.cases rfl with before | same | ⟨_, same⟩
    · exact quiet uid before i source old named isOpen
    · cases same
      have same := map.opened i source old isOpen
      rw [named, mapped] at same
      exact absurd (Option.some.inj same) here
    · cases same

end Fence

/-! ## Drain and Close -/

/-- The session of a callback that an event starts. -/
def Event.starts (uid : String) : Event → Bool
  | started name _ _ => name == uid
  | _ => false

/-- The session of an entry that an event creates. -/
def Event.creates (uid : String) : Event → Bool
  | created name _ => name == uid
  | _ => false

/-- `Drain` of a session returned true, or `Close` of it was called. -/
def Event.fences (uid : String) : Event → Bool
  | drained name _ answer => name == uid && answer
  | closed name => name == uid
  | _ => false

/-- `Drain` that returned true and `Close`, as one fence. -/
def sessionFence : Fence where
  isFence := Event.fences
  kind := by
    intro uid event holds
    cases event with
    | drained name found answer =>
      simp only [Event.fences, Bool.and_eq_true, beq_iff_eq] at holds
      obtain ⟨rfl, rfl⟩ := holds
      exact .inr ⟨found, rfl⟩
    | closed name =>
      simp only [Event.fences, beq_iff_eq] at holds
      exact .inl (congrArg _ holds)
    | _ => cases holds

/-- What a fence promises for one session. -/
structure Fenced (queue : Queue) (uid : String) : Prop where
  /-- No callback starts behind the fence. -/
  starts : queue.log.Pairwise fun earlier later =>
    earlier.fences uid = true → later.starts uid = false
  /-- No entry is created behind the fence. -/
  creates : queue.log.Pairwise fun earlier later =>
    earlier.fences uid = true → later.creates uid = false
  /-- No entry is there behind the fence, except for one that `Drain` found and `Close` has
  not taken away yet. -/
  absent : sessionFence.Passed uid queue →
    (Event.drained uid true true ∈ queue.log → Event.closed uid ∈ queue.log) →
      queue.sessions.lookup uid = none
  /-- That entry admits nothing and has nothing left. -/
  remains : sessionFence.Passed uid queue → ∀ (index : Nat) (entry : Entry),
    queue.sessions.lookup uid = some index → queue.entries[index]? = some entry →
      entry.accepting = false ∧ entry.jobs = [] ∧ entry.worker.held = 0

/-- Behind the fence nobody asks for the entry of a session that has none. -/
def Action.respectsFence (action : Action) (queue : Queue) : Prop :=
  match action with
  | .ensure run => queue.sessions.lookup run.uid ≠ none ∨ ¬sessionFence.Passed run.uid queue
  | .execute run => queue.sessions.lookup run.uid ≠ none ∨ ¬sessionFence.Passed run.uid queue
  | _ => True

instance (action : Action) (queue : Queue) : Decidable (action.respectsFence queue) :=
  match action with
  | .ensure _ | .execute _ => inferInstanceAs (Decidable (_ ∨ _))
  | .drain _ | .onAdmitted _ _ | .closeAdmitted _ | .endContext _ _ | .receive _ | .giveUp _
  | .work _ _ | .callbackReturns _ _ | .expire _ | .close _ | .cancelActive _ =>
    inferInstanceAs (Decidable True)

/-- The same condition on the event that an action records. -/
def AllowedByFence (queue : Queue) : Event → Prop
  | .created uid _ => ¬sessionFence.Passed uid queue
  | _ => True

theorem movesWithin_of_respectsFence {action : Action} {next : Queue}
    (respects : action.respectsFence queue) (stepped : Queue.step action queue = some next) :
    MovesWithin AllowedByFence queue next := by
  refine movesWithin_of_step ?_ ?_ stepped
  · intro queue event routine
    cases event with
    | created => cases routine
    | _ => trivial
  · cases action with
    | ensure => exact fun absent => respects.resolve_left (not_not_intro absent)
    | execute =>
      exact ⟨fun absent => respects.resolve_left (not_not_intro absent), fun _ _ _ _ => trivial⟩
    | drain => exact fun _ _ _ => trivial
    | _ => trivial

/-! ## What the condition keeps -/

/-- The entries behind a fence, and what the log may say after it. -/
structure Guarded (queue : Queue) : Prop where
  quiet : sessionFence.Quiet queue
  starts : ∀ uid, queue.log.Pairwise fun earlier later =>
    earlier.fences uid = true → later.starts uid = false
  creates : ∀ uid, queue.log.Pairwise fun earlier later =>
    earlier.fences uid = true → later.creates uid = false
  absent : ∀ uid, sessionFence.Passed uid queue →
    (Event.drained uid true true ∈ queue.log → Event.closed uid ∈ queue.log) →
      queue.sessions.lookup uid = none

/-- An entry that has nothing left cannot start a callback. -/
theorem Sound.not_starting (sound : Sound queue) (found : queue.entries[i]? = some entry)
    (none : entry.pending = 0) (job : Nat) :
    entry.worker ≠ .starting job := by
  intro waits
  have pending := (sound.entries.entry i entry found).pending
  rw [none, waits] at pending
  change 0 = 1 + entry.jobs.length at pending
  omega

/-- What is absent behind the fence stays so as long as neither the map nor the fence
changes. -/
theorem Guarded.absent_of_event {next : Queue} (guarded : Guarded queue)
    (grown : next.log = queue.log ++ [event]) (other : event ≠ .closed uid)
    (before : sessionFence.Passed uid queue)
    (settled : Event.drained uid true true ∈ next.log → Event.closed uid ∈ next.log) :
    queue.sessions.lookup uid = none := by
  refine guarded.absent uid before fun drained => ?_
  rw [grown] at settled
  rcases List.mem_append.mp (settled (List.mem_append_left _ drained)) with closed | new
  · exact closed
  · exact absurd (List.mem_singleton.mp new).symm other

theorem Guarded.absent_move {next : Queue} (guarded : Guarded queue)
    (moved : MoveWithin AllowedByFence queue next) (uid : String)
    (passed : sessionFence.Passed uid next)
    (settled : Event.drained uid true true ∈ next.log → Event.closed uid ∈ next.log) :
    next.sessions.lookup uid = none := by
  obtain ⟨move, allows⟩ := moved
  cases move with
  | create limits =>
    have before : sessionFence.Passed uid queue := passed.earlier rfl rfl
    have elsewhere : uid ≠ limits.uid := by
      rintro rfl
      exact allows _ rfl before
    rw [Queue.create_sessions, AList.lookup_insert_ne elsewhere]
    exact guarded.absent_of_event rfl (by simp) before settled
  | enqueue | fail =>
    exact guarded.absent_of_event rfl (by simp) (passed.earlier rfl rfl) settled
  | refuse => exact guarded.absent_of_event rfl (by simp) (passed.earlier rfl rfl) settled
  | job => exact guarded.absent uid passed settled
  | @entry place other events change known changed =>
    refine guarded.absent uid (passed.of_entryMove rfl changed) fun drained => ?_
    rcases List.mem_append.mp (settled (List.mem_append_left _ drained)) with closed | new
    · exact closed
    · have fences := changed.isFence_eq_false sessionFence uid new
      simp [sessionFence, Event.fences] at fences
  | @drain name place other mapped found =>
    rcases passed.cases rfl with before | same | ⟨_, same⟩
    · exact guarded.absent_of_event rfl (by simp) before settled
    · cases same
    -- A `Drain` that finds an entry cannot come after `Close`.
    obtain ⟨rfl, _, empty⟩ := Event.drained.inj same
    have closed : Event.closed name ∈ queue.log := by
      rcases List.mem_append.mp (settled (List.mem_append_right _ (by simp [empty])))
        with closed | new
      · exact closed
      · cases List.mem_singleton.mp new
    exact guarded.absent name ⟨_, closed, beq_self_eq_true name⟩ fun _ => closed
  | @drainAbsent name absent =>
    by_cases here : name = uid
    · exact here ▸ absent
    · refine guarded.absent_of_event rfl (by simp) (passed.earlier rfl ?_) settled
      simp [sessionFence, Event.fences, here]
  | @closeAbsent name absent =>
    by_cases here : name = uid
    · exact here ▸ absent
    · refine guarded.absent_of_event rfl (by simpa using here) (passed.earlier rfl ?_) settled
      simp [sessionFence, Event.fences, here]
  | @close name place mapped =>
    change (queue.sessions.erase name).lookup uid = none
    by_cases here : name = uid
    · rw [here, AList.lookup_erase]
    rw [AList.lookup_erase_ne (Ne.symm here)]
    refine guarded.absent_of_event rfl (by simpa using here) (passed.earlier rfl ?_) settled
    simp [sessionFence, Event.fences, here]

theorem Guarded.move {next : Queue} (guarded : Guarded queue) (sound : Sound queue)
    (moved : MoveWithin AllowedByFence queue next) : Guarded next := by
  constructor
  · exact guarded.quiet.move sound.map moved.1 fun uid i grown => moved.2 _ grown
  · intro uid
    refine moved.pairwise_log (guarded.starts uid) fun later origin _ earlier inside fenced => ?_
    cases later with
    | started name i job =>
      obtain ⟨entry, found, named, waits, isOpen⟩ := origin
      refine beq_eq_false_iff_ne.mpr ?_
      rintro rfl
      have empty := (guarded.quiet name ⟨earlier, inside, fenced⟩ i entry found named isOpen).2
      exact sound.not_starting found empty job waits
    | _ => rfl
  · intro uid
    refine moved.pairwise_log (guarded.creates uid) fun later _ allows earlier inside fenced => ?_
    cases later with
    | created =>
      refine beq_eq_false_iff_ne.mpr ?_
      rintro rfl
      exact allows ⟨earlier, inside, fenced⟩
    | _ => rfl
  · exact guarded.absent_move moved

theorem guarded_newQueue (config : QueueConfig) : Guarded (newQueue config) := by
  constructor <;> simp [newQueue, Fence.Quiet, Fence.Passed]

/-- In every run in which nobody asks for the entry of a session that has none after
`Drain` returned true or `Close` was called, the session is fenced from then on. -/
theorem fenced_of_run_respecting_fence {config : QueueConfig} {actions : List Action}
    {queue : Queue}
    (ran : run (restrict Action.respectsFence Queue.step) actions (newQueue config) =
      some queue) (uid : String) : Fenced queue uid := by
  have both : Sound queue ∧ Guarded queue := by
    refine invariant_of_guarded_run _ _ (fun queue => Sound queue ∧ Guarded queue) ?_
      ⟨sound_newQueue config, guarded_newQueue config⟩ ran
    rintro _ _ _ respects ⟨sound, guarded⟩ stepped
    have moved := movesWithin_of_respectsFence respects stepped
    clear stepped respects
    induction moved with
    | refl => exact ⟨sound, guarded⟩
    | tail _ last ih => exact ⟨ih.1.move last.1, ih.2.move ih.1 last⟩
  obtain ⟨sound, guarded⟩ := both
  refine ⟨guarded.starts uid, guarded.creates uid, guarded.absent uid, ?_⟩
  intro passed index entry mapped found
  obtain ⟨_, known, named, isOpen⟩ := sound.map.mapped uid index mapped
  cases found.symm.trans known
  obtain ⟨draining, none⟩ := guarded.quiet uid passed index entry found named isOpen
  rw [(sound.entries.entry index entry found).pending] at none
  refine ⟨by simp [Entry.accepting, draining], List.eq_nil_of_length_eq_zero ?_, ?_⟩
  · omega
  · omega

/-- One operation, `Drain`, `Close`, and a request that comes too late. -/
def closeAfterOne : List Action :=
  [.execute { uid := "uid-1" }, .onAdmitted 0 none, .closeAdmitted 0, .work 0 false,
    .work 0 false, .work 0 false, .work 0 false, .work 0 false, .callbackReturns 0 {},
    .work 0 false, .work 0 false, .receive 0, .drain "uid-1", .execute { uid := "uid-1" },
    .close "uid-1", .cancelActive 0, .work 0 false]

theorem fenced_closeAfterOne :
    ∃ queue, run (restrict Action.respectsFence Queue.step) closeAfterOne
        (newQueue (newQueueConfig 0 0)) = some queue ∧
      sessionFence.Passed "uid-1" queue ∧ Fenced queue "uid-1" := by
  apply exists_reached_and
  · decide +kernel
  · exact fun _ ran _ => fenced_of_run_respecting_fence ran "uid-1"

/-- A request routed before finalization reaches the queue after `Close` of a session that
never had an operation: an entry is created again, and the callback runs. -/
theorem exists_started_behind_fence :
    ∃ queue, run Queue.step [.ensure { uid := "uid-1" }, .drain "uid-1", .close "uid-1",
        .execute { uid := "uid-1" }, .onAdmitted 0 none, .closeAdmitted 0, .work 1 false,
        .work 1 false, .work 1 false, .work 1 false, .work 1 false]
        (newQueue (newQueueConfig 0 0)) = some queue ∧ ¬Fenced queue "uid-1" := by
  refine exists_reached (fun queue => queue.log =
    [.created "uid-1" 0, .drained "uid-1" true true, .closed "uid-1", .created "uid-1" 1,
      .accepted "uid-1" 1 0, .started "uid-1" 1 0]) (by decide +kernel) ?_
  intro queue _ same holds
  have starts := holds.starts
  rw [same] at starts
  revert starts
  decide

end Kruntimes.Session
