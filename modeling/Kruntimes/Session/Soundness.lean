import Kruntimes.Data.Update
import Kruntimes.Session.Moves

/-!
# The order of the jobs

The jobs of an entry pass through it in the order of their admission: those already
answered, the one its worker holds, those in its channel.  That, and the counters that
go with it, is kept by every move.
-/

namespace Kruntimes.Session

open Data Transition

variable {entry : Entry} {event : Event} {events : List Event} {jobs : List Job} {i job : Nat}
  {next queue : Queue} {allowed : Queue → Event → Prop}

/-! ## Reading the log -/

namespace Event

/-- The job an event puts into the channel of an entry. -/
def acceptedAt (index : Nat) : Event → Option Nat
  | accepted _ entry job => if entry = index then some job else none
  | _ => none

/-- The job whose callback an event starts at an entry. -/
def startedAt (index : Nat) : Event → Option Nat
  | started _ entry job => if entry = index then some job else none
  | _ => none

/-- The job whose result an event delivers at an entry. -/
def deliveredAt (index : Nat) : Event → Option Nat
  | delivered _ entry job => if entry = index then some job else none
  | _ => none

/-- The entry whose jobs an event is about. -/
def site : Event → Option Nat
  | accepted _ entry _ => some entry
  | started _ entry _ => some entry
  | delivered _ entry _ => some entry
  | _ => none

end Event

/-! ## One entry -/

/-- The jobs of an entry, by the log, are those answered, the one its worker holds and
those in its channel. -/
structure EntrySound (log : List Event) (index : Nat) (entry : Entry) : Prop where
  accepted : log.filterMap (Event.acceptedAt index) =
    log.filterMap (Event.deliveredAt index) ++ entry.worker.undelivered ++ entry.jobs
  started : (log.filterMap (Event.startedAt index)).Sublist
    (log.filterMap (Event.deliveredAt index) ++ entry.worker.begun)
  pending : entry.pending = entry.worker.held + entry.jobs.length
  bounded : entry.jobs.length ≤ entry.capacity
  exited : entry.worker = .exited → entry.jobs = [] ∧ entry.closed = true

/-- Events that say nothing about the jobs of an entry. -/
def Silent (index : Nat) (events : List Event) : Prop :=
  ∀ event ∈ events, event.site ≠ some index

theorem Silent.filterMap (silent : Silent i events) :
    events.filterMap (Event.acceptedAt i) = [] ∧ events.filterMap (Event.startedAt i) = [] ∧
        events.filterMap (Event.deliveredAt i) = [] := by
  simp only [List.filterMap_eq_nil_iff]
  refine ⟨fun event mem => ?_, fun event mem => ?_, fun event mem => ?_⟩
  all_goals
    have elsewhere := silent event mem
    cases event <;> simp_all [Event.site, Event.acceptedAt, Event.startedAt, Event.deliveredAt]

theorem EntrySound.silent {log : List Event} (sound : EntrySound log i entry)
    (silent : Silent i events) :
    EntrySound (log ++ events) i entry := by
  obtain ⟨accepted, started, delivered⟩ := silent.filterMap
  constructor
  · simpa [accepted, delivered] using sound.accepted
  · simpa [started, delivered] using sound.started
  · exact sound.pending
  · exact sound.bounded
  · exact sound.exited

theorem EntryMove.silent {other : Nat} {next : Entry}
    (moved : EntryMove jobs i entry events next) (distinct : i ≠ other) :
    Silent other events := by
  cases moved <;> simp [Silent, Event.site, distinct]

theorem Worker.begun_sublist {worker : Worker} (holds : worker.undelivered = [job]) :
    worker.begun.Sublist [job] := by
  cases worker <;> simp_all [undelivered, begun]

theorem Worker.held_of_undelivered {worker : Worker} (holds : worker.undelivered = [job]) :
    worker.held = 1 := by
  cases worker <;> simp_all [undelivered, held]

/-- The worker goes on with the job it holds. -/
theorem EntrySound.proceed {log : List Event} (sound : EntrySound log i entry)
    {worker : Worker} (undelivered : worker.undelivered = entry.worker.undelivered)
    (begun : entry.worker.begun.Sublist worker.begun) (held : worker.held = entry.worker.held)
    (exited : worker = .exited → entry.worker = .exited) (due : Bool) :
    EntrySound log i { entry with worker, cancelDue := due } := by
  constructor
  · rw [sound.accepted, undelivered]
  · exact sound.started.trans ((List.Sublist.refl _).append begun)
  · rw [sound.pending, held]
  · exact sound.bounded
  · exact fun gone => sound.exited (exited gone)

theorem EntrySound.move {log : List Event} {next : Entry} (sound : EntrySound log i entry)
    (moved : EntryMove jobs i entry events next) :
    EntrySound (log ++ events) i next := by
  cases moved with
  | take idle queued =>
    obtain ⟨accepted, started, pending, bounded, _⟩ := sound
    rw [idle] at accepted started pending
    rw [queued] at accepted pending bounded
    constructor
    · simpa [Worker.undelivered] using accepted
    · simpa [Worker.begun] using started
    · simpa [Worker.held, Nat.add_comm] using pending
    · exact Nat.le_of_succ_le bounded
    · simp
  | exit idle empty closed =>
    obtain ⟨accepted, started, pending, bounded, _⟩ := sound
    rw [idle] at accepted started pending
    constructor
    · simpa [Worker.undelivered] using accepted
    · simpa [Worker.begun] using started
    · simpa [Worker.held] using pending
    · exact bounded
    · exact fun _ => ⟨empty, closed⟩
  | seeAdmitted waits | pass waits | ready waits =>
    rw [List.append_nil]
    apply sound.proceed <;> simp [waits, Worker.undelivered, Worker.begun, Worker.held]
  | @start job err waits opened =>
    obtain ⟨accepted, started, pending, bounded, _⟩ := sound
    rw [waits] at accepted started pending
    constructor
    · simpa [Worker.undelivered, Event.acceptedAt, Event.deliveredAt,
        List.filterMap_cons] using accepted
    · simpa [Worker.begun, Event.startedAt, Event.deliveredAt, List.filterMap_cons] using
        started.append (List.Sublist.refl [job])
    · simpa [Worker.held] using pending
    · exact bounded
    · simp
  | @context worker due same =>
    rw [List.append_nil]
    generalize held : entry.worker = before at same
    cases same with
    | refl => apply sound.proceed <;> simp [held]
    | running =>
      apply sound.proceed <;> simp [held, Worker.undelivered, Worker.begun, Worker.held]
  | @settle job holds outcome =>
    rw [List.append_nil]
    apply sound.proceed
    · exact holds.symm
    · exact Worker.begun_sublist holds
    · exact (Worker.held_of_undelivered holds).symm
    · simp
  | deliver delivers =>
    obtain ⟨accepted, started, pending, bounded, _⟩ := sound
    rw [delivers] at accepted started pending
    constructor
    · simpa [Worker.undelivered, Event.acceptedAt, Event.deliveredAt,
        List.filterMap_cons] using accepted
    · simpa [Worker.begun, Event.startedAt, Event.deliveredAt, List.filterMap_cons] using started
    · simpa [Worker.held] using pending
    · exact bounded
    · simp
  | complete completes =>
    obtain ⟨accepted, started, pending, bounded, _⟩ := sound
    rw [completes] at accepted started pending
    constructor
    · simpa [Worker.undelivered] using accepted
    · simpa [Worker.begun] using started
    · simp [Worker.held, pending]
    · exact bounded
    · simp

/-! ## All entries -/

/-- Every entry is as the log says, and the log speaks of existing entries only. -/
structure EntriesSound (queue : Queue) : Prop where
  entry : ∀ index entry, queue.entries[index]? = some entry → EntrySound queue.log index entry
  unused : ∀ index, queue.entries.length ≤ index → Silent index queue.log

theorem Silent.append {first second : List Event} (before : Silent i first)
    (after : Silent i second) : Silent i (first ++ second) := by
  intro event mem
  rcases List.mem_append.mp mem with mem | mem
  · exact before event mem
  · exact after event mem

/-- An event that is not about jobs changes nothing for the entries. -/
theorem EntriesSound.note (sound : EntriesSound queue) (silent : event.site = none) :
    EntriesSound (queue.note event) := by
  have nowhere : ∀ i, Silent i [event] := by
    intro i
    simp [Silent, silent]
  constructor
  · intro i entry found
    exact (sound.entry i entry found).silent (nowhere i)
  · intro i beyond
    exact (sound.unused i beyond).append (nowhere i)

/-- A change of one entry, with the events that go with it. -/
theorem EntriesSound.onEntry (sound : EntriesSound queue) (change : Entry → Entry)
    (events : List Event) (found : queue.entries[i]? = some entry)
    (here : EntrySound (queue.log ++ events) i (change entry))
    (elsewhere : ∀ other, i ≠ other → Silent other events) :
    EntriesSound { queue.onEntry i change with log := queue.log ++ events } := by
  constructor
  · intro j next known
    rcases getElem?_modify_cases found known with ⟨rfl, rfl⟩ | ⟨distinct, before⟩
    · exact here
    · exact (sound.entry _ _ before).silent (elsewhere _ distinct)
  · intro j beyond
    change (queue.entries.modify i change).length ≤ j at beyond
    rw [List.length_modify] at beyond
    refine (sound.unused j beyond).append (elsewhere j ?_)
    have inside := (List.getElem?_eq_some_iff.mp found).1
    omega

theorem EntriesSound.create (sound : EntriesSound queue) (limits : Limits) :
    EntriesSound (queue.create limits) := by
  have silent : ∀ i, Silent i [Event.created limits.uid queue.entries.length] := by
    simp [Silent, Event.site]
  constructor
  · intro i entry known
    rcases getElem?_concat_eq_some_iff.mp known with known | ⟨rfl, rfl⟩
    · exact (sound.entry i entry known).silent (silent i)
    refine EntrySound.silent ?_ (silent _)
    obtain ⟨accepted, started, delivered⟩ := (sound.unused _ (Nat.le_refl _)).filterMap
    constructor
    · simp [accepted, delivered, Worker.undelivered]
    · simp [started]
    · rfl
    · exact Nat.zero_le _
    · simp
  · intro i beyond
    refine Silent.append (sound.unused i ?_) (silent i)
    rw [Queue.create_entries, List.length_append] at beyond
    exact Nat.le_of_succ_le beyond

theorem EntriesSound.enqueue (sound : EntriesSound queue) {uid : String}
    (found : queue.entries[i]? = some entry) (accepting : entry.accepting = true)
    (room : entry.jobs.length < entry.capacity) :
    EntriesSound (queue.enqueue uid i) := by
  have before := sound.entry i entry found
  have moved := sound.onEntry (fun entry =>
      { entry with jobs := entry.jobs ++ [queue.jobs.length], pending := entry.pending + 1 })
    [.accepted uid i queue.jobs.length] found ?_ ?_
  · exact ⟨moved.entry, moved.unused⟩
  · constructor
    · simp [before.accepted, Event.acceptedAt, Event.deliveredAt, List.filterMap_cons]
    · simpa [Event.startedAt, Event.deliveredAt, List.filterMap_cons] using before.started
    · simp [before.pending, Nat.add_assoc]
    · simpa using Nat.succ_le_of_lt room
    · intro gone
      have closed := (before.exited gone).2
      simp [Entry.accepting, closed] at accepting
  · intro other distinct
    simp [Silent, Event.site, distinct]

theorem EntriesSound.move (sound : EntriesSound queue) (moved : Move queue next) :
    EntriesSound next := by
  cases moved with
  | create limits => exact sound.create limits
  | enqueue mapped found accepting room => exact sound.enqueue found accepting room
  | refuse | fail | drainAbsent | closeAbsent =>
    exact sound.note rfl
  | job => exact ⟨sound.entry, sound.unused⟩
  | entry change found moved =>
    exact sound.onEntry _ _ found ((sound.entry _ _ found).move moved)
      fun other distinct => moved.silent distinct
  | drain mapped found =>
    have before := sound.entry _ _ found
    refine sound.onEntry _ _ found (EntrySound.silent ?_ ?_) ?_
    · exact ⟨before.accepted, before.started, before.pending, before.bounded, before.exited⟩
    · simp [Silent, Event.site]
    · simp [Silent, Event.site]
  | @close uid i mapped =>
    generalize rest : ({ queue with sessions := queue.sessions.erase uid } : Queue) = unmapped
    have kept : EntriesSound unmapped := by
      subst rest
      exact ⟨sound.entry, sound.unused⟩
    cases found : unmapped.entries[i]? with
    | none =>
      rw [Queue.onEntry_of_none _ found]
      exact kept.note rfl
    | some =>
      have before := kept.entry _ _ found
      refine kept.onEntry _ _ found (EntrySound.silent ?_ ?_) ?_
      · exact ⟨before.accepted, before.started, before.pending, before.bounded,
          fun gone => ⟨(before.exited gone).1, rfl⟩⟩
      · simp [Silent, Event.site]
      · simp [Silent, Event.site]

/-! ## The map of sessions -/

/-- The map holds exactly the entries that are not closed. -/
structure MapSound (queue : Queue) : Prop where
  mapped : ∀ uid index, queue.sessions.lookup uid = some index →
    ∃ entry, queue.entries[index]? = some entry ∧ entry.uid = uid ∧ entry.closed = false
  opened : ∀ index entry, queue.entries[index]? = some entry → entry.closed = false →
    queue.sessions.lookup entry.uid = some index

theorem EntryMove.uid {next : Entry} (moved : EntryMove jobs i entry events next) :
    next.uid = entry.uid := by
  cases moved <;> rfl

theorem EntryMove.closed {next : Entry} (moved : EntryMove jobs i entry events next) :
    next.closed = entry.closed := by
  cases moved <;> rfl

/-- A change of one entry that keeps its session and leaves it open or closed. -/
theorem MapSound.onEntry (sound : MapSound queue) (change : Entry → Entry) (log : List Event)
    (found : queue.entries[i]? = some entry) (uid : (change entry).uid = entry.uid)
    (closed : (change entry).closed = entry.closed) :
    MapSound { queue.onEntry i change with log } := by
  constructor
  · intro name j mapped
    obtain ⟨old, known, named, opened⟩ := sound.mapped name j mapped
    by_cases here : i = j
    · subst here
      cases found.symm.trans known
      refine ⟨change entry, ?_, uid.trans named, closed.trans opened⟩
      exact getElem?_modify_eq_some_iff.mpr ⟨entry, found, (if_pos rfl).symm⟩
    · refine ⟨old, ?_, named, opened⟩
      exact getElem?_modify_eq_some_iff.mpr ⟨old, known, (if_neg here).symm⟩
  · intro j next known opened
    rcases getElem?_modify_cases found known with ⟨rfl, rfl⟩ | ⟨_, before⟩
    · rw [closed] at opened
      rw [uid]
      exact sound.opened _ _ found opened
    · exact sound.opened _ _ before opened

theorem Queue.create_sessions (limits : Limits) (queue : Queue) :
    (queue.create limits).sessions = queue.sessions.insert limits.uid queue.entries.length :=
  rfl

theorem MapSound.create (sound : MapSound queue) {limits : Limits}
    (absent : queue.sessions.lookup limits.uid = none) : MapSound (queue.create limits) := by
  constructor
  · intro uid i mapped
    rcases Table.lookup_insert_cases mapped with ⟨rfl, rfl⟩ | ⟨_, mapped⟩
    · exact ⟨_, getElem?_concat_eq_some_iff.mpr (.inr ⟨rfl, rfl⟩), rfl, rfl⟩
    · obtain ⟨entry, found, facts⟩ := sound.mapped uid i mapped
      exact ⟨entry, getElem?_concat_eq_some_iff.mpr (.inl found), facts⟩
  · intro i entry known opened
    rcases getElem?_concat_eq_some_iff.mp known with known | ⟨rfl, rfl⟩
    · have mapped := sound.opened i entry known opened
      rw [Queue.create_sessions, AList.lookup_insert_ne]
      · exact mapped
      · intro same
        rw [same, absent] at mapped
        cases mapped
    · exact AList.lookup_insert _

theorem MapSound.close (sound : MapSound queue) {uid : String}
    (mapped : queue.sessions.lookup uid = some i) :
    MapSound (({ queue with sessions := queue.sessions.erase uid }.onEntry i fun entry =>
      { entry with closed := true, cancelDue := true }).note (.closed uid)) := by
  obtain ⟨_, found, named, _⟩ := sound.mapped uid i mapped
  constructor
  · intro name j stays
    change (queue.sessions.erase uid).lookup name = some j at stays
    by_cases same : name = uid
    · subst same
      rw [AList.lookup_erase] at stays
      cases stays
    · rw [AList.lookup_erase_ne same] at stays
      obtain ⟨old, known, facts⟩ := sound.mapped name j stays
      refine ⟨old, getElem?_modify_eq_some_iff.mpr ⟨old, known, (if_neg ?_).symm⟩, facts⟩
      rintro rfl
      cases found.symm.trans known
      exact same (facts.1.symm.trans named)
  · intro j next known opened
    obtain ⟨old, before, rfl⟩ := getElem?_modify_eq_some_iff.mp known
    by_cases here : i = j
    · rw [if_pos here] at opened
      cases opened
    rw [if_neg here] at opened ⊢
    have stays := sound.opened _ _ before opened
    change (queue.sessions.erase uid).lookup old.uid = some j
    rw [AList.lookup_erase_ne]
    · exact stays
    · intro same
      rw [same, mapped] at stays
      exact here (Option.some.inj stays)

theorem MapSound.move (sound : MapSound queue) (moved : Move queue next) :
    MapSound next := by
  cases moved with
  | create limits absent => exact sound.create absent
  | enqueue mapped found =>
    have moved := sound.onEntry (fun entry =>
      { entry with jobs := entry.jobs ++ [queue.jobs.length], pending := entry.pending + 1 })
      queue.log found rfl rfl
    exact ⟨moved.mapped, moved.opened⟩
  | refuse | fail | job | drainAbsent | closeAbsent => exact ⟨sound.mapped, sound.opened⟩
  | entry change found moved => exact sound.onEntry _ _ found moved.uid moved.closed
  | drain mapped found => exact sound.onEntry _ _ found rfl rfl
  | close mapped => exact sound.close mapped

/-! ## Jobs -/

theorem JobMove.refl (job : Job) : JobMove job job := by
  constructor <;> simp +contextual

/-- No job is lost, and each only moves on. -/
theorem Move.later (moved : Move queue next) {job : Job} (known : queue.jobs[i]? = some job) :
    ∃ after, next.jobs[i]? = some after ∧ JobMove job after := by
  cases moved with
  | enqueue =>
    exact ⟨job, getElem?_concat_eq_some_iff.mpr (.inl known), JobMove.refl job⟩
  | @job j other change found changed =>
    by_cases here : j = i
    · subst here
      cases known.symm.trans found
      exact ⟨change job, getElem?_modify_eq_some_iff.mpr ⟨job, known, (if_pos rfl).symm⟩, changed⟩
    · exact ⟨job, getElem?_modify_eq_some_iff.mpr ⟨job, known, (if_neg here).symm⟩,
        JobMove.refl job⟩
  | _ => exact ⟨job, known, JobMove.refl job⟩

/-- Every job after a move is an old one that moved on, or the one just put into a
channel. -/
theorem Move.earlier (moved : Move queue next) {job : Job} (known : next.jobs[i]? = some job) :
    (∃ before, queue.jobs[i]? = some before ∧ JobMove before job) ∨
      i = queue.jobs.length ∧ job = { uid := job.uid, entry := job.entry } ∧
        next = queue.enqueue job.uid job.entry := by
  cases moved with
  | enqueue =>
    rcases getElem?_concat_eq_some_iff.mp known with known | ⟨rfl, rfl⟩
    · exact .inl ⟨job, known, JobMove.refl job⟩
    · exact .inr ⟨rfl, rfl, rfl⟩
  | @job j other change found changed =>
    rcases getElem?_modify_cases found known with ⟨rfl, rfl⟩ | ⟨_, old⟩
    · exact .inl ⟨_, found, changed⟩
    · exact .inl ⟨job, old, JobMove.refl job⟩
  | _ => exact .inl ⟨job, known, JobMove.refl job⟩

/-! ## The log -/

/-- The state in which a move may record an event. -/
def Origin (queue : Queue) : Event → Prop
  | .created uid index => queue.sessions.lookup uid = none ∧ index = queue.entries.length
  | .accepted uid index job => job = queue.jobs.length ∧ queue.sessions.lookup uid = some index ∧
      ∃ entry, queue.entries[index]? = some entry ∧ entry.accepting = true
  | .refused _ => True
  | .failed uid index job => ∃ found, queue.jobs[job]? = some found ∧ found.uid = uid ∧
      found.entry = index ∧ found.caller = .admitting ∧ found.ctxErr.isSome = true
  | .started uid index job => ∃ entry, queue.entries[index]? = some entry ∧ entry.uid = uid ∧
      entry.worker = .starting job ∧ entry.closed = false
  | .delivered uid index job => ∃ entry, queue.entries[index]? = some entry ∧ entry.uid = uid ∧
      ∃ found, queue.jobs[job]? = some found ∧ found.result.isSome = true
  | .drained uid found answer =>
    if found then
      ∃ index entry, queue.sessions.lookup uid = some index ∧
        queue.entries[index]? = some entry ∧ answer = (entry.pending == 0)
    else queue.sessions.lookup uid = none
  | .closed _ => True

theorem EntryMove.log {next : Entry} (found : queue.entries[i]? = some entry)
    (moved : EntryMove queue.jobs i entry events next) :
    events = [] ∨ ∃ event, events = [event] ∧ Origin queue event := by
  cases moved with
  | start err waits opened => exact .inr ⟨_, rfl, entry, found, rfl, waits, opened⟩
  | deliver delivers known sent => exact .inr ⟨_, rfl, entry, found, rfl, _, known, sent⟩
  | _ => exact .inl rfl

/-- Every event of a log with at most one more is an old one or the new one. -/
theorem mem_of_grown {log longer : List Event} {origin : Event → Prop}
    (grown : longer = log ∨ ∃ event, longer = log ++ [event] ∧ origin event)
    (mem : event ∈ longer) : event ∈ log ∨ origin event := by
  rcases grown with rfl | ⟨_, rfl, facts⟩
  · exact .inl mem
  rw [List.mem_append, List.mem_singleton] at mem
  rcases mem with mem | rfl
  · exact .inl mem
  · exact .inr facts

section Moves

variable (moved : Move queue next)

include moved

/-- A move records at most one event. -/
theorem Move.log :
    next.log = queue.log ∨ ∃ event, next.log = queue.log ++ [event] ∧ Origin queue event := by
  cases moved with
  | create limits absent => exact .inr ⟨_, rfl, absent, rfl⟩
  | enqueue mapped found accepting => exact .inr ⟨_, rfl, rfl, mapped, _, found, accepting⟩
  | refuse | closeAbsent | close => exact .inr ⟨_, rfl, trivial⟩
  | fail known admitting ended => exact .inr ⟨_, rfl, _, known, rfl, rfl, admitting, ended⟩
  | job => exact .inl rfl
  | entry change found moved =>
    rcases moved.log found with rfl | ⟨event, rfl, origin⟩
    · exact .inl (List.append_nil _)
    · exact .inr ⟨event, rfl, origin⟩
  | drain mapped found => exact .inr ⟨_, rfl, _, _, mapped, found, rfl⟩
  | drainAbsent absent => exact .inr ⟨_, rfl, absent⟩

theorem Move.mem_log (mem : event ∈ next.log) : event ∈ queue.log ∨ Origin queue event :=
  mem_of_grown moved.log mem

theorem Move.log_subset (mem : event ∈ queue.log) :
    event ∈ next.log := by
  rcases moved.log with same | ⟨_, grown, _⟩
  · rwa [same]
  · rw [grown]
    exact List.mem_append_left _ mem

/-- No entry is lost, and each stays with its session. -/
theorem Move.entry_later (found : queue.entries[i]? = some entry) :
    ∃ after, next.entries[i]? = some after ∧ after.uid = entry.uid := by
  have changed (j : Nat) (change : Entry → Entry)
      (keeps : j = i → (change entry).uid = entry.uid) :
      ∃ after, (queue.entries.modify j change)[i]? = some after ∧
        after.uid = entry.uid := by
    refine ⟨_, getElem?_modify_eq_some_iff.mpr ⟨entry, found, rfl⟩, ?_⟩
    split
    · exact keeps ‹_›
    · rfl
  cases moved with
  | create => exact ⟨entry, getElem?_concat_eq_some_iff.mpr (.inl found), rfl⟩
  | enqueue | drain | close =>
    exact changed _ _ fun _ => rfl
  | entry change known moved =>
    apply changed
    rintro rfl
    cases found.symm.trans known
    exact moved.uid
  | _ => exact ⟨entry, found, rfl⟩

end Moves

/-- The session, the entry and the job an event is about. -/
def Event.place : Event → Option (String × Nat)
  | accepted uid entry _ => some (uid, entry)
  | started uid entry _ => some (uid, entry)
  | delivered uid entry _ => some (uid, entry)
  | _ => none

/-- The job an event puts into a channel. -/
def Event.acceptedJob : Event → Option Nat
  | accepted _ _ job => some job
  | _ => none

/-- The log speaks of the entries and jobs there are. -/
structure LogSound (queue : Queue) : Prop where
  place : ∀ event ∈ queue.log, ∀ uid index, event.place = some (uid, index) →
    ∃ entry, queue.entries[index]? = some entry ∧ entry.uid = uid
  accepted : queue.log.filterMap Event.acceptedJob = List.range queue.jobs.length
  jobs : ∀ index job, queue.jobs[index]? = some job →
    Event.accepted job.uid job.entry index ∈ queue.log
  results : ∀ uid index job, Event.delivered uid index job ∈ queue.log →
    ∃ found, queue.jobs[job]? = some found ∧ found.result.isSome = true

theorem EntryMove.acceptedJob {next : Entry} (moved : EntryMove jobs i entry events next) :
    events.filterMap Event.acceptedJob = [] := by
  cases moved <;> rfl

theorem Move.accepted (moved : Move queue next)
    (before : queue.log.filterMap Event.acceptedJob = List.range queue.jobs.length) :
    next.log.filterMap Event.acceptedJob = List.range next.jobs.length := by
  cases moved with
  | enqueue => simp [before, Event.acceptedJob, List.range_succ]
  | job => simpa using before
  | entry change found moved => simpa [moved.acceptedJob] using before
  | _ => simpa [Event.acceptedJob, List.filterMap_cons] using before

theorem LogSound.move (sound : LogSound queue) (map : MapSound queue) (moved : Move queue next) :
    LogSound next := by
  constructor
  · intro event mem uid i placed
    suffices before : ∃ entry, queue.entries[i]? = some entry ∧ entry.uid = uid by
      obtain ⟨_, found, named⟩ := before
      obtain ⟨after, later, same⟩ := moved.entry_later found
      exact ⟨after, later, same.trans named⟩
    rcases moved.mem_log mem with mem | origin
    · exact sound.place event mem uid i placed
    cases event with
    | accepted =>
      cases placed
      obtain ⟨entry, found, named, _⟩ := map.mapped _ _ origin.2.1
      exact ⟨entry, found, named⟩
    | started | delivered =>
      cases placed
      obtain ⟨entry, found, named, _⟩ := origin
      exact ⟨entry, found, named⟩
    | _ => cases placed
  · exact moved.accepted sound.accepted
  · intro i job known
    rcases moved.earlier known with ⟨before, old, changed⟩ | ⟨rfl, _, rfl⟩
    · rw [changed.uid, changed.entry]
      exact moved.log_subset (sound.jobs i before old)
    · exact List.mem_append_right _ (.head _)
  · intro uid i job mem
    suffices before : ∃ found, queue.jobs[job]? = some found ∧ found.result.isSome = true by
      obtain ⟨_, known, sent⟩ := before
      obtain ⟨after, later, changed⟩ := moved.later known
      exact ⟨after, later, changed.result sent⟩
    rcases moved.mem_log mem with mem | origin
    · exact sound.results uid i job mem
    · obtain ⟨_, _, _, found, known, sent⟩ := origin
      exact ⟨found, known, sent⟩

/-! ## Admission -/

/-- The worker goes past the admission of a job only after the call has let it, and a
job whose admission failed has lost its context before. -/
structure AdmissionSound (queue : Queue) : Prop where
  passed : ∀ (index : Nat) (entry : Entry) (job : Nat), queue.entries[index]? = some entry →
    job ∈ entry.worker.passed → ∃ found : Job, queue.jobs[job]? = some found ∧ found.admitted = true
  admitted : ∀ (index : Nat) (job : Job), queue.jobs[index]? = some job → job.admitted = true →
    job.caller ≠ .admitting
  past : ∀ (index : Nat) (job : Job), queue.jobs[index]? = some job →
    job.caller.isPast = true → job.admitted = true
  failed : ∀ uid index job, Event.failed uid index job ∈ queue.log →
    ∃ found, queue.jobs[job]? = some found ∧ found.ctxErr.isSome = true
  starting : ∀ (index : Nat) (entry : Entry) (job : Nat), queue.entries[index]? = some entry →
    entry.worker = .starting job → ∀ uid place, Event.failed uid place job ∉ queue.log
  started : ∀ uid index job, Event.started uid index job ∈ queue.log →
    (∃ found, queue.jobs[job]? = some found ∧ found.admitted = true) ∧
      ∀ uid place, Event.failed uid place job ∉ queue.log

/-- Where the worker of an entry comes from in one move. -/
theorem Move.worker (moved : Move queue next) (found : next.entries[i]? = some entry) :
    (∃ before, queue.entries[i]? = some before ∧ before.worker = entry.worker) ∨
      entry.worker = .idle ∨ ∃ before events, queue.entries[i]? = some before ∧
          EntryMove queue.jobs i before events entry := by
  cases moved with
  | create =>
    rcases getElem?_concat_eq_some_iff.mp found with known | ⟨rfl, rfl⟩
    · exact .inl ⟨entry, known, rfl⟩
    · exact .inr (.inl rfl)
  | entry change known moved =>
    rcases getElem?_modify_cases known found with ⟨rfl, rfl⟩ | ⟨_, old⟩
    · exact .inr (.inr ⟨_, _, known, moved⟩)
    · exact .inl ⟨entry, old, rfl⟩
  | enqueue | drain | close =>
    obtain ⟨before, old, rfl⟩ := getElem?_modify_eq_some_iff.mp found
    exact .inl ⟨before, old, by split <;> rfl⟩
  | _ => exact .inl ⟨entry, found, rfl⟩

/-- A worker goes past an admission only when it sees it. -/
theorem EntryMove.passed {next : Entry} (moved : EntryMove jobs i entry events next)
    (mem : job ∈ next.worker.passed) :
    job ∈ entry.worker.passed ∨ ∃ found, jobs[job]? = some found ∧ found.admitted = true := by
  cases moved with
  | seeAdmitted waits known admitted =>
    rw [List.mem_singleton.mp mem]
    exact .inr ⟨_, known, admitted⟩
  | pass waits | ready waits =>
    rw [waits]
    exact .inl mem
  | context due same =>
    generalize held : entry.worker = before at same
    cases same with
    | refl => exact .inl mem
    | running => cases mem
  | _ => cases mem

/-- A worker is about to start a job only when it sees the context of the job alive. -/
theorem EntryMove.starting {next : Entry} (moved : EntryMove jobs i entry events next)
    (starts : next.worker = .starting job) :
    entry.worker = .starting job ∨ ∃ found, jobs[job]? = some found ∧ found.ctxErr = none := by
  cases moved with
  | ready waits known live =>
    cases starts
    exact .inr ⟨_, known, live⟩
  | context due same =>
    generalize held : entry.worker = before at same
    cases same with
    | refl => exact .inl starts
    | running => cases starts
  | _ => cases starts

theorem AdmissionSound.move (sound : AdmissionSound queue) (moved : Move queue next) :
    AdmissionSound next := by
  have kept {job : Nat} (admitted : ∃ found, queue.jobs[job]? = some found ∧
      found.admitted = true) : ∃ found, next.jobs[job]? = some found ∧ found.admitted = true := by
    obtain ⟨_, known, admitted⟩ := admitted
    obtain ⟨after, later, changed⟩ := moved.later known
    exact ⟨after, later, changed.admitted admitted⟩
  -- The admission of a job that was let in cannot fail any more.
  have unfailed {job} (admitted : ∃ found, queue.jobs[job]? = some found ∧
      found.admitted = true) (before : ∀ uid place, Event.failed uid place job ∉ queue.log)
      (uid : String) (place : Nat) : Event.failed uid place job ∉ next.log := by
    intro mem
    rcases moved.mem_log mem with mem | ⟨found, known, _, _, admitting, _⟩
    · exact before uid place mem
    obtain ⟨_, same, admitted⟩ := admitted
    cases known.symm.trans same
    exact sound.admitted job found known admitted admitting
  constructor
  · intro i entry job found mem
    apply kept
    rcases moved.worker found with ⟨before, old, same⟩ | idle | ⟨before, _, old, changed⟩
    · exact sound.passed i before job old (same ▸ mem)
    · rw [idle] at mem
      cases mem
    rcases changed.passed mem with mem | admitted
    · exact sound.passed i before job old mem
    · exact admitted
  · intro i job known admitted admitting
    rcases moved.earlier known with ⟨before, old, changed⟩ | ⟨_, fresh, _⟩
    · rcases changed.admits admitted with earlier | proceeded
      · exact sound.admitted i before old earlier (changed.caller admitting)
      · exact proceeded (changed.caller admitting)
    · rw [fresh] at admitted
      cases admitted
  · intro i job known past
    rcases moved.earlier known with ⟨before, old, changed⟩ | ⟨_, fresh, _⟩
    · rcases changed.past past with admitted | earlier
      · exact admitted
      · exact changed.admitted (sound.past i before old earlier)
    · rw [fresh] at past
      cases past
  · intro uid i job mem
    suffices before : ∃ found, queue.jobs[job]? = some found ∧ found.ctxErr.isSome = true by
      obtain ⟨_, known, ended⟩ := before
      obtain ⟨after, later, changed⟩ := moved.later known
      exact ⟨after, later, changed.ended ended⟩
    rcases moved.mem_log mem with mem | ⟨found, known, _, _, _, ended⟩
    · exact sound.failed uid i job mem
    · exact ⟨found, known, ended⟩
  · intro i entry job found starts
    rcases moved.worker found with ⟨before, old, same⟩ | idle | ⟨before, _, old, changed⟩
    · have waits : before.worker = .starting job := same.trans starts
      apply unfailed
      · exact sound.passed i before job old (by rw [waits]; exact List.mem_singleton_self _)
      · exact sound.starting i before job old waits
    · rw [idle] at starts
      cases starts
    · have let_in : ∃ found, queue.jobs[job]? = some found ∧ found.admitted = true := by
        have mem : job ∈ entry.worker.passed := by
          rw [starts]
          exact List.mem_singleton_self _
        rcases changed.passed mem with mem | admitted
        · exact sound.passed i before job old mem
        · exact admitted
      apply unfailed let_in
      rcases changed.starting starts with waits | ⟨_, known, live⟩
      · exact sound.starting i before job old waits
      intro uid place mem
      obtain ⟨_, same, ended⟩ := sound.failed uid place job mem
      rw [known] at same
      cases same
      rw [live] at ended
      cases ended
  · intro uid i job mem
    suffices before : (∃ found, queue.jobs[job]? = some found ∧ found.admitted = true) ∧
        ∀ uid place, Event.failed uid place job ∉ queue.log by
      exact ⟨kept before.1, unfailed before.1 before.2⟩
    rcases moved.mem_log mem with mem | ⟨entry, found, _, waits, _⟩
    · exact sound.started uid i job mem
    refine ⟨sound.passed i entry job found ?_, sound.starting i entry job found waits⟩
    rw [waits]
    exact List.mem_singleton_self _

/-! ## Moves seen from the map and from one entry -/

/-- The map changes for a session only where its entry is created or closed. -/
theorem Move.lookup (moved : Move queue next) (uid : String) :
    next.sessions.lookup uid = queue.sessions.lookup uid ∨
      queue.sessions.lookup uid = none ∨ Event.closed uid ∈ next.log := by
  cases moved with
  | create limits absent =>
    by_cases here : uid = limits.uid
    · exact .inr (.inl (here ▸ absent))
    · exact .inl (AList.lookup_insert_ne here)
  | @close name i mapped =>
    by_cases here : uid = name
    · subst here
      exact .inr (.inr (List.mem_append_right _ (.head _)))
    · exact .inl (AList.lookup_erase_ne here)
  | _ => exact .inl rfl

section Within

variable (moved : MoveWithin allowed queue next)

include moved

theorem MoveWithin.log :
    next.log = queue.log ∨
      ∃ event, next.log = queue.log ++ [event] ∧ Origin queue event ∧ allowed queue event := by
  rcases moved.1.log with same | ⟨event, grown, origin⟩
  · exact .inl same
  · exact .inr ⟨event, grown, origin, moved.2 event grown⟩

theorem MoveWithin.pairwise_log {related : Event → Event → Prop}
    (before : queue.log.Pairwise related)
    (last : ∀ event, Origin queue event → allowed queue event → ∀ earlier ∈ queue.log,
      related earlier event) : next.log.Pairwise related := by
  rcases moved.log with same | ⟨event, grown, origin, allows⟩
  · rw [same]
    exact before
  rw [grown, List.pairwise_append]
  refine ⟨before, List.pairwise_singleton _ _, fun earlier inside later new => ?_⟩
  rw [List.mem_singleton.mp new]
  exact last event origin allows earlier inside

theorem MoveWithin.mem_log (mem : event ∈ next.log) :
    event ∈ queue.log ∨ Origin queue event ∧ allowed queue event :=
  mem_of_grown moved.log mem

end Within

theorem EntryMove.pending_le {next : Entry} (moved : EntryMove jobs i entry events next) :
    next.pending ≤ entry.pending := by
  cases moved with
  | complete => exact Nat.sub_le _ _
  | _ => exact Nat.le_refl _

theorem EntryMove.draining {next : Entry} (moved : EntryMove jobs i entry events next) :
    next.draining = entry.draining := by
  cases moved <;> rfl

/-! ## Every state -/

/-- What holds of the queues whatever happened before. -/
structure Sound (queue : Queue) : Prop where
  entries : EntriesSound queue
  map : MapSound queue
  log : LogSound queue
  admission : AdmissionSound queue

theorem Sound.move (sound : Sound queue) (moved : Move queue next) :
    Sound next where
  entries := sound.entries.move moved
  map := sound.map.move moved
  log := sound.log.move sound.map moved
  admission := sound.admission.move moved

theorem Sound.moves (sound : Sound queue) (moved : MovesWithin allowed queue next) :
    Sound next := by
  induction moved with
  | refl => exact sound
  | tail _ last ih => exact ih.move last.1

theorem sound_newQueue (config : QueueConfig) : Sound (newQueue config) where
  entries := by constructor <;> simp [newQueue, Silent]
  map := by constructor <;> simp [newQueue]
  log := by constructor <;> simp [newQueue]
  admission := by constructor <;> simp [newQueue]

theorem Sound.step {action : Action} (sound : Sound queue)
    (stepped : Queue.step action queue = some next) : Sound next := by
  have moved : MovesWithin (fun _ _ => True) queue next := by
    refine movesWithin_of_step (fun _ _ _ => trivial) ?_ stepped
    cases action <;> simp [Permits]
  exact sound.moves moved

end Kruntimes.Session
