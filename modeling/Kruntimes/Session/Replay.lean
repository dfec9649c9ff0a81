import Kruntimes.Session.Journal

/-!
# Replay of a journal

The events of a journal are numbered from one without gaps, and only the last one may be
terminal.  What a subscriber gets, the retained events first and then those of its
channel, is the journal after its cursor, up to the point where its channel was closed.

The second half needs that no event is stored behind the back of a subscriber.  `Append`
hands an event on only after the write has answered; when the write is stored and its
answer is lost, the next event reaches the subscribers without the one before it.
-/

namespace Kruntimes.Session

open Data Transition

variable {next record : Record} {store : Store} {event : StreamEvent} {key : String}
  {subscriber : Subscriber}

/-! ## What the methods of the store do -/

theorem Record.decode_eq_ok {decoded : Record} (ok : record.decode = .ok decoded) :
    decoded = record := by
  unfold Record.decode at ok
  split at ok
  · cases ok
  · cases ok
    rfl

theorem Record.append_of_decode {found : Record}
    (ok : found.decode.bind (Record.append event) = .ok record) :
    found.append event = .ok record := by
  cases decoded : found.decode with
  | error =>
    rw [decoded] at ok
    cases ok
  | ok =>
    rw [decoded] at ok
    rw [← Record.decode_eq_ok decoded]
    exact ok

theorem Record.append_eq_ok (ok : record.append event = .ok next) :
    record.terminal = false ∧ record.events.length < maxStoredSessionOperationEvents ∧
      event.sequence = record.events.length + 1 ∧
      next = { record with
        events := record.events ++ [event], terminal := event.isTerminal } := by
  unfold Record.append at ok
  split at ok
  · cases ok
  rename_i isOpen
  split at ok
  · cases ok
  rename_i room
  split at ok
  · cases ok
  rename_i contiguous
  cases ok
  exact ⟨eq_false_of_ne_true isOpen, Nat.not_le.mp room, not_not.mp contiguous, rfl⟩

/-- What a subscriber has got and will still get from its channel. -/
def Subscriber.delivered (subscriber : Subscriber) : List StreamEvent :=
  subscriber.retained ++ subscriber.received ++ subscriber.buffer

/-- A change of a subscriber that has nothing to do with the journal. -/
structure Subscriber.Continues (subscriber next : Subscriber) : Prop where
  key : next.key = subscriber.key
  afterSequence : next.afterSequence = subscriber.afterSequence
  delivered : next.delivered = subscriber.delivered
  closed : next.closed = subscriber.closed ∨ next.closed = some .cancelled

theorem Subscriber.Continues.refl (subscriber : Subscriber) : subscriber.Continues subscriber :=
  ⟨rfl, rfl, rfl, .inl rfl⟩

/-- Everything a method of the store can do, when `allowed` tells which cursors are used
with a record and `unheard` which journals may get an event that is not handed on. -/
inductive StoreMove (allowed : Record → Int → Prop) (unheard : String → Prop) (store : Store) :
    Store → Prop
  | stay : StoreMove allowed unheard store store
  | create {key : String} (operationID digest : String) (active : List String)
      (absent : store.journals.lookup key = none) :
      StoreMove allowed unheard store { store with
          journals := store.journals.insert key { operationID, digest }
          active }
  | append {key : String} {event : StreamEvent} {found record : Record}
      (known : store.journals.lookup key = some found)
      (ok : found.append event = .ok record) :
      StoreMove allowed unheard store (store.appended key event record)
  | lose {key : String} {event : StreamEvent} {found record : Record}
      (known : store.journals.lookup key = some found)
      (ok : found.append event = .ok record) (silent : unheard key) :
      StoreMove allowed unheard store
        { store with journals := store.journals.insert key record }
  | subscribe {key : String} {record : Record} {afterSequence : Int}
      (known : store.journals.lookup key = some record)
      (valid : allowed record afterSequence) :
      StoreMove allowed unheard store { store with
          subscribers := store.subscribers ++ [{
            key, afterSequence
            retained := record.eventsAfter afterSequence
            closed := if record.terminal then some .terminal else none }] }
  | modify (index : Nat) {change : Subscriber → Subscriber}
      (continues : ∀ subscriber, Subscriber.Continues subscriber (change subscriber)) :
      StoreMove allowed unheard store
        { store with subscribers := store.subscribers.modify index change }
  | restart : StoreMove allowed unheard store store.restart

namespace Store

variable {allowed : Record → Int → Prop} {unheard : String → Prop}

theorem beginCreate_move (encoding : Encoding) (key operationID digest : String)
    (fault : Option ApiFault) (store : Store) :
    StoreMove allowed unheard store
      (store.beginCreate encoding key operationID digest fault).2 := by
  unfold beginCreate
  dsimp only
  split
  · exact .stay
  split
  next absent =>
    unfold unanswered
    split
    · exact .create operationID digest store.active absent
    · exact .stay
  · exact .stay
  next absent =>
    exact .create operationID digest _ absent
  split
  · exact .stay
  · exact .stay

theorem append_move (encoding : Encoding) {key : String} (event : StreamEvent)
    {fault : Option ApiFault} (silent : ∀ err, fault = some (.lost err) → unheard key)
    (store : Store) :
    StoreMove allowed unheard store (store.append encoding key event fault).2 := by
  unfold append
  split
  · exact .stay
  split
  · exact .stay
  split
  · exact .stay
  · exact .stay
  rename_i known
  split
  · exact .stay
  rename_i appended
  have appended := Record.append_of_decode appended
  split
  · exact .stay
  split
  · unfold unanswered
    split
    · exact .lose known appended (silent _ rfl)
    · exact .stay
  · exact .append known appended

theorem record_eq_ok {fault : Option ApiFault} (ok : store.record key fault = .ok record) :
    store.journals.lookup key = some record := by
  unfold Store.record at ok
  split at ok
  · cases ok
  · cases ok
  next known =>
    rw [known, Record.decode_eq_ok ok]

theorem subscribe_move {afterSequence : Int}
    (valid : ∀ record, store.journals.lookup key = some record → allowed record afterSequence)
    (fault : Option ApiFault) :
    StoreMove allowed unheard store (store.subscribe key afterSequence fault).2 := by
  unfold subscribe
  split
  · exact .stay
  split
  · exact .stay
  rename_i record ok
  have known := record_eq_ok ok
  exact .subscribe known (valid record known)

theorem continues_take (subscriber : Subscriber) :
    Subscriber.Continues subscriber (take subscriber) where
  key := rfl
  afterSequence := rfl
  delivered := by
    cases buffer : subscriber.buffer <;> simp [take, Subscriber.delivered, buffer]
  closed := .inl rfl

theorem receive_move (i : Nat) (store : Store) :
    StoreMove allowed unheard store (store.receive i) :=
  .modify i continues_take

theorem cancel_move (i : Nat) (store : Store) :
    StoreMove allowed unheard store (store.cancel i) := by
  refine .modify i fun subscriber => ⟨rfl, rfl, rfl, ?_⟩
  cases subscriber.closed with
  | none => exact .inr rfl
  | some => exact .inl rfl

end Store

/-! ## Records -/

/-- The events of a record are numbered from one, and only the last one may be terminal. -/
structure Record.Ordered (record : Record) : Prop where
  numbered : ∀ index (event : StreamEvent), record.events[index]? = some event →
    event.sequence = index + 1
  bounded : record.events.length ≤ maxStoredSessionOperationEvents
  terminalLast : ∀ event ∈ record.events.dropLast, event.isTerminal = false
  terminal : record.terminal = record.events.getLast?.any StreamEvent.isTerminal

theorem Record.ordered_new (operationID digest : String) :
    Record.Ordered { operationID, digest } where
  numbered i event found := by simp at found
  bounded := Nat.zero_le _
  terminalLast event mem := by simp at mem
  terminal := rfl

theorem Record.Ordered.isTerminal_eq_false (ordered : record.Ordered)
    (isOpen : record.terminal = false) (mem : event ∈ record.events) :
    event.isTerminal = false := by
  have nonempty : record.events ≠ [] := List.ne_nil_of_mem mem
  rw [← List.dropLast_append_getLast nonempty] at mem
  rcases List.mem_append.mp mem with before | last
  · exact ordered.terminalLast event before
  rw [ordered.terminal, List.getLast?_eq_some_getLast nonempty] at isOpen
  rw [List.mem_singleton.mp last]
  exact isOpen

theorem Record.Ordered.append (ordered : record.Ordered) (ok : record.append event = .ok next) :
    next.Ordered := by
  obtain ⟨isOpen, room, contiguous, rfl⟩ := Record.append_eq_ok ok
  constructor
  · intro i found known
    rcases getElem?_concat_eq_some_iff.mp known with old | ⟨rfl, rfl⟩
    · exact ordered.numbered i found old
    · exact contiguous
  · rw [List.length_append]
    exact room
  · intro found mem
    rw [List.dropLast_concat] at mem
    exact ordered.isTerminal_eq_false isOpen mem
  · simp

theorem Record.Ordered.sequence_le (ordered : record.Ordered) (mem : event ∈ record.events) :
    event.sequence ≤ record.events.length := by
  obtain ⟨i, inside, found⟩ := List.getElem_of_mem mem
  rw [ordered.numbered i event (List.getElem?_eq_some_iff.mpr ⟨inside, found⟩)]
  exact inside

/-! ## Subscribers -/

/-- What a subscriber gets, compared with the record of its operation. -/
structure Subscriber.Follows (record : Record) (subscriber : Subscriber) : Prop where
  ordered : subscriber.delivered <+: record.eventsAfter subscriber.afterSequence
  complete : subscriber.closed = none →
    subscriber.delivered = record.eventsAfter subscriber.afterSequence
  terminal : subscriber.closed = some .terminal → record.terminal = true ∧
    subscriber.delivered = record.eventsAfter subscriber.afterSequence
  reached : subscriber.closed = none → subscriber.afterSequence ≤ record.events.length
  slow : subscriber.closed = some .slow →
    ∀ event ∈ subscriber.delivered, event.isTerminal = false

theorem Subscriber.Follows.continues {next : Subscriber} (follows : subscriber.Follows record)
    (continues : subscriber.Continues next) :
    next.Follows record := by
  obtain ⟨_, cursor, delivered, closed⟩ := continues
  have remains {closing} (named : next.closed = closing)
      (other : closing ≠ some .cancelled) : subscriber.closed = closing := by
    rcases closed with same | cancelled
    · rw [← same, named]
    · exact absurd (named.symm.trans cancelled) other
  constructor
  · rw [cursor, delivered]
    exact follows.ordered
  · intro isOpen
    rw [cursor, delivered]
    exact follows.complete (remains isOpen (by decide))
  · intro ended
    rw [cursor, delivered]
    exact follows.terminal (remains ended (by decide))
  · intro isOpen
    rw [cursor]
    exact follows.reached (remains isOpen (by decide))
  · intro slow
    rw [delivered]
    exact follows.slow (remains slow (by decide))

theorem Record.eventsAfter_append (ok : record.append event = .ok next) (afterSequence : Int) :
    next.eventsAfter afterSequence = record.eventsAfter afterSequence ++
        if afterSequence ≤ record.events.length then [event] else [] := by
  obtain ⟨_, _, _, rfl⟩ := Record.append_eq_ok ok
  unfold Record.eventsAfter
  rw [List.filter_append]
  congr 1
  by_cases before : afterSequence ≤ record.events.length
  · rw [if_pos before]
    refine List.filter_eq_self.mpr ?_
    simp only [List.mem_singleton, forall_eq, decide_eq_true_eq]
    omega
  · rw [if_neg before]
    refine List.filter_eq_nil_iff.mpr ?_
    simp only [List.mem_singleton, forall_eq, decide_eq_true_eq]
    omega

theorem Store.offer_key (event : StreamEvent) (subscriber : Subscriber) :
    (Store.offer event subscriber).key = subscriber.key := by
  unfold Store.offer
  split <;> rfl

/-- A subscriber that the new event was not offered to. -/
theorem Subscriber.Follows.behind (follows : subscriber.Follows record)
    (ok : record.append event = .ok next) (ended : subscriber.closed ≠ none) :
    subscriber.Follows next := by
  have isOpen := (Record.append_eq_ok ok).1
  constructor
  · rw [Record.eventsAfter_append ok]
    exact follows.ordered.trans (List.prefix_append _ _)
  · intro none
    exact absurd none ended
  · intro closed
    rw [(follows.terminal closed).1] at isOpen
    cases isOpen
  · intro none
    exact absurd none ended
  · exact follows.slow

theorem Subscriber.Follows.offer (follows : subscriber.Follows record) (ordered : record.Ordered)
    (ok : record.append event = .ok next) (attached : subscriber.closed = none) :
    (Store.offer event subscriber).Follows next := by
  have reached := follows.reached attached
  have grows := Record.eventsAfter_append ok subscriber.afterSequence
  rw [if_pos reached] at grows
  obtain ⟨isOpen, _, _, same⟩ := Record.append_eq_ok ok
  unfold Store.offer
  split
  · -- The channel has room: the event follows what was delivered before.
    have delivered : subscriber.delivered ++ [event] =
        next.eventsAfter subscriber.afterSequence := by
      rw [grows, follows.complete attached]
    have offered : ∀ closed, Subscriber.delivered
        { subscriber with buffer := subscriber.buffer ++ [event], closed } =
          next.eventsAfter subscriber.afterSequence := by
      intro closed
      rw [← delivered]
      simp [Subscriber.delivered]
    constructor
    · rw [offered]
    · intro _
      exact offered _
    · intro ended
      refine ⟨?_, offered _⟩
      rw [same]
      cases isTerminal : event.isTerminal with
      | true => rfl
      | false =>
        rw [isTerminal, attached] at ended
        cases ended
    · intro _
      rw [same, List.length_append]
      exact le_trans reached (by simp)
    · intro slow
      split at slow
      · cases slow
      · cases attached.symm.trans slow
  · constructor
    · rw [grows]
      exact follows.ordered.trans (List.prefix_append _ _)
    · intro closed
      cases closed
    · intro closed
      cases closed
    · intro closed
      cases closed
    · intro _ found mem
      change found ∈ subscriber.delivered at mem
      rw [follows.complete attached] at mem
      exact ordered.isTerminal_eq_false isOpen (List.mem_of_mem_filter mem)

/-! ## Runs of the store -/

/-- Every journal is ordered. -/
def Store.Ordered (store : Store) : Prop :=
  ∀ key record, store.journals.lookup key = some record → record.Ordered

theorem StoreMove.ordered {allowed : Record → Int → Prop} {unheard : String → Prop} {next : Store}
    (moved : StoreMove allowed unheard store next) (ordered : store.Ordered) : next.Ordered := by
  intro key record known
  cases moved with
  | create operationID digest =>
    rcases Table.lookup_insert_cases known with ⟨rfl, rfl⟩ | ⟨_, known⟩
    · exact Record.ordered_new operationID digest
    · exact ordered key record known
  | append found_eq ok =>
    rcases Table.lookup_insert_cases known with ⟨rfl, rfl⟩ | ⟨_, known⟩
    · exact (ordered _ _ found_eq).append ok
    · exact ordered key record known
  | lose found_eq ok =>
    rcases Table.lookup_insert_cases known with ⟨rfl, rfl⟩ | ⟨_, known⟩
    · exact (ordered _ _ found_eq).append ok
    · exact ordered key record known
  | _ => exact ordered key record known

/-- The journals are ordered and every subscriber follows the journal of its operation. -/
structure Consistent (store : Store) : Prop where
  ordered : store.Ordered
  followed : ∀ (index : Nat) (subscriber : Subscriber),
    store.subscribers[index]? = some subscriber →
      ∃ record, store.journals.lookup subscriber.key = some record ∧ subscriber.Follows record

theorem consistent_empty : Consistent {} where
  ordered key record known := by cases known
  followed i subscriber known := by cases known

/-- The cursor is not beyond the end of the journal. -/
def Record.reaches (record : Record) (afterSequence : Int) : Prop :=
  afterSequence ≤ record.events.length

theorem Subscriber.follows_subscribe {afterSequence : Int} (key : String)
    (reached : record.reaches afterSequence) :
    Subscriber.Follows record {
      key, afterSequence
      retained := record.eventsAfter afterSequence
      closed := if record.terminal then some .terminal else none } := by
  have delivered : ∀ closed, Subscriber.delivered {
      key, afterSequence, retained := record.eventsAfter afterSequence, closed } =
        record.eventsAfter afterSequence := by
    intro closed
    simp [Subscriber.delivered]
  constructor
  · rw [delivered]
  · intro _
    exact delivered _
  · intro ended
    refine ⟨?_, delivered _⟩
    cases terminal : record.terminal with
    | true => rfl
    | false =>
      rw [terminal] at ended
      cases ended
  · intro _
    exact reached
  · intro slow
    split at slow <;> cases slow

/-- No open channel belongs to the operation. -/
def Store.Unheard (store : Store) (key : String) : Prop :=
  ∀ subscriber ∈ store.subscribers, subscriber.key = key → subscriber.closed ≠ none

instance (store : Store) (key : String) : Decidable (store.Unheard key) := List.decidableBAll _ _

theorem Consistent.move {next : Store} (consistent : Consistent store)
    (moved : StoreMove Record.reaches store.Unheard store next) : Consistent next := by
  refine ⟨moved.ordered consistent.ordered, ?_⟩
  intro i subscriber known
  cases moved with
  | stay => exact consistent.followed i subscriber known
  | create operationID digest active absent =>
    obtain ⟨record, stored, follows⟩ := consistent.followed i subscriber known
    refine ⟨record, (AList.lookup_insert_ne ?_).trans stored, follows⟩
    rintro rfl
    cases absent.symm.trans stored
  | @append appended event found record found_eq ok =>
    unfold Store.appended Store.broadcast at known
    rw [List.getElem?_map, Option.map_eq_some_iff] at known
    obtain ⟨source, old, rfl⟩ := known
    obtain ⟨before, stored, follows⟩ := consistent.followed i source old
    by_cases named : source.key = appended
    · subst named
      cases found_eq.symm.trans stored
      by_cases attached : source.closed = none
      · rw [if_pos ⟨rfl, attached⟩]
        refine ⟨record, ?_, follows.offer (consistent.ordered _ _ found_eq) ok attached⟩
        rw [Store.offer_key]
        exact AList.lookup_insert _
      · rw [if_neg fun both => attached both.2]
        exact ⟨record, AList.lookup_insert _, follows.behind ok attached⟩
    · rw [if_neg fun both => named both.1]
      exact ⟨before, (AList.lookup_insert_ne named).trans stored, follows⟩
  | @lose appended event found record found_eq ok silent =>
    obtain ⟨before, stored, follows⟩ := consistent.followed i subscriber known
    by_cases named : subscriber.key = appended
    · subst named
      cases found_eq.symm.trans stored
      have ended := silent subscriber (List.mem_of_getElem? known) rfl
      exact ⟨record, AList.lookup_insert _, follows.behind ok ended⟩
    · exact ⟨before, (AList.lookup_insert_ne named).trans stored, follows⟩
  | @subscribe key record afterSequence found_eq valid =>
    rcases getElem?_concat_eq_some_iff.mp known with old | ⟨_, rfl⟩
    · exact consistent.followed i subscriber old
    · exact ⟨record, found_eq, Subscriber.follows_subscribe key valid⟩
  | @modify j change kept =>
    obtain ⟨source, old, rfl⟩ := getElem?_modify_eq_some_iff.mp known
    obtain ⟨record, stored, follows⟩ := consistent.followed i source old
    have kept : source.Continues (if j = i then change source else source) := by
      split
      · exact kept source
      · exact .refl source
    exact ⟨record, by rw [kept.key]; exact stored, follows.continues kept⟩
  | restart => cases known

/-- A subscription with a cursor that is 0 or the number of an event that was stored. -/
def StoreAction.resumes : StoreAction → Store → Prop
  | .subscribe uid operationID afterSequence _, store =>
    afterSequence = 0 ∨
      (store.journals.lookup (sessionOperationMemoryKey uid operationID)).any fun record =>
        record.events.any fun event => event.sequence = afterSequence
  | _, _ => True

instance (action : StoreAction) (store : Store) : Decidable (action.resumes store) :=
  match action with
  | .begin .. => .isTrue trivial
  | .append .. => .isTrue trivial
  | .subscribe .. => instDecidableOr
  | .receive .. => .isTrue trivial
  | .cancel .. => .isTrue trivial
  | .restart => .isTrue trivial

/-- An event whose write is stored without an answer has no subscriber that misses it. -/
def StoreAction.heard (action : StoreAction) (store : Store) : Prop :=
  match action with
  | .append uid operationID _ (some (.lost _)) =>
    store.Unheard (sessionOperationMemoryKey uid operationID)
  | _ => True

instance (action : StoreAction) (store : Store) : Decidable (action.heard store) := by
  unfold StoreAction.heard
  split <;> infer_instance

theorem storeMove_of_step {allowed : Record → Int → Prop} {unheard : String → Prop}
    {encoding : Encoding} {action : StoreAction} {next : Store}
    (subscribes : ∀ {uid operationID afterSequence fault},
      action = .subscribe uid operationID afterSequence fault → ∀ record,
        store.journals.lookup (sessionOperationMemoryKey uid operationID) = some record →
          allowed record afterSequence)
    (loses : ∀ {uid operationID event err}, action = .append uid operationID event
      (some (.lost err)) → unheard (sessionOperationMemoryKey uid operationID))
    (stepped : store.step encoding action = some next) :
    StoreMove allowed unheard store next := by
  cases action with
  | begin =>
    simp only [Store.step] at stepped
    split at stepped
    · cases stepped
      exact Store.beginCreate_move _ _ _ _ _ _
    · cases stepped
      exact .stay
  | append =>
    cases stepped
    exact Store.append_move _ _ (fun _ lost => loses (by rw [lost])) _
  | subscribe =>
    cases stepped
    exact Store.subscribe_move (subscribes rfl) _
  | receive =>
    cases stepped
    exact Store.receive_move _ _
  | cancel =>
    cases stepped
    exact Store.cancel_move _ _
  | restart =>
    cases stepped
    exact .restart

/-- In every run of the store, whatever its subscribers ask for and its writes answer, the
journals are ordered. -/
theorem journalsOrdered_of_run {encoding : Encoding} {actions : List StoreAction} {store : Store}
    (ran : run (Store.step encoding) actions {} = some store) : store.Ordered := by
  refine invariant_of_run ?_ consistent_empty.ordered ran
  intro action source target ordered stepped
  have moved : StoreMove (fun _ _ => True) (fun _ => True) source target :=
    storeMove_of_step (fun _ _ _ => trivial) (fun _ => trivial) stepped
  exact moved.ordered ordered

theorem Consistent.step {encoding : Encoding} {action : StoreAction} {next : Store}
    (consistent : Consistent store) (resumes : action.resumes store) (heard : action.heard store)
    (stepped : store.step encoding action = some next) : Consistent next := by
  refine consistent.move (storeMove_of_step ?_ ?_ stepped)
  · rintro uid operationID afterSequence fault rfl record known
    rcases resumes with rfl | stored
    · exact Int.natCast_nonneg _
    rw [known, Option.any_some, List.any_eq_true] at stored
    obtain ⟨_, mem, numbered⟩ := stored
    have bound := (consistent.ordered _ record known).sequence_le mem
    rw [← of_decide_eq_true numbered]
    exact Int.ofNat_le.mpr bound
  · rintro uid operationID event err rfl
    exact heard

/-- In every run of the store in which subscriptions start at a stored event or at the
beginning, and no event is stored unheard, the journals are ordered and the subscribers
follow them. -/
theorem consistent_of_guarded_run {encoding : Encoding} {actions : List StoreAction}
    {store : Store}
    (ran : run (restrict (fun action store => action.resumes store ∧ action.heard store)
      (Store.step encoding)) actions {} = some store) :
    Consistent store := by
  refine invariant_of_guarded_run _ _ Consistent ?_ consistent_empty ran
  rintro action source target ⟨resumes, heard⟩ consistent stepped
  exact consistent.step resumes heard stepped

/-- The sizes of events and journals stay below every limit. -/
def smallEncoding : Encoding := ⟨fun _ => 0, fun _ => 0⟩

def outputAction (sequence : Nat) (fault : Option ApiFault) : StoreAction :=
  .append "uid-1" "op-1" { sequence, payload := some (.output .stdout []) } fault

/-- A write without an answer before there is a subscriber, and then a subscriber that is
too slow for its channel. -/
def slowReader : List StoreAction :=
  [.begin "uid-1" "op-1" "digest" none, outputAction 1 none,
    outputAction 2 (some (.lost "timeout")),
    .subscribe "uid-1" "op-1" 1 none, .subscribe "uid-1" "op-1" 2 none] ++
  (List.range 16).map (fun index => outputAction (index + 3) none) ++
  [.receive 0, outputAction 19 none, .append "uid-1" "op-1" ⟨20, some (.completed { })⟩ none]

/-- The numbers of the events each subscriber gets, and how its channel ended. -/
def Store.sequences (store : Store) : List (List Nat × Option Closing) :=
  store.subscribers.map fun subscriber =>
    (subscriber.delivered.map (·.sequence), subscriber.closed)

theorem consistent_slowReader :
    ∃ store, run (restrict (fun action store => action.resumes store ∧ action.heard store)
        (Store.step smallEncoding)) slowReader {} = some store ∧
      store.sequences =
        [((List.range 18).map (· + 2), some .slow), ((List.range 16).map (· + 3), some .slow)] ∧
      Consistent store := by
  apply exists_reached_and
  · decide +kernel
  · exact fun _ ran _ => consistent_of_guarded_run ran

/-- The second of three events is stored and its answer is lost. -/
def lostAnswer : List StoreAction :=
  [.begin "uid-1" "op-1" "digest" none, .subscribe "uid-1" "op-1" 0 none, outputAction 1 none,
    outputAction 2 (some (.lost "context deadline exceeded")), outputAction 3 none]

/-- An open channel has delivered the whole journal behind its cursor. -/
def Store.Complete (store : Store) : Prop :=
  ∀ subscriber ∈ store.subscribers, subscriber.closed = none →
    (store.journals.lookup subscriber.key).any fun record =>
      subscriber.delivered = record.eventsAfter subscriber.afterSequence

instance (store : Store) : Decidable store.Complete := List.decidableBAll _ _

theorem Consistent.complete (consistent : Consistent store) : store.Complete := by
  intro subscriber mem attached
  obtain ⟨i, known⟩ := List.mem_iff_getElem?.mp mem
  obtain ⟨record, stored, follows⟩ := consistent.followed i subscriber known
  rw [stored]
  exact decide_eq_true (follows.complete attached)

/-- A subscriber of all events gets the first and the third. -/
theorem exists_not_consistent :
    ∃ store, run (restrict StoreAction.resumes (Store.step smallEncoding)) lostAnswer {} =
        some store ∧
      (store.journals.lookup (sessionOperationMemoryKey "uid-1" "op-1")).map
        (fun record => record.events.map (·.sequence)) = some [1, 2, 3] ∧
      store.sequences = [([1, 3], none)] ∧ ¬ Consistent store := by
  refine exists_reached (fun store => (store.journals.lookup
      (sessionOperationMemoryKey "uid-1" "op-1")).map
        (fun record => record.events.map (·.sequence)) = some [1, 2, 3] ∧
    store.sequences = [([1, 3], none)] ∧ ¬ store.Complete) (by decide +kernel) ?_
  rintro store - ⟨stored, got, missed⟩
  exact ⟨stored, got, fun consistent => missed consistent.complete⟩

end Kruntimes.Session
