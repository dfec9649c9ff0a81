import Kruntimes.Session.Replay

/-!
# Forwarding to the owner

A runtimed that does not own a session forwards the stream of the owner.  It checks the
stream as it passes: the events must be numbered from one, so that a stream that resumes
an operation is refused, and a stream without a terminal event may not end well.
-/

namespace Kruntimes.Session

open Data

def sessionOperationAccepted (sequence : Nat) (operationID : String) : StreamEvent where
  sequence
  payload := some (.accepted operationID)

def sessionOperationFailure (sequence : Nat) (operationErr : Failure) : StreamEvent where
  sequence
  payload := some (.failed operationErr.code.number operationErr.message)

/-- What one side of a stream gets: the events, and the status at the end. -/
@[ext]
structure Stream where
  events : List StreamEvent
  status : Option Failure
  deriving DecidableEq

/-- `forwardSessionOperationEvents` without a counter of its own.  The client takes every
event it is sent. -/
def forwardSessionOperationEvents (forwardedSequence : Nat) (terminal : Bool) :
    List StreamEvent → Option Failure → Stream
  | [], none =>
    if terminal then ⟨[], none⟩
    else ⟨[], some (.status .internal "Runtime Server stream ended without a terminal event")⟩
  | [], some err => ⟨[], some err⟩
  | event :: rest, status =>
    if event.payload = none then
      ⟨[], some (.status .invalidArgument "Runtime Server emitted an event without a payload")⟩
    else if terminal then
      ⟨[], some (.status .invalidArgument "Runtime Server emitted an event after completion")⟩
    else if event.sequence ≠ forwardedSequence + 1 then
      ⟨[], some (.status .invalidArgument "owner runtimed emitted a non-contiguous event sequence")⟩
    else
      let later := forwardSessionOperationEvents event.sequence event.isTerminal rest status
      ⟨event :: later.events, later.status⟩

/-- What the client of the forwarding runtimed gets. -/
def Stream.forwarded (owner : Stream) : Stream :=
  forwardSessionOperationEvents 0 false owner.events owner.status

/-- What `resumeSessionOperation` sends for an operation that has ended. -/
def Record.replayed (resumeAfterSequence : Int) (record : Record) : Stream :=
  ⟨record.eventsAfter resumeAfterSequence, none⟩

/-- A stream that goes on after `count` events. -/
structure Stream.Continues (count : Nat) (terminal : Bool) (stream : Stream) : Prop where
  numbered : ∀ (index : Nat) (event : StreamEvent), stream.events[index]? = some event →
    event.sequence = count + index + 1
  carried : ∀ event ∈ stream.events, event.payload ≠ none
  silent : terminal = true → stream.events = []
  last : ∀ event ∈ stream.events.dropLast, event.isTerminal = false
  ended : stream.status = none →
    terminal = true ∨ stream.events.getLast?.any StreamEvent.isTerminal = true

section Forwarding

variable {count : Nat} {terminal : Bool} {status : Option Failure} {event : StreamEvent}
  {rest : List StreamEvent}

theorem Stream.continues_nil :
    Stream.Continues count terminal ⟨[], status⟩ ↔ (status = none → terminal = true) := by
  constructor
  · intro continues ok
    rcases continues.ended ok with done | last
    · exact done
    · cases last
  · intro ended
    exact ⟨nofun, nofun, fun _ => rfl, nofun, fun ok => .inl (ended ok)⟩

theorem Stream.continues_cons :
    Stream.Continues count terminal ⟨event :: rest, status⟩ ↔
      event.payload ≠ none ∧ terminal = false ∧ event.sequence = count + 1 ∧
        Stream.Continues (count + 1) event.isTerminal ⟨rest, status⟩ := by
  constructor
  · rintro ⟨numbered, carried, silent, last, ended⟩
    refine ⟨carried event (.head _), ?_, numbered 0 event rfl, ?_, ?_, ?_, ?_, ?_⟩
    · cases terminal with
      | false => rfl
      | true => cases silent rfl
    · intro i later found
      have number := numbered (i + 1) later found
      omega
    · exact fun later mem => carried later (.tail _ mem)
    · intro done
      -- A terminal event with others behind it would not be the last one.
      cases rest with
      | nil => rfl
      | cons =>
        rw [last event (by simp)] at done
        cases done
    · intro later mem
      apply last
      cases rest with
      | nil => cases mem
      | cons => exact .tail _ mem
    · intro ok
      cases rest with
      | nil => exact .inl ((ended ok).resolve_left fun done => nomatch silent done)
      | cons =>
        refine .inr ?_
        rcases ended ok with done | last
        · cases silent done
        · rwa [List.getLast?_cons_cons] at last
  · rintro ⟨payload, live, sequence, numbered, carried, silent, last, ended⟩
    subst live
    refine ⟨?_, ?_, nofun, ?_, ?_⟩
    · intro i later found
      cases i with
      | zero =>
        cases found
        exact sequence
      | succ i =>
        have number := numbered i later found
        omega
    · exact fun later mem => (List.mem_cons.mp mem).elim (· ▸ payload) (carried later)
    · intro later mem
      cases rest with
      | nil => cases mem
      | cons =>
        rcases List.mem_cons.mp mem with rfl | mem
        · exact Bool.eq_false_iff.mpr fun done => nomatch silent done
        · exact last later mem
    · intro ok
      refine .inr ?_
      cases rest with
      | nil => exact (ended ok).resolve_right nofun
      | cons =>
        rw [List.getLast?_cons_cons]
        exact (ended ok).resolve_left fun done => nomatch silent done

/-- A stream passes unchanged exactly if it goes on as it should. -/
theorem forwardSessionOperationEvents_eq_iff {events : List StreamEvent} :
    forwardSessionOperationEvents count terminal events status = ⟨events, status⟩ ↔
      Stream.Continues count terminal ⟨events, status⟩ := by
  induction events generalizing count terminal with
  | nil =>
    rw [Stream.continues_nil]
    cases status <;> cases terminal <;> simp [forwardSessionOperationEvents]
  | cons event rest ih =>
    rw [Stream.continues_cons, ← ih, forwardSessionOperationEvents]
    split
    · simp [*]
    split
    · simp [*]
    split
    · simp [*]
    rename_i payload live sequence
    have sequence := not_not.mp sequence
    rw [sequence]
    simp [payload, live, Stream.ext_iff]

end Forwarding

theorem Record.Ordered.sequence_pos {record : Record} (ordered : record.Ordered)
    {event : StreamEvent} (mem : event ∈ record.events) : 0 < event.sequence := by
  obtain ⟨i, found⟩ := List.mem_iff_getElem?.mp mem
  rw [ordered.numbered i event found]
  exact Nat.succ_pos i

/-- A replay from the start goes on from nothing. -/
theorem Record.Ordered.continues {record : Record} (ordered : record.Ordered)
    (terminal : record.terminal = true)
    (carried : ∀ event ∈ record.events, event.payload ≠ none) :
    Stream.Continues 0 false (record.replayed 0) := by
  have all : record.eventsAfter 0 = record.events := by
    apply List.filter_eq_self.mpr
    intro event mem
    exact decide_eq_true (Int.natCast_pos.mpr (ordered.sequence_pos mem))
  unfold Record.replayed
  rw [all]
  refine ⟨?_, carried, nofun, ordered.terminalLast, fun _ => .inr ?_⟩
  · intro i event found
    rw [ordered.numbered i event found, Nat.zero_add]
  · rw [← ordered.terminal]
    exact terminal

theorem Record.Ordered.forwarded_replayed_iff {record : Record} (ordered : record.Ordered)
    (terminal : record.terminal = true)
    (carried : ∀ event ∈ record.events, event.payload ≠ none) (cursor : Nat) :
    (record.replayed cursor).forwarded = record.replayed cursor ↔ cursor = 0 := by
  rw [Stream.forwarded, forwardSessionOperationEvents_eq_iff]
  constructor
  · intro continues
    have last := (continues.ended rfl).resolve_left nofun
    change (record.eventsAfter cursor).getLast?.any _ = true at last
    cases events : record.eventsAfter cursor with
    | nil =>
      rw [events] at last
      cases last
    | cons event =>
      -- The first event behind the cursor has the number one.
      have first := continues.numbered 0 event (by
        change (record.eventsAfter cursor)[0]? = _
        rw [events]
        rfl)
      have behind : event ∈ record.eventsAfter cursor := by
        rw [events]
        exact .head _
      have behind := of_decide_eq_true (List.mem_filter.mp behind).2
      omega
  · rintro rfl
    exact ordered.continues terminal carried

/-- A runtimed that forwards a stream is transparent exactly for streams whose events are
numbered from one, carry a payload and end with a terminal event or an error.  For the
replay of an operation that has ended this is the case exactly without a cursor. -/
theorem forwarded_eq_iff (owner : Stream) (record : Record) (cursor : Nat) :
    (owner.forwarded = owner ↔ owner.Continues 0 false) ∧
    (record.Ordered → record.terminal = true → (∀ event ∈ record.events, event.payload ≠ none) →
        ((record.replayed cursor).forwarded = record.replayed cursor ↔ cursor = 0)) :=
  ⟨forwardSessionOperationEvents_eq_iff, fun ordered terminal carried =>
    ordered.forwarded_replayed_iff terminal carried cursor⟩

/-- The journal of an operation with one output. -/
def shortRecord : Record where
  operationID := "op-1"
  digest := "sha256:ls"
  terminal := true
  events := [sessionOperationAccepted 1 "op-1",
    { sequence := 2, payload := some (.output .stdout []) },
    sessionOperationFailure 3 (.other "exit")]

theorem shortRecord_ordered : shortRecord.Ordered where
  numbered := by
    intro i event found
    rcases i with _ | _ | _ | _
    · cases found; rfl
    · cases found; rfl
    · cases found; rfl
    · cases found
  bounded := by decide
  terminalLast := by decide
  terminal := by decide

/-- The whole replay is forwarded as it is. -/
theorem forwarded_shortRecord : (shortRecord.replayed 0).forwarded = shortRecord.replayed 0 :=
  ((forwarded_eq_iff (shortRecord.replayed 0) shortRecord 0).2 shortRecord_ordered rfl
    (by decide)).mpr rfl

/-- A client that has seen two of three events asks for the rest: the owner sends the third
and ends well, and the forwarding runtimed refuses it. -/
theorem exists_refused_resume :
    ∃ record : Record, record.Ordered ∧ record.terminal = true ∧
      record.replayed 2 = ⟨[sessionOperationFailure 3 (.other "exit")], none⟩ ∧
      (record.replayed 2).forwarded = ⟨[], some (.status .invalidArgument
        "owner runtimed emitted a non-contiguous event sequence")⟩ :=
  ⟨shortRecord, shortRecord_ordered, rfl, by decide, by decide⟩

/-! ## Resumed operations -/

/-- A client that resumes an operation while it runs gets what its subscriber gets.  Through
another runtimed it gets the same exactly if it asks for all events and stays attached until
the operation ends. -/
theorem Consistent.forwarded_resumed_iff {store : Store} (consistent : Consistent store)
    {i : Nat} {subscriber : Subscriber} (found : store.subscribers[i]? = some subscriber)
    (cursor : 0 ≤ subscriber.afterSequence)
    (carried : ∀ record, store.journals.lookup subscriber.key = some record →
      ∀ event ∈ record.events, event.payload ≠ none)
    (closed : subscriber.closed = some .terminal ∨ subscriber.closed = some .slow) :
    (Stream.mk subscriber.delivered none).forwarded = ⟨subscriber.delivered, none⟩ ↔
      subscriber.closed = some .terminal ∧ subscriber.afterSequence = 0 := by
  obtain ⟨record, stored, follows⟩ := consistent.followed i subscriber found
  have ordered := consistent.ordered _ _ stored
  rcases closed with ended | slow
  · obtain ⟨terminal, delivered⟩ := follows.terminal ended
    obtain ⟨cursor, same⟩ := Int.eq_ofNat_of_zero_le cursor
    have replayed : Stream.mk subscriber.delivered none = record.replayed cursor := by
      rw [delivered, same]
      rfl
    rw [replayed, ordered.forwarded_replayed_iff terminal (carried record stored), same]
    simp [ended]
  · refine iff_of_false ?_ fun both => by cases slow.symm.trans both.1
    rw [Stream.forwarded, forwardSessionOperationEvents_eq_iff]
    intro continues
    obtain ⟨event, last, terminal⟩ :=
      (Option.any_eq_true _ _).mp ((continues.ended rfl).resolve_left nofun)
    cases (follows.slow slow event (List.mem_of_getLast? last)).symm.trans terminal

/-! ## New operations -/

/-- The handler of a new operation: the counter, the events that were persisted and sent, and
the store. -/
structure Handler where
  sequence : Nat
  sent : List StreamEvent
  store : Store

section Handler

variable (encoding : Encoding) (protoSize : StreamEvent → Nat) (key : String)

/-- `persistAndSend`. -/
def Handler.persistAndSend (event : StreamEvent) (fault : Option ApiFault) (handler : Handler) :
    Option Failure × Handler :=
  match handler.store.append encoding key event fault with
  | (.error err, store) => (some err, { handler with store })
  | (.ok (), store) => (none, { handler with sent := handler.sent ++ [event], store })

def maxSessionOperationEventBytes : Nat := 64 * 1024

def validateRuntimeSessionOperationEvent (event : StreamEvent) : Option Failure :=
  if maxSessionOperationEventBytes < protoSize event then
    some (.status .resourceExhausted "Runtime Server Session event exceeds the size limit")
  else
    match event.payload with
    | some (.output .unspecified _) =>
      some (.status .invalidArgument "Runtime Server Session output stream is invalid")
    | some (.progress { kind := .unspecified, .. }) =>
      some (.status .invalidArgument "Runtime Server Session progress kind is required")
    | _ => none

/-- `forwardSessionOperationEvents` with the counter of the owner, for what the Runtime Server
sends and the faults of the writes. -/
def Handler.forward (terminal : Bool) :
    List (StreamEvent × Option ApiFault) → Option Failure → Handler → Option Failure × Handler
  | [], none, handler =>
    (if terminal then none
      else some (.status .internal "Runtime Server stream ended without a terminal event"), handler)
  | [], some err, handler => (some err, handler)
  | (event, fault) :: rest, status, handler =>
    if event.payload = none then
      (some (.status .invalidArgument "Runtime Server emitted an event without a payload"), handler)
    else if terminal then
      (some (.status .invalidArgument "Runtime Server emitted an event after completion"), handler)
    else
      match validateRuntimeSessionOperationEvent protoSize event, event.payload with
      | some err, _ => (some err, handler)
      | none, some (.accepted _) | none, some (.failed _ _) =>
        (some (.status .invalidArgument "Runtime Server emitted an owner-only Session event"),
          handler)
      | none, _ =>
        let next := handler.sequence + 1
        match ({ handler with sequence := next } : Handler).persistAndSend encoding key
            { event with sequence := next } fault with
        | (some err, handler) => (some err, handler)
        | (none, handler) => handler.forward event.isTerminal rest status

/-- What the owner sends for a new operation.  The queue refuses it, or admits it and turns the
error of the callback into that of the operation. -/
def streamNewOperation (operationID : String) (refused : Option Failure)
    (queued : Option Failure → Option Failure) (runtime : List (StreamEvent × Option ApiFault))
    (status : Option Failure) (accepted failed : Option ApiFault) (store : Store) : Stream :=
  match refused with
  | some err => ⟨[], some err⟩
  | none =>
    match Handler.persistAndSend encoding key (sessionOperationAccepted 1 operationID) accepted
        ⟨1, [], store⟩ with
    | (some err, _) => ⟨[], some err⟩
    | (none, handler) =>
      let (callbackErr, handler) := handler.forward encoding protoSize key false runtime status
      match queued callbackErr with
      | none => ⟨handler.sent, none⟩
      | some err =>
        let (persistErr, handler) := handler.persistAndSend encoding key
          (sessionOperationFailure (handler.sequence + 1) err) failed
        ⟨handler.sent, persistErr⟩

end Handler

/-- The journal has exactly the events that were sent. -/
def Handler.Sound (key : String) (handler : Handler) : Prop :=
  ∃ record, handler.store.journals.lookup key = some record ∧ record.Ordered ∧
    record.events = handler.sent ∧ ∀ event ∈ handler.sent, event.payload ≠ none

/-- The write was stored if and only if it says so. -/
def Answered (fault : Option ApiFault) : Prop :=
  ∀ err, fault ≠ some (.lost err)

section Sound

variable {encoding : Encoding} {protoSize : StreamEvent → Nat} {key : String}
  {handler : Handler} {fault : Option ApiFault} {event : StreamEvent} {store : Store}

/-- An append whose answer arrives is made, or changes nothing. -/
theorem Store.append_of_answered (answered : Answered fault) :
    (∃ err, store.append encoding key event fault = (.error err, store)) ∨
      ∃ found record, store.journals.lookup key = some found ∧ found.append event = .ok record ∧
        store.append encoding key event fault = (.ok (), store.appended key event record) := by
  unfold Store.append
  split
  · exact .inl ⟨_, rfl⟩
  split
  · exact .inl ⟨_, rfl⟩
  split
  · exact .inl ⟨_, rfl⟩
  · exact .inl ⟨_, rfl⟩
  next found _ known =>
  split
  · exact .inl ⟨_, rfl⟩
  next record appended =>
  split
  · exact .inl ⟨_, rfl⟩
  split
  next err _ =>
    cases fault with
    | none => exact .inl ⟨_, rfl⟩
    | some fault =>
      cases fault with
      | lost err => exact absurd rfl (answered err)
      | _ => exact .inl ⟨_, rfl⟩
  · exact .inr ⟨found, record, known, Record.append_of_decode appended, rfl⟩

/-- The handler sends an event exactly if the journal takes it. -/
theorem Handler.Sound.persistAndSend (sound : handler.Sound key) (answered : Answered fault)
    (carried : event.payload ≠ none) :
    (handler.persistAndSend encoding key event fault).2.Sound key ∧
      ((handler.persistAndSend encoding key event fault).1 = none →
        (handler.persistAndSend encoding key event fault).2.sent = handler.sent ++ [event]) := by
  obtain ⟨record, stored, ordered, events, payloads⟩ := sound
  unfold Handler.persistAndSend
  rcases Store.append_of_answered answered with
    ⟨err, refused⟩ | ⟨found, next, known, ok, appended⟩
  · rw [refused]
    exact ⟨⟨record, stored, ordered, events, payloads⟩, nofun⟩
  · rw [appended]
    cases known.symm.trans stored
    obtain ⟨_, _, _, same⟩ := Record.append_eq_ok ok
    refine ⟨⟨next, AList.lookup_insert _, ordered.append ok, ?_, ?_⟩, fun _ => rfl⟩
    · rw [same, ← events]
    · intro other mem
      rcases List.mem_append.mp mem with old | new
      · exact payloads other old
      · rwa [List.mem_singleton.mp new]

/-- What was sent ends with a terminal event. -/
def Handler.isComplete (handler : Handler) : Bool :=
  handler.sent.getLast?.any StreamEvent.isTerminal

theorem Handler.Sound.forward {runtime : List (StreamEvent × Option ApiFault)}
    (answered : ∀ entry ∈ runtime, Answered entry.2) {terminal : Bool} {status : Option Failure}
    (sound : handler.Sound key) (complete : terminal = true → handler.isComplete = true) :
    (handler.forward encoding protoSize key terminal runtime status).2.Sound key ∧
      ((handler.forward encoding protoSize key terminal runtime status).1 = none →
        (handler.forward encoding protoSize key terminal runtime status).2.isComplete = true) := by
  induction runtime generalizing handler terminal with
  | nil =>
    cases status with
    | some => exact ⟨sound, nofun⟩
    | none =>
      refine ⟨sound, fun none => complete ?_⟩
      cases terminal with
      | true => rfl
      | false => cases none
  | cons entry rest ih =>
    obtain ⟨event, fault⟩ := entry
    have later := fun entry mem => answered entry (.tail _ mem)
    unfold Handler.forward
    split
    · exact ⟨sound, nofun⟩
    next carried =>
    split
    · exact ⟨sound, nofun⟩
    split
    · exact ⟨sound, nofun⟩
    · exact ⟨sound, nofun⟩
    · exact ⟨sound, nofun⟩
    · have counted : Handler.Sound key { handler with sequence := handler.sequence + 1 } := sound
      obtain ⟨kept, sent⟩ := @Handler.Sound.persistAndSend encoding _ _ _
        { event with sequence := handler.sequence + 1 } counted (answered _ (.head _)) carried
      dsimp only
      split
      next err handler' persisted =>
        rw [persisted] at kept
        exact ⟨kept, nofun⟩
      next handler' persisted =>
        rw [persisted] at kept sent
        refine ih later kept fun isTerminal => ?_
        rw [Handler.isComplete, sent rfl, List.getLast?_concat, Option.any_some]
        exact isTerminal

/-- What was sent passes another runtimed unchanged if it ends with an error or is complete. -/
theorem Handler.Sound.forwarded_eq (sound : handler.Sound key) {status : Option Failure}
    (complete : status = none → handler.isComplete = true) :
    (Stream.mk handler.sent status).forwarded = ⟨handler.sent, status⟩ := by
  obtain ⟨record, _, ordered, events, payloads⟩ := sound
  refine forwardSessionOperationEvents_eq_iff.mpr ⟨?_, payloads, nofun, ?_, fun ok =>
    .inr (complete ok)⟩
  · intro i event found
    rw [Nat.zero_add, ordered.numbered i event (events ▸ found)]
  · intro event mem
    exact ordered.terminalLast event (events ▸ mem)

/-- The stream of a new operation is forwarded unchanged, if every write of its journal is
answered and the queue does not turn an error into a success. -/
theorem forwarded_streamNewOperation {operationID digest : String} {refused : Option Failure}
    {queued : Option Failure → Option Failure} {runtime : List (StreamEvent × Option ApiFault)}
    {status : Option Failure} {accepted failed : Option ApiFault}
    (fresh : store.journals.lookup key = some { operationID, digest })
    (fails : ∀ err, queued (some err) ≠ none)
    (answered : ∀ entry ∈ runtime, Answered entry.2) (admitted : Answered accepted)
    (reported : Answered failed) :
    (streamNewOperation encoding protoSize key operationID refused queued runtime status accepted
        failed store).forwarded =
      streamNewOperation encoding protoSize key operationID refused queued runtime status accepted
        failed store := by
  have sound : Handler.Sound key ⟨1, [], store⟩ :=
    ⟨_, fresh, Record.ordered_new _ _, rfl, nofun⟩
  obtain ⟨first, _⟩ := @Handler.Sound.persistAndSend encoding _ _ _
    (sessionOperationAccepted 1 operationID) sound admitted nofun
  unfold streamNewOperation
  cases refused with
  | some => rfl
  | none =>
    dsimp only
    split
    · rfl
    next handler persisted =>
    rw [persisted] at first
    obtain ⟨relayed, complete⟩ := @Handler.Sound.forward encoding protoSize key handler runtime
      answered false status first nofun
    generalize handler.forward encoding protoSize key false runtime status = result
      at relayed complete
    obtain ⟨callbackErr, handler⟩ := result
    dsimp only at relayed complete ⊢
    cases outcome : queued callbackErr with
    | none =>
      refine relayed.forwarded_eq fun _ => complete ?_
      cases callbackErr with
      | none => rfl
      | some err => exact absurd outcome (fails err)
    | some err =>
      obtain ⟨last, sent⟩ := @Handler.Sound.persistAndSend encoding _ _ _
        (sessionOperationFailure (handler.sequence + 1) err) relayed reported nofun
      refine last.forwarded_eq fun stored => ?_
      rw [Handler.isComplete, sent stored, List.getLast?_concat]
      rfl

end Sound

end Kruntimes.Session
