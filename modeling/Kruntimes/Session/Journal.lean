import Kruntimes.Data.Update
import Kruntimes.Session.Queue

/-!
# The journal of a session operation

The owner runtimed keeps the events of an operation in a ConfigMap of the Run, so that a
client can resume after a disconnect and after a restart of runtimed.  The store appends
one event at a time and hands it to the subscribers of the operation; a subscriber gets
the events retained so far and a bounded channel for the later ones.

A ConfigMap is found by the key of its operation: the name it really has is a digest of
that key.  Every method of the store runs under its mutex.  A write that reports an error
may have been stored or not: the store gives each one five seconds and takes every error
for a write that was not made.  Timestamps in the records are left out.
-/

namespace Kruntimes.Session

open Data Transition

/-! ## Events -/

/-- `pb.SessionOperationOutputStream`. -/
inductive OutputStream
  | unspecified
  | stdout
  | stderr
  deriving DecidableEq

/-- `pb.SessionOperationProgressKind`. -/
inductive ProgressKind
  | unspecified
  | status
  | textDelta
  | toolCallStarted
  | toolCallFinished
  deriving DecidableEq

/-- `pb.SessionOperationProgress`. -/
structure Progress where
  kind : ProgressKind
  message : String := ""
  toolCallID : String := ""
  toolName : String := ""
  data : List UInt8 := []
  contentType : String := ""
  deriving DecidableEq

/-- The payload of an event. -/
inductive Payload
  | accepted (operationID : String)
  | output (stream : OutputStream) (data : List UInt8)
  | progress (progress : Progress)
  | completed (result : OperationResult)
  | failed (code : Nat) (message : String)
  deriving DecidableEq

/-- `pb.SessionOperationEvent`. -/
structure StreamEvent where
  sequence : Nat := 0
  payload : Option Payload
  deriving DecidableEq

/-- `event.GetCompleted() != nil || event.GetFailed() != nil`. -/
def StreamEvent.isTerminal (event : StreamEvent) : Bool :=
  match event.payload with
  | some (.completed _) => true
  | some (.failed _ _) => true
  | _ => false

/-! ## Records -/

def maxStoredSessionOperationEvents : Nat := 128

def maxStoredSessionOperationBytes : Nat := 8 * 1024

def maxSessionOperationJournalBytes : Nat := 768 * 1024

def sessionOperationSubscriberSize : Nat := 16

/-- `storedSessionOperation`. -/
structure Record where
  operationID : String
  digest : String
  terminal : Bool := false
  events : List StreamEvent := []
  deriving DecidableEq

/-- The sizes of encoded events and journals. -/
structure Encoding where
  eventSize : StreamEvent → Nat
  journalSize : Record → Nat

def sessionOperationMemoryKey (uid operationID : String) : String :=
  uid ++ "/" ++ operationID

/-- `decodeSessionOperationJournal`, of a journal that is a JSON record. -/
def Record.decode (record : Record) : Except Failure Record :=
  if record.operationID = "" ∨ record.digest = "" ∨
      maxStoredSessionOperationEvents < record.events.length then
    .error (.status .internal "session operation journal is invalid")
  else .ok record

/-- `appendStoredSessionOperationEvent`. -/
def Record.append (event : StreamEvent) (record : Record) : Except Failure Record :=
  if record.terminal then
    .error (.status .failedPrecondition "session operation is already terminal")
  else if maxStoredSessionOperationEvents ≤ record.events.length then
    .error (.status .resourceExhausted "session operation retained event limit reached")
  else if event.sequence ≠ record.events.length + 1 then
    .error (.status .internal ("session operation event sequence " ++ toString event.sequence ++
      " is not contiguous after " ++ toString record.events.length))
  else
    .ok { record with events := record.events ++ [event], terminal := event.isTerminal }

/-- `storedSessionOperationEventsAfter`. -/
def Record.eventsAfter (afterSequence : Int) (record : Record) : List StreamEvent :=
  record.events.filter fun event => afterSequence < event.sequence

/-! ## The store -/

/-- Why a channel is closed. -/
inductive Closing
  | terminal
  | slow
  | cancelled
  deriving DecidableEq

/-- One call of `Subscribe`: what it returned, what is in its channel and what its caller
has taken from there.  The channel leaves the table of the store when it is closed. -/
structure Subscriber where
  key : String
  afterSequence : Int
  retained : List StreamEvent
  buffer : List StreamEvent := []
  received : List StreamEvent := []
  closed : Option Closing := none
  deriving DecidableEq

/-- A call of the API that fails, with its error. -/
inductive ApiFault
  | read (err : String)
  | write (err : String)
  /-- The write is stored, and its answer does not arrive. -/
  | lost (err : String)
  deriving DecidableEq

/-- The error of a failed `Get`. -/
def ApiFault.readErr : Option ApiFault → Option String
  | some (.read err) => some err
  | _ => none

/-- The error of a failed `Create` or `Update`. -/
def ApiFault.writeErr : Option ApiFault → Option String
  | some (.write err) => some err
  | some (.lost err) => some err
  | _ => none

/-- The journals in the API server, and what one runtimed keeps about them. -/
structure Store where
  journals : Table String Record := ∅
  active : List String := []
  subscribers : List Subscriber := []
  deriving DecidableEq

namespace Store

/-- The store once a write of a journal has reported an error. -/
def unanswered (key : String) (record : Record) : Option ApiFault → Store → Store
  | some (.lost _), store => { store with journals := store.journals.insert key record }
  | _, store => store

/-- The answer of `Begin` for a record that was found. -/
def existing (digest : String) (found : Record) : Except Failure Record := do
  let record ← found.decode
  if record.digest ≠ digest then
    .error (.status .alreadyExists "idempotency key was used for a different session operation")
  else .ok record

/-- `Begin`, up to its first call of the API: `none` means that there is no journal yet. -/
def beginRead (key operationID digest : String) (fault : Option ApiFault) (store : Store) :
    Except Failure (Option Record) :=
  if operationID = "" ∨ digest = "" then
    .error (.status .invalidArgument "session operation journal identity is required")
  else
    match ApiFault.readErr fault with
    | some err => .error (.status .unavailable ("read session operation journal: " ++ err))
    | none =>
      match store.journals.lookup key with
      | some found => (existing digest found).map some
      | none => .ok none

/-- The rest of `Begin`: create the journal, or take the one that came in between.  The
Boolean says whether this call created it. -/
def beginCreate (encoding : Encoding) (key operationID digest : String)
    (fault : Option ApiFault) (store : Store) : Except Failure (Record × Bool) × Store :=
  let record : Record := { operationID, digest }
  if maxSessionOperationJournalBytes < encoding.journalSize record then
    (.error (.status .resourceExhausted "session operation retained journal limit reached"), store)
  else
    match ApiFault.writeErr fault, store.journals.lookup key with
    | some err, none =>
      (.error (.status .unavailable ("create session operation journal: " ++ err)),
        store.unanswered key record fault)
    | some err, some _ =>
      (.error (.status .unavailable ("create session operation journal: " ++ err)), store)
    | none, none =>
      (.ok (record, true), { store with
          journals := store.journals.insert key record
          active := key :: store.active })
    | none, some found =>
      -- `beginExistingLocked`
      match ApiFault.readErr fault with
      | some err =>
        (.error (.status .unavailable ("read existing session operation journal: " ++ err)), store)
      | none => ((existing digest found).map (·, false), store)

/-- What `broadcastLocked` does to one channel of the operation. -/
def offer (event : StreamEvent) (subscriber : Subscriber) : Subscriber :=
  if subscriber.buffer.length < sessionOperationSubscriberSize then
    { subscriber with
      buffer := subscriber.buffer ++ [event]
      closed := if event.isTerminal then some .terminal else subscriber.closed }
  else { subscriber with closed := some .slow }

/-- `broadcastLocked`. -/
def broadcast (key : String) (event : StreamEvent) (subscribers : List Subscriber) :
    List Subscriber :=
  subscribers.map fun subscriber =>
    if subscriber.key = key ∧ subscriber.closed = none then offer event subscriber
    else subscriber

/-- The store once an event is persisted. -/
def appended (key : String) (event : StreamEvent) (record : Record) (store : Store) : Store where
  journals := store.journals.insert key record
  subscribers := broadcast key event store.subscribers
  active := if record.terminal then store.active.filter (· ≠ key) else store.active

def append (encoding : Encoding) (key : String) (event : StreamEvent) (fault : Option ApiFault)
    (store : Store) : Except Failure Unit × Store :=
  if event.sequence = 0 then
    (.error (.status .invalidArgument "session operation event sequence is required"), store)
  else if maxStoredSessionOperationBytes < encoding.eventSize event then
    (.error (.status .resourceExhausted "session operation event exceeds retained event limit"),
      store)
  else
    match ApiFault.readErr fault, store.journals.lookup key with
    | some err, _ =>
      (.error (.status .unavailable ("read session operation journal: " ++ err)), store)
    | none, none => (.error (.status .notFound "session operation journal not found"), store)
    | none, some found =>
      match found.decode.bind (Record.append event) with
      | .error err => (.error err, store)
      | .ok record =>
        if maxSessionOperationJournalBytes < encoding.journalSize record then
          (.error (.status .resourceExhausted
            "session operation retained journal limit reached"), store)
        else
          match ApiFault.writeErr fault with
          | some err =>
            (.error (.status .unavailable ("persist session operation event: " ++ err)),
              store.unanswered key record fault)
          | none => (.ok (), store.appended key event record)

/-- `Record`, and `readLocked`. -/
def record (key : String) (fault : Option ApiFault) (store : Store) : Except Failure Record :=
  match ApiFault.readErr fault, store.journals.lookup key with
  | some err, _ => .error (.status .unavailable ("read session operation journal: " ++ err))
  | none, none => .error (.status .notFound "session operation not found")
  | none, some found => found.decode

/-- `Subscribe`.  The number is the place of the new subscriber. -/
def subscribe (key : String) (afterSequence : Int) (fault : Option ApiFault) (store : Store) :
    Except Failure Nat × Store :=
  if afterSequence < 0 then
    (.error (.status .invalidArgument "session operation cursor cannot be negative"), store)
  else
    match store.record key fault with
    | .error err => (.error err, store)
    | .ok record =>
      (.ok store.subscribers.length, { store with
          subscribers := store.subscribers ++ [{
            key, afterSequence
            retained := record.eventsAfter afterSequence
            closed := if record.terminal then some .terminal else none }] })

/-- A subscriber after its reader has taken the next event. -/
def take (subscriber : Subscriber) : Subscriber :=
  { subscriber with
    buffer := subscriber.buffer.tail
    received := subscriber.received ++ subscriber.buffer.take 1 }

/-- The reader of a channel takes the next event. -/
def receive (index : Nat) (store : Store) : Store :=
  { store with subscribers := store.subscribers.modify index take }

/-- The function `cancel` that `Subscribe` returns. -/
def cancel (index : Nat) (store : Store) : Store :=
  { store with
    subscribers := store.subscribers.modify index fun subscriber =>
      { subscriber with closed := subscriber.closed.or (some .cancelled) } }

/-- A new runtimed over the same journals. -/
def restart (store : Store) : Store where
  journals := store.journals

end Store

/-! ## The system -/

/-- What can happen next to the store of a runtimed. -/
inductive StoreAction
  | begin (uid operationID digest : String) (fault : Option ApiFault)
  | append (uid operationID : String) (event : StreamEvent) (fault : Option ApiFault)
  | subscribe (uid operationID : String) (afterSequence : Int) (fault : Option ApiFault)
  | receive (index : Nat)
  | cancel (index : Nat)
  | restart
  deriving DecidableEq

/-- One action. -/
def Store.step (encoding : Encoding) : Step StoreAction Store
  | .begin uid operationID digest fault, store =>
    let key := sessionOperationMemoryKey uid operationID
    match store.beginRead key operationID digest fault with
    | .ok none => some (store.beginCreate encoding key operationID digest fault).2
    | _ => some store
  | .append uid operationID event fault, store =>
    some (store.append encoding (sessionOperationMemoryKey uid operationID) event fault).2
  | .subscribe uid operationID afterSequence fault, store =>
    some (store.subscribe (sessionOperationMemoryKey uid operationID) afterSequence fault).2
  | .receive index, store => some (store.receive index)
  | .cancel index, store => some (store.cancel index)
  | .restart, store => some store.restart

end Kruntimes.Session
