import Kruntimes.Api.Core
import Kruntimes.Data.Update
import Kruntimes.Transition.Run

/-!
# Invocations of a Function Run

All requests for one Function Run share one outputs file.  The proxy removes it before it
calls the Runtime Server, which accepts one invocation at a time, and reads it when the
server has answered.
-/

namespace Kruntimes.Invocation

open Api Data Transition

/-! ## The outputs file -/

/-- A line of the outputs file: blank lines and comments are ignored, and a line without
`=` or of invalid text is malformed. -/
inductive Line where
  | assignment (key value : String)
  | ignored
  | malformed

def totalBytes (outputs : Labels) : Nat :=
  (outputs.entries.map fun entry => entry.1.utf8ByteSize + entry.2.utf8ByteSize).sum

/-- The limits are `MaxOutputKeyBytes`, `MaxOutputValueBytes`, `MaxOutputKeys` and
`MaxOutputsBytes`. -/
def readLine (outputs : Labels) : Line → Option Labels
  | .assignment key value =>
    let next := outputs.insert key value
    if key ≠ "" ∧ key.utf8ByteSize ≤ 128 ∧ value.utf8ByteSize ≤ 8192 ∧
        next.entries.length ≤ 64 ∧ totalBytes next ≤ 65536 then
      some next
    else
      none
  | .ignored => some outputs
  | .malformed => none

/-- An absent file has no lines.  The Bash Runtime Server returns no outputs of its own, so
`mergeInvocationOutputs` leaves what was read as it is. -/
def readOutputs (lines : List Line) : Option Labels :=
  lines.foldlM readLine ∅

/-- The value of the last assignment to a key. -/
def lastValue (key : String) : List Line → Option String
  | [] => none
  | .assignment name value :: rest =>
    (lastValue key rest).or (if key = name then some value else none)
  | _ :: rest => lastValue key rest

theorem lookup_of_foldlM_readLine {lines : List Line} {outputs start : Labels}
    (read : lines.foldlM readLine start = some outputs) (key : String) :
    outputs.lookup key = (lastValue key lines).or (start.lookup key) := by
  induction lines generalizing start with
  | nil =>
    cases read
    rfl
  | cons line rest ih =>
    rw [List.foldlM_cons] at read
    obtain ⟨_, first, read⟩ := Option.bind_eq_some_iff.mp read
    rw [ih read]
    cases line with
    | assignment name =>
      obtain ⟨_, rfl⟩ := Option.ite_none_right_eq_some.mp first |>.imp id Option.some.inj
      rw [lastValue, Option.or_assoc]
      by_cases same : key = name
      · subst same
        simp
      · simp [same, AList.lookup_insert_ne same]
    | ignored =>
      cases first
      rfl
    | malformed => cases first

/-! ## Requests -/

/-- How far a request has come.  The lines are the contents of a file that only its own
handler writes. -/
inductive Stage where
  | arrived
  /-- `resetFunctionInvocationOutputs` has removed the file. -/
  | reset
  /-- `startInvocation` has accepted it, and the handler runs. -/
  | running (written : List Line)
  /-- The Runtime Server has answered, and the file has not been read. -/
  | answered (written : List Line)
  /-- The file has been read; without outputs the request has failed. -/
  | over (written : List Line) (outputs : Option Labels)
  /-- The Runtime Server has returned an error. -/
  | failed

/-- The lines of an invocation whose outputs have still to be read. -/
@[grind]
def Stage.written : Stage → Option (List Line)
  | running written | answered written => some written
  | _ => none

@[grind]
def Stage.isRunning : Stage → Bool
  | running _ => true
  | _ => false

@[grind]
def Stage.isAnswered : Stage → Bool
  | answered _ => true
  | _ => false

/-- The outputs file, which may be absent, and the requests. -/
structure Proxy where
  file : Option (List Line)
  requests : List Stage

/-- A write appends to the file, truncates it or completes its last line.  A Runtime Server
that is not `ready` for a request rejects it whatever is in flight. -/
inductive Action where
  | arrive
  | reset (index : Nat)
  | admission (index : Nat) (ready : Bool)
  | write (index : Nat) (edit : List Line → List Line)
  | finish (index : Nat) (succeeds : Bool)
  | read (index : Nat)

def initial : Proxy :=
  { file := none, requests := [] }

def Proxy.lines (proxy : Proxy) : List Line :=
  proxy.file.getD []

def Proxy.inFlight (proxy : Proxy) : Bool :=
  proxy.requests.any Stage.isRunning

def Proxy.put (proxy : Proxy) (index : Nat) (stage : Stage) : Proxy :=
  { proxy with requests := proxy.requests.set index stage }

def step : Step Action Proxy
  | .arrive, proxy => some { proxy with requests := proxy.requests ++ [.arrived] }
  | .reset index, proxy =>
    match proxy.requests[index]? with
    | some .arrived => some { proxy.put index .reset with file := none }
    | _ => none
  | .admission index ready, proxy =>
    match proxy.requests[index]? with
    | some .reset =>
      some (proxy.put index (if ready && !proxy.inFlight then .running [] else .failed))
    | _ => none
  | .write index edit, proxy =>
    match proxy.requests[index]? with
    | some (.running written) =>
      some { proxy.put index (.running (edit written)) with file := some (edit proxy.lines) }
    | _ => none
  | .finish index succeeds, proxy =>
    match proxy.requests[index]? with
    | some (.running written) =>
      some (proxy.put index (if succeeds then .answered written else .failed))
    | _ => none
  | .read index, proxy =>
    match proxy.requests[index]? with
    | some (.answered written) => some (proxy.put index (.over written (readOutputs proxy.lines)))
    | _ => none

/-- What a request returns is what its own handler has written, the last assignment to each
key, whatever the other requests do. -/
def OwnOutputs (proxy : Proxy) : Prop :=
  ∀ written result, .over written result ∈ proxy.requests → result = readOutputs written ∧
      ∀ outputs, result = some outputs → ∀ key, outputs.lookup key = lastValue key written

/-- The file is removed only while no invocation waits to be read or it is empty, an
invocation is accepted only with an empty file, and no handler writes before an invocation
that the server has answered is read. -/
def Separate (action : Action) (proxy : Proxy) : Prop :=
  match action with
  | .reset _ => proxy.lines.isEmpty ∨ ∀ stage ∈ proxy.requests, stage.written.isNone
  | .admission _ ready => ready && !proxy.inFlight → proxy.lines.isEmpty
  | .write _ _ => ∀ stage ∈ proxy.requests, !stage.isAnswered
  | _ => True

instance (action : Action) (proxy : Proxy) : Decidable (Separate action proxy) := by
  unfold Separate
  split <;> infer_instance

/-- At most one handler runs, and the file holds the lines of every invocation that has
still to be read. -/
structure Sound (proxy : Proxy) : Prop where
  alone : ∀ (index other : Nat) (first second : Stage), proxy.requests[index]? = some first →
    proxy.requests[other]? = some second → first.isRunning → second.isRunning → index = other
  held : ∀ (index : Nat) (stage : Stage), proxy.requests[index]? = some stage →
    ∀ written, stage.written = some written → proxy.lines = written
  own : ∀ (index : Nat) (written : List Line) (result : Option Labels),
    proxy.requests[index]? = some (.over written result) → result = readOutputs written

/-- A request may go on when it starts no second handler and every other invocation that
has still to be read keeps its lines. -/
theorem Sound.put {proxy : Proxy} {i : Nat} {stage next : Stage} {file : Option (List Line)}
    (sound : Sound proxy) (found : proxy.requests[i]? = some stage)
    (alone : next.isRunning → stage.isRunning ∨ proxy.inFlight = false)
    (kept : file.getD [] = proxy.lines ∨ ∀ j other, j ≠ i →
      proxy.requests[j]? = some other → other.written = none)
    (held : ∀ written, next.written = some written → file.getD [] = written)
    (own : ∀ written result, next = .over written result → result = readOutputs written) :
    Sound { proxy.put i next with file := file } := by
  constructor
  case alone =>
    have before := sound.alone
    simp only [Proxy.put, Proxy.inFlight, List.any_eq_false, getElem?_set_eq_some_iff found] at *
    grind
  case held =>
    have before := sound.held
    simp only [Proxy.put, Proxy.lines, getElem?_set_eq_some_iff found] at *
    grind
  case own =>
    have before := sound.own
    simp only [Proxy.put, getElem?_set_eq_some_iff found] at *
    grind

theorem Sound.step {action : Action} {proxy next : Proxy} (sound : Sound proxy)
    (separate : Separate action proxy) (stepped : step action proxy = some next) :
    Sound next := by
  cases action with
  | arrive =>
    cases stepped
    obtain ⟨_, _⟩ := sound
    constructor <;> simp only [Proxy.lines, getElem?_concat_eq_some_iff] at * <;> grind
  | reset =>
    simp only [Invocation.step] at stepped
    split at stepped
    next found =>
      cases stepped
      apply sound.put found
      case kept =>
        rcases separate with empty | unread
        · left
          exact (List.isEmpty_iff.mp empty).symm
        right
        intro j other _ there
        exact Option.isNone_iff_eq_none.mp (unread other (List.mem_of_getElem? there))
      all_goals grind
    · cases stepped
  | admission =>
    simp only [Invocation.step] at stepped
    split at stepped
    next found =>
      cases stepped
      apply sound.put found <;> grind [Separate, Proxy.lines]
    · cases stepped
  | write i =>
    simp only [Invocation.step] at stepped
    split at stepped
    next found =>
      cases stepped
      have same := sound.held _ _ found _ rfl
      apply sound.put found
      case kept =>
        -- no other handler runs, and no answered invocation waits to be read
        right
        intro j other elsewhere there
        have unanswered := separate other (List.mem_of_getElem? there)
        have alone := sound.alone j i other _ there found
        cases other <;> grind
      all_goals grind
    · cases stepped
  | finish | read =>
    simp only [Invocation.step] at stepped
    split at stepped
    next found =>
      cases stepped
      have same := sound.held _ _ found _ rfl
      apply sound.put found <;> grind [Proxy.lines]
    · cases stepped

/-- Function invocations see only their own file outputs: in every interleaving of requests
whose resets, admissions and writes stay separate, rejected requests included. -/
theorem ownOutputs_of_guarded_run {actions : List Action} {proxy : Proxy}
    (ran : run (restrict Separate step) actions initial = some proxy) :
    OwnOutputs proxy := by
  have sound : Sound proxy := by
    apply invariant_of_guarded_run _ _ Sound _ _ ran
    · intro action before after separate holds stepped
      exact holds.step separate stepped
    · constructor <;> intros <;> contradiction
  intro written result member
  obtain ⟨index, found⟩ := List.mem_iff_getElem?.mp member
  have own := sound.own index written result found
  constructor
  · exact own
  · rintro _ rfl key
    have last := lookup_of_foldlM_readLine own.symm key
    rwa [AList.lookup_empty, Option.or_none] at last

/-- The first request is accepted and writes an output; the second is rejected, either
before that write or after it. -/
def rejectedSecond (first last : List Action) : List Action :=
  [.arrive, .arrive, .reset 0, .admission 0 true] ++ first ++
    [.write 0 (· ++ [.assignment "name" "demo"])] ++ last ++ [.finish 0 true, .read 0]

def returnsDemo (proxy : Proxy) : Bool :=
  match proxy.requests.head? with
  | some (.over _ (some outputs)) => outputs.lookup "name" == some "demo"
  | _ => false

theorem ownOutputs_rejectedSecond :
    ∃ proxy, run step (rejectedSecond [.reset 1, .admission 1 true] []) initial = some proxy ∧
      returnsDemo proxy ∧ OwnOutputs proxy := by
  have evaluated : ((run (restrict Separate step)
      (rejectedSecond [.reset 1, .admission 1 true] []) initial).any returnsDemo) = true := by
    decide +kernel
  obtain ⟨proxy, ran, returned⟩ := (Option.any_eq_true _ _).mp evaluated
  exact ⟨proxy, run_of_run_restrict _ _ ran, returned, ownOutputs_of_guarded_run ran⟩

/-- A request that is rejected removes what the running invocation has written. -/
theorem exists_not_ownOutputs :
    ∃ proxy, run step (rejectedSecond [] [.reset 1, .admission 1 true]) initial = some proxy ∧
      proxy.requests[1]? = some .failed ∧ ¬OwnOutputs proxy := by
  refine ⟨_, rfl, rfl, fun own => ?_⟩
  have same := (own [.assignment "name" "demo"] (some ∅) (.head _)).2 ∅ rfl "name"
  rw [AList.lookup_empty] at same
  cases same

end Kruntimes.Invocation
