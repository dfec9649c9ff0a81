import Mathlib.Algebra.Order.Ring.Int
import Mathlib.Data.List.Basic

/-!
# Responses of the Run extension API

The gateway sends file contents and function outputs as JSON within a limit of its own, and
the log handler sends one JSON object that the Go SDK reads line by line.
-/

namespace Kruntimes.Extension

/-! ## JSON -/

/-- A JSON value; `bytes` is a byte slice that is not nil. -/
inductive Json
  | null
  | bool (value : Bool)
  | number (value : Int)
  | string (value : String)
  | bytes (contents : List UInt8)
  | array (items : List Json)
  | object (fields : List (String × Json))

/-- The number of bytes that `encoding/json` writes for a character of a string. -/
def escapedSize (c : Char) : Nat :=
  if c ∈ ['\x22', '\\', '\x08', '\x0c', '\n', '\r', '\t'] then 2
  else if c < ' ' ∨ c ∈ ['<', '>', '&', '\u2028', '\u2029'] then 6
  else c.utf8Size

def quotedSize (text : String) : Nat :=
  (text.toList.map escapedSize).sum + 2

mutual

/-- The number of bytes that `encoding/json` writes; byte slices are written in base64. -/
def Json.size : Json → Nat
  | .null => 4
  | .bool value => if value then 4 else 5
  | .number value => (toString value).length
  | .string value => quotedSize value
  | .bytes contents => 4 * ((contents.length + 2) / 3) + 2
  | .array items => if items.isEmpty then 2 else itemSizes items + 1
  | .object fields => if fields.isEmpty then 2 else fieldSizes fields + 1

/-- Every item is followed by a comma or the closing bracket. -/
def itemSizes : List Json → Nat
  | [] => 0
  | item :: rest => item.size + 1 + itemSizes rest

def fieldSizes : List (String × Json) → Nat
  | [] => 0
  | (key, value) :: rest => quotedSize key + value.size + 2 + fieldSizes rest

end

/-- A field with `omitempty`. -/
def omitEmpty (key : String) (empty : Bool) (value : Json) : List (String × Json) :=
  if empty then [] else [(key, value)]

/-! ## The gateway -/

/-- `writeJSON` with the default limit, which counts the newline: the status code and the body. -/
def writeJSON (status : Nat) (value : Json) : Nat × Json :=
  if 2 ^ 20 < value.size + 1 then
    (413, .object [("error", .string "data-plane response exceeds configured limit")])
  else (status, value)

def writeError (status : Nat) (message : String) : Nat × Json :=
  writeJSON status (.object [("error", .string message)])

/-- `ReadSessionFile` of the Runtime Server on a file, with its default limit. -/
def readFile (file : List UInt8) (maxBytes : Int) : Except String (List UInt8 × Bool) :=
  if maxBytes ≤ 0 then .error "max bytes must be positive"
  else
    let most := (min maxBytes (2 ^ 20)).toNat
    let contents := file.take (most + 1)
    .ok (contents.take most, decide (most < contents.length))

/-- A message without bytes has a nil slice. -/
def readResponse (contents : List UInt8) (truncated : Bool) : Json :=
  .object [("contents", if contents.isEmpty then .null else .bytes contents),
    ("truncated", .bool truncated)]

/-- The handler of a file read, with the parameter `maxBytes` of the query. -/
def readSessionFile (file : List UInt8) (maxBytes : Option Int) : Nat × Json :=
  if maxBytes.any (· ≤ 0) then writeError 400 "maxBytes must be a positive integer"
  else
    match readFile file (maxBytes.getD (2 ^ 20)) with
    | .error message => writeError 400 message
    | .ok (contents, truncated) => writeJSON 200 (readResponse contents truncated)

structure InvokeFunctionResponse where
  invocationID : String
  output : List UInt8
  contentType : String
  outputs : List (String × String)

def functionInvokeResponse (response : InvokeFunctionResponse) : Json :=
  .object ([("invocationId", .string response.invocationID)] ++
    omitEmpty "output" response.output.isEmpty (.bytes response.output) ++
    omitEmpty "contentType" response.contentType.isEmpty (.string response.contentType) ++
    omitEmpty "outputs" response.outputs.isEmpty
      (.object (response.outputs.map fun (key, value) => (key, .string value))))

theorem fieldSizes_append (first second : List (String × Json)) :
    fieldSizes (first ++ second) = fieldSizes first + fieldSizes second := by
  induction first with
  | nil => simp [fieldSizes]
  | cons field rest ih => simp [fieldSizes, ih, Nat.add_assoc]

theorem size_readResponse_le_iff (contents : List UInt8) (truncated : Bool) :
    (readResponse contents truncated).size + 1 ≤ 2 ^ 20 ↔ contents.length ≤ 786405 := by
  have keys : quotedSize "contents" = 10 ∧ quotedSize "truncated" = 11 := by decide
  simp only [readResponse, Json.size, fieldSizes, keys, List.isEmpty_cons, Bool.false_eq_true,
    if_false]
  cases contents with
  | nil => cases truncated <;> decide
  | cons byte rest =>
    simp only [List.isEmpty_cons, Bool.false_eq_true, if_false, Json.size]
    cases truncated <;> simp <;> omega

theorem writeJSON_eq_iff {status : Nat} (value : Json) (other : status ≠ 413) :
    writeJSON status value = (status, value) ↔ value.size + 1 ≤ 2 ^ 20 := by
  unfold writeJSON
  split
  · next large =>
    exact iff_of_false (fun same => other (congrArg Prod.fst same).symm) (not_le.mpr large)
  · next fits => exact iff_of_true rfl (not_lt.mp fits)

/-- The part of a file that a request can get, and whether there is more. -/
def readAnswer (file : List UInt8) (maxBytes : Int) : Json :=
  let most := (min maxBytes (2 ^ 20)).toNat
  readResponse (file.take most) (most < file.length)

theorem readSessionFile_eq {file : List UInt8} {maxBytes : Option Int}
    (positive : 0 < maxBytes.getD (2 ^ 20)) :
    readSessionFile file maxBytes = writeJSON 200 (readAnswer file (maxBytes.getD (2 ^ 20))) := by
  have accepted : ¬ maxBytes.any (· ≤ 0) = true := by
    cases maxBytes with
    | none => simp
    | some => simpa using positive
  simp only [readSessionFile, if_neg accepted, readFile, if_neg (not_le.mpr positive)]
  simp [readAnswer, List.take_take]

theorem fieldSizes_outputs (outputs : List (String × String)) :
    fieldSizes (outputs.map fun (key, value) => (key, .string value)) =
      (outputs.map fun (key, value) => quotedSize key + quotedSize value + 2).sum := by
  induction outputs with
  | nil => rfl
  | cons entry rest ih => simp [fieldSizes, Json.size, ih]

theorem fieldSizes_omitEmpty (key : String) (empty : Bool) (value : Json) :
    fieldSizes (omitEmpty key empty value) =
      if empty then 0 else quotedSize key + value.size + 2 := by
  cases empty <;> simp [omitEmpty, fieldSizes]

/-- The size of the response to an invocation, field by field. -/
theorem size_functionInvokeResponse (response : InvokeFunctionResponse) :
    (functionInvokeResponse response).size = quotedSize response.invocationID + 17 +
      (if response.output = [] then 0 else 4 * ((response.output.length + 2) / 3) + 12) +
      (if response.contentType = "" then 0 else quotedSize response.contentType + 15) +
      (if response.outputs = [] then 0 else (response.outputs.map fun (key, value) =>
        quotedSize key + quotedSize value + 2).sum + 12) := by
  have keys : quotedSize "invocationId" = 14 ∧ quotedSize "output" = 8 ∧
      quotedSize "contentType" = 13 ∧ quotedSize "outputs" = 9 := by decide
  have outputs : (Json.object (response.outputs.map fun (key, value) =>
      (key, .string value))).size = if response.outputs = [] then 2 else
        (response.outputs.map fun (key, value) =>
          quotedSize key + quotedSize value + 2).sum + 1 := by
    rw [Json.size, fieldSizes_outputs]
    simp
  rw [functionInvokeResponse, Json.size, fieldSizes_append, fieldSizes_append, fieldSizes_append,
    fieldSizes_omitEmpty, fieldSizes_omitEmpty, fieldSizes_omitEmpty, outputs]
  simp only [List.isEmpty_iff, String.isEmpty_iff, fieldSizes, Json.size, keys]
  rw [if_neg (by simp)]
  by_cases none : response.outputs = []
  · simp only [if_pos none]
    split <;> split <;> omega
  · simp only [if_neg none]
    split <;> split <;> omega

/-- A file is delivered exactly up to 786405 bytes, and a function output as long as its base64
digits fit beside the other fields of the response. -/
theorem delivered_iff (file : List UInt8) (maxBytes : Option Int)
    (response : InvokeFunctionResponse) :
    (readSessionFile file maxBytes = (200, readAnswer file (maxBytes.getD (2 ^ 20))) ↔
      0 < maxBytes.getD (2 ^ 20) ∧ min (maxBytes.getD (2 ^ 20)) file.length ≤ 786405) ∧
    (writeJSON 200 (functionInvokeResponse response) = (200, functionInvokeResponse response) ↔
      quotedSize response.invocationID + 17 +
        (if response.output = [] then 0 else 4 * ((response.output.length + 2) / 3) + 12) +
        (if response.contentType = "" then 0 else quotedSize response.contentType + 15) +
        (if response.outputs = [] then 0 else (response.outputs.map fun (key, value) =>
          quotedSize key + quotedSize value + 2).sum + 12) < 2 ^ 20) := by
  constructor
  · by_cases positive : 0 < maxBytes.getD (2 ^ 20)
    · rw [readSessionFile_eq positive, writeJSON_eq_iff _ (by decide), readAnswer,
        size_readResponse_le_iff, List.length_take]
      omega
    · have refused : readSessionFile file maxBytes =
          writeError 400 "maxBytes must be a positive integer" := by
        refine if_pos ?_
        cases maxBytes with
        | none => exact absurd (by decide) positive
        | some => simpa using positive
      rw [refused]
      refine iff_of_false ?_ fun both => positive both.1
      unfold writeError writeJSON
      split <;> simp
  · rw [writeJSON_eq_iff _ (by decide), size_functionInvokeResponse, Nat.succ_le_iff]

/-- The whole of a file of one MiB is refused. -/
theorem readSessionFile_mebibyte :
    ∃ file : List UInt8, file.length = 2 ^ 20 ∧ readSessionFile file (some (2 ^ 20)) =
      (413, .object [("error", .string "data-plane response exceeds configured limit")]) := by
  obtain ⟨file, length⟩ : ∃ file : List UInt8, file.length = 2 ^ 20 :=
    ⟨List.replicate _ 0, List.length_replicate⟩
  refine ⟨file, length, ?_⟩
  rw [readSessionFile_eq (by decide)]
  refine if_pos (not_le.mp fun fits => ?_)
  rw [Option.getD_some, readAnswer, size_readResponse_le_iff, List.length_take, length] at fits
  exact absurd fits (by decide)

/-! ## The logs -/

/-- What the log handler and the SDK both have of a log record. -/
structure LogRecord where
  stream : String := ""
  message : String := ""
  operation : String := ""
  outcome : String := ""
  statusCode : String := ""
  exitCode : Option Int := none
  timedOut : Bool := false
  durationMilliseconds : Int := 0

/-- An entry of the log handler. -/
structure Entry extends LogRecord where
  timestamp : String
  invocationID : String
  cursor : String

/-- `LogLine` of the SDK. -/
structure LogLine extends LogRecord where
  runUID : String
  assignedPodUID : String

def Entry.json (entry : Entry) : Json :=
  let text (key value : String) := omitEmpty key value.isEmpty (.string value)
  .object (text "timestamp" entry.timestamp ++ [("stream", .string entry.stream),
    ("message", .string entry.message)] ++ text "invocationId" entry.invocationID ++
    text "operation" entry.operation ++ text "outcome" entry.outcome ++
    text "statusCode" entry.statusCode ++
    omitEmpty "exitCode" entry.exitCode.isNone (.number (entry.exitCode.getD 0)) ++
    omitEmpty "timedOut" (!entry.timedOut) (.bool entry.timedOut) ++
    omitEmpty "durationMilliseconds" (entry.durationMilliseconds == 0)
      (.number entry.durationMilliseconds) ++ text "cursor" entry.cursor)

/-- What the log handler writes, a line with one object, for the last `tail` entries. -/
def logSnapshot (tail : Nat) (entries : List Entry) : Json :=
  let entries := entries.drop (entries.length - tail)
  .object [("items", .array (entries.map Entry.json)),
    ("nextCursor", .string ((entries.getLast?.map Entry.cursor).getD ""))]

/-- A field of an object in `json.Unmarshal`: the last key that is equal up to case.  A missing
field and null leave the value as it is. -/
def Json.field {α : Type} (key : String) (initial : α) (decode : Json → Option α) (value : Json) :
    Option α :=
  let fields := match value with
    | .object fields => fields
    | _ => []
  match fields.reverse.find? fun field => field.1.toLower == key.toLower with
  | none | some (_, .null) => some initial
  | some (_, field) => decode field

def Json.stringField (key : String) : Json → Option String :=
  Json.field key "" fun value => match value with
    | .string text => some text
    | _ => none

def Json.numberField (key : String) : Json → Option (Option Int) :=
  Json.field key none fun value => match value with
    | .number amount => some amount
    | _ => none

def Json.boolField (key : String) : Json → Option Bool :=
  Json.field key false fun value => match value with
    | .bool flag => some flag
    | _ => none

/-- `json.Unmarshal` of one line in `Sandbox.Logs`. -/
def decodeLine (line : Json) : Option LogRecord :=
  match line with
  | .object _ | .null => do
    return {
      stream := ← line.stringField "stream"
      message := ← line.stringField "message"
      operation := ← line.stringField "operation"
      outcome := ← line.stringField "outcome"
      statusCode := ← line.stringField "statusCode"
      exitCode := ← line.numberField "exitCode"
      timedOut := ← line.boolField "timedOut"
      durationMilliseconds := (← line.numberField "durationMilliseconds").getD 0 }
  | _ => none

/-- `Sandbox.Logs` on a body of such lines.  The scanner holds a line with its newline. -/
def sandboxLogs (runUID podUID : String) (lines : List Json) : Except String (List LogLine) :=
  if lines.any fun line => 2 ^ 20 < line.size + 1 then
    .error "read Run logs: bufio.Scanner: token too long"
  else .ok ((lines.filterMap decodeLine).map fun record => ⟨record, runUID, podUID⟩)

/-- No key of the object is one that the SDK looks for. -/
theorem decodeLine_logSnapshot (tail : Nat) (entries : List Entry) :
    decodeLine (logSnapshot tail entries) = some {} := by
  have missing : ∀ key ∈ ["stream", "message", "operation", "outcome", "statusCode", "exitCode",
      "timedOut", "durationMilliseconds"], ("nextCursor".toLower == key.toLower) = false ∧
        ("items".toLower == key.toLower) = false := by decide +kernel
  simp [decodeLine, logSnapshot, Json.stringField, Json.numberField, Json.boolField, Json.field,
    missing]

/-- The SDK takes the object for one line without text, so it returns the entries only if they
are one entry without text. -/
theorem sandboxLogs_eq_iff (runUID podUID : String) (tail : Nat) (entries : List Entry) :
    sandboxLogs runUID podUID [logSnapshot tail entries] =
        .ok (entries.map fun entry => ⟨entry.toLogRecord, runUID, podUID⟩) ↔
      (logSnapshot tail entries).size < 2 ^ 20 ∧ entries.map Entry.toLogRecord = [{}] := by
  rw [sandboxLogs, List.any_cons, List.any_nil, Bool.or_false,
    List.filterMap_cons_some (decodeLine_logSnapshot ..)]
  split
  · next long =>
    rw [decide_eq_true_eq] at long
    exact iff_of_false nofun fun both => by omega
  · next short =>
    rw [decide_eq_true_eq] at short
    have fits : (logSnapshot tail entries).size < 2 ^ 20 := by omega
    have lines : Function.Injective fun record : LogRecord => LogLine.mk record runUID podUID :=
      fun _ _ same => congrArg LogLine.toLogRecord same
    rw [Except.ok.injEq, and_iff_right fits, ← (List.map_injective_iff.mpr lines).eq_iff,
      List.map_map, eq_comm]
    rfl

/-- An empty list is returned as one line. -/
theorem sandboxLogs_nil :
    sandboxLogs "uid" "pod" [logSnapshot 500 []] = .ok [⟨{}, "uid", "pod"⟩] := by
  rw [sandboxLogs, List.filterMap_cons_some (decodeLine_logSnapshot ..), if_neg (by decide)]
  rfl

end Kruntimes.Extension
