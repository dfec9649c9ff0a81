import Kruntimes.Runtimed.Calls
import Mathlib.Data.List.Induction

/-!
# The output of a task in a status response

A process writes bytes, and the Bash server answers with what its bounded buffers hold as
the text of a protobuf message, which has to be valid UTF-8.
-/

namespace Kruntimes.Bash

open Runtimed (ExecutionState)

/-! ## Text -/

/-- A Go string that protobuf accepts. -/
def ValidUtf8 (bytes : List UInt8) : Prop := bytes.toByteArray.IsValidUTF8

instance (bytes : List UInt8) : Decidable (ValidUtf8 bytes) :=
  decidable_of_iff _ ByteArray.validateUTF8_eq_true_iff

def outputTruncatedMarker : List UInt8 :=
  "\n[output truncated]\n".toList.flatMap String.utf8EncodeChar

/-- What stands before the first byte of a character is valid by itself. -/
theorem ValidUtf8.of_append {bytes rest : List UInt8} {first : UInt8}
    (begins : first.IsUTF8FirstByte) (valid : ValidUtf8 (bytes ++ first :: rest)) :
    ValidUtf8 bytes := by
  let text : String := String.ofByteArray _ valid
  have inside : (⟨bytes.length⟩ : String.Pos.Raw) < text.rawEndPos := by
    simp [text, String.Pos.Raw.lt_iff, String.rawEndPos]
  have byte : text.getUTF8Byte ⟨bytes.length⟩ inside = first := by
    simp [text, String.getUTF8Byte, -List.toByteArray_append]
  have boundary : String.Pos.Raw.IsValid text ⟨bytes.length⟩ :=
    String.Pos.Raw.isValid_iff_isUTF8FirstByte.mpr (.inr ⟨inside, by rw [byte]; exact begins⟩)
  have front := boundary.isValidUTF8_extract_zero
  have same : (bytes ++ first :: rest).toByteArray.extract 0 bytes.length = bytes.toByteArray := by
    rw [List.toByteArray_append]
    exact ByteArray.extract_append_eq_left (by simp)
  rw [ValidUtf8, ← same]
  exact front

/-- The marker begins a new character, so that it cannot repair what stands before it. -/
theorem validUtf8_append_marker_iff {bytes : List UInt8} :
    ValidUtf8 (bytes ++ outputTruncatedMarker) ↔ ValidUtf8 bytes := by
  constructor
  · exact ValidUtf8.of_append (show (10 : UInt8).IsUTF8FirstByte by decide)
  · intro valid
    rw [ValidUtf8, List.toByteArray_append]
    exact valid.append ⟨_, rfl⟩

/-! ## Buffers -/

structure BoundedBuffer where
  buffer : List UInt8 := []
  limit : Int
  truncated : Bool := false

def BoundedBuffer.write (output : BoundedBuffer) (chunk : List UInt8) : BoundedBuffer :=
  if output.limit ≤ 0 then
    { output with truncated := output.truncated || decide (0 < chunk.length) }
  else
    let remaining := output.limit - output.buffer.length
    { output with
      buffer := if 0 < remaining then
          output.buffer ++ chunk.take (min remaining chunk.length).toNat
        else output.buffer
      truncated := output.truncated || decide (remaining < chunk.length) }

def BoundedBuffer.string (output : BoundedBuffer) : List UInt8 :=
  if output.truncated then output.buffer ++ outputTruncatedMarker else output.buffer

/-- The buffer after `written` has come in any chunks. -/
def BoundedBuffer.of (limit : Int) (written : List UInt8) : BoundedBuffer where
  buffer := written.take limit.toNat
  limit
  truncated := decide (limit.toNat < written.length)

theorem BoundedBuffer.write_of (limit : Int) (written chunk : List UInt8) :
    (BoundedBuffer.of limit written).write chunk = .of limit (written ++ chunk) := by
  unfold BoundedBuffer.write BoundedBuffer.of
  dsimp only
  split
  next none =>
    have zero : limit.toNat = 0 := by omega
    simp only [zero, List.take_zero, List.length_append, mk.injEq, true_and]
    rw [← Bool.decide_or, decide_eq_decide]
    omega
  next some =>
    simp only [mk.injEq, true_and, List.take_append, List.length_take]
    constructor
    · split
      · rw [List.append_cancel_left_eq, List.take_eq_take_iff]
        omega
      · have full : limit.toNat - written.length = 0 := by omega
        rw [full, List.take_zero, List.append_nil]
    · rw [← Bool.decide_or, decide_eq_decide]
      simp only [List.length_append]
      omega

/-! ## Executions -/

/-- What a status request reads of an `executionEntry`. -/
structure ExecutionEntry where
  state : ExecutionState
  exitCode : Int
  errMsg : String
  stdout : BoundedBuffer
  stderr : BoundedBuffer

def newExecutionEntry (outputLimit : Int) : ExecutionEntry where
  state := .running
  exitCode := 0
  errMsg := ""
  stdout := { limit := outputLimit }
  stderr := { limit := outputLimit }

/-- What happens to an entry under its lock: a reader of one of the two pipes writes a
chunk, or the execution is completed. -/
inductive EntryAction
  | write (stderr : Bool) (chunk : List UInt8)
  | complete (state : ExecutionState) (exitCode : Int) (errMsg : String)

/-- `executionOutput.Write` and `complete`. -/
def ExecutionEntry.act (entry : ExecutionEntry) : EntryAction → ExecutionEntry
  | .write true chunk => { entry with stderr := entry.stderr.write chunk }
  | .write false chunk => { entry with stdout := entry.stdout.write chunk }
  | .complete state exitCode errMsg => { entry with state, exitCode, errMsg }

/-- `pb.StatusResponse`.  The texts that are no output are valid by their type. -/
structure Wire.StatusResponse where
  id : String
  state : ExecutionState
  exitCode : Int
  stdout : List UInt8
  stderr : List UInt8
  errorMessage : String

def ExecutionEntry.snapshot (entry : ExecutionEntry) (id : String) : Wire.StatusResponse where
  id
  state := entry.state
  exitCode := entry.exitCode
  stdout := entry.stdout.string
  stderr := entry.stderr.string
  errorMessage := entry.errMsg

/-- Protobuf can marshal the response. -/
def Wire.StatusResponse.Valid (response : Wire.StatusResponse) : Prop :=
  ValidUtf8 response.stdout ∧ ValidUtf8 response.stderr

/-- The bytes that came from one of the two pipes. -/
def written (stderr : Bool) (actions : List EntryAction) : List UInt8 :=
  actions.flatMap fun
    | .write pipe chunk => if pipe = stderr then chunk else []
    | .complete .. => []

theorem written_append (stderr : Bool) (first second : List EntryAction) :
    written stderr (first ++ second) = written stderr first ++ written stderr second :=
  List.flatMap_append

/-- However the bytes were cut into chunks, the buffers hold the first of them. -/
theorem buffers_foldl_act (limit : Int) (actions : List EntryAction) :
    (actions.foldl ExecutionEntry.act (newExecutionEntry limit)).stdout =
        .of limit (written false actions) ∧
      (actions.foldl ExecutionEntry.act (newExecutionEntry limit)).stderr =
        .of limit (written true actions) := by
  induction actions using List.reverseRecOn with
  | nil => simp [newExecutionEntry, BoundedBuffer.of, written]
  | append_singleton earlier action ih =>
    rw [List.foldl_append, written_append, written_append]
    rcases action with ⟨_ | _, chunk⟩ | _
    · simp [ExecutionEntry.act, ih, BoundedBuffer.write_of, written]
    · simp [ExecutionEntry.act, ih, BoundedBuffer.write_of, written]
    · simpa [ExecutionEntry.act, written] using ih

/-- A response can be marshalled if and only if the bytes that each pipe gave, up to the
limit, are valid UTF-8. -/
theorem valid_snapshot_iff (limit : Int) (actions : List EntryAction) (id : String) :
    ((actions.foldl ExecutionEntry.act (newExecutionEntry limit)).snapshot id).Valid ↔
      ∀ stderr, ValidUtf8 ((written stderr actions).take limit.toNat) := by
  have string (output : List UInt8) :
      ValidUtf8 (BoundedBuffer.of limit output).string ↔ ValidUtf8 (output.take limit.toNat) := by
    unfold BoundedBuffer.string
    split
    · exact validUtf8_append_marker_iff
    · rfl
  rw [Wire.StatusResponse.Valid, ExecutionEntry.snapshot, (buffers_foldl_act limit actions).1,
    (buffers_foldl_act limit actions).2, string, string, Bool.forall_bool]

/-- A task that prints the byte `0xff`, which begins no UTF-8 sequence. -/
theorem not_valid_oneByte :
    ¬ (([.write false [0xff]].foldl ExecutionEntry.act
      (newExecutionEntry (1024 * 1024))).snapshot "run").Valid := by
  rw [Wire.StatusResponse.Valid]
  decide +kernel

end Kruntimes.Bash
