import Kruntimes.Runtimed.Outputs

/-!
# Execution logs

Every poll of the Runtime Server returns the output so far.  `emitOutputDelta` writes the lines
that a cursor has not seen, and keeps the beginning of an unfinished one.
-/

namespace Kruntimes.Runtimed

open Api

/-- `outputCursor`; there is no hash before the first call. -/
structure OutputCursor (δ : Type) where
  seen : Nat := 0
  prefixHash : Option δ := none
  pending : List UInt8 := []

structure ExecutionLogLine where
  runUID : String
  assignedPodUID : String
  runName : String
  nameSpace : String
  runtime : String
  pod : String
  stream : String
  message : List UInt8

def executionLogLineFor (run : Run) (pod stream : String) (message : List UInt8) :
    ExecutionLogLine :=
  { runUID := run.uid, assignedPodUID := run.status.assignedPodUID, runName := run.name
    nameSpace := run.nameSpace, runtime := run.spec.runtime, pod, stream, message }

/-- A text up to its last newline, and what follows. -/
def cutLastLine : List UInt8 → List UInt8 × List UInt8
  | [] => ([], [])
  | byte :: rest =>
    let (complete, pending) := cutLastLine rest
    if complete = [] ∧ byte ≠ 10 then ([], byte :: pending) else (byte :: complete, pending)

def trimCarriageReturn (line : List UInt8) : List UInt8 :=
  if line.getLast? = some 13 then line.dropLast else line

section

variable {δ : Type} [DecidableEq δ] (sha256 : List UInt8 → δ) (run : Run) (pod stream : String)

/-- The log lines for some lines of output. -/
def logLines (lines : List (List UInt8)) : List ExecutionLogLine :=
  (lines.filter (· ≠ [])).map fun line =>
    executionLogLineFor run pod stream (trimCarriageReturn line)

/-- The next cursor and the lines that are written. -/
def emitOutputDelta (cursor : OutputCursor δ) (content : List UInt8) (terminal : Bool) :
    OutputCursor δ × List ExecutionLogLine :=
  let lost := content.length < cursor.seen ∨
    cursor.prefixHash.any (· ≠ sha256 (content.take cursor.seen))
  let cursor := if lost then { cursor with seen := 0, pending := [] } else cursor
  let (complete, pending) := cutLastLine (cursor.pending ++ content.drop cursor.seen)
  ({ seen := content.length, prefixHash := sha256 content
     pending := if terminal then [] else pending },
    logLines run pod stream (fileLines complete ++ if terminal then [pending] else []))

/-- What is written for a sequence of contents of which only the last is terminal. -/
def emitAll (cursor : OutputCursor δ) (last : List UInt8) :
    List (List UInt8) → List ExecutionLogLine
  | [] => (emitOutputDelta sha256 run pod stream cursor last true).2
  | content :: rest =>
    let (next, lines) := emitOutputDelta sha256 run pod stream cursor content false
    lines ++ emitAll next last rest

/-- The cursor has seen this content. -/
structure OutputCursor.At (cursor : OutputCursor δ) (content : List UInt8) : Prop where
  seen : cursor.seen = content.length
  hash : ∀ hash ∈ cursor.prefixHash, hash = sha256 content
  pending : cursor.pending = (cutLastLine content).2

variable {sha256 run pod stream}

theorem cutLastLine_append (first second : List UInt8) :
    cutLastLine (first ++ second) =
      ((cutLastLine first).1 ++ (cutLastLine ((cutLastLine first).2 ++ second)).1,
        (cutLastLine ((cutLastLine first).2 ++ second)).2) := by
  induction first with
  | nil => rfl
  | cons byte rest ih =>
    simp only [List.cons_append, cutLastLine, ih]
    by_cases unfinished : (cutLastLine rest).1 = [] ∧ byte ≠ 10
    · simp [unfinished, cutLastLine]
    · have closed : ¬ ((cutLastLine rest).1 ++
          (cutLastLine ((cutLastLine rest).2 ++ second)).1 = [] ∧ byte ≠ 10) :=
        fun both => unfinished ⟨(List.append_eq_nil_iff.mp both.1).1, both.2⟩
      rw [if_neg unfinished, if_neg closed]
      rfl

theorem fileLines_ne_nil (byte : UInt8) (rest : List UInt8) : fileLines (byte :: rest) ≠ [] := by
  unfold fileLines
  split
  · exact List.cons_ne_nil _ _
  · split <;> exact List.cons_ne_nil _ _

/-- The lines up to the last newline do not depend on what follows, which is one line at most. -/
theorem fileLines_cutLastLine (text : List UInt8) :
    (∀ more, fileLines ((cutLastLine text).1 ++ more) =
      fileLines (cutLastLine text).1 ++ fileLines more) ∧
    fileLines text = fileLines (cutLastLine text).1 ++
      if (cutLastLine text).2 = [] then [] else [(cutLastLine text).2] := by
  induction text with
  | nil => exact ⟨fun _ => rfl, rfl⟩
  | cons byte rest ih =>
    simp only [cutLastLine]
    split
    next unfinished =>
      refine ⟨fun _ => rfl, ?_⟩
      simp only [fileLines, if_neg unfinished.2, ih.2, unfinished.1]
      by_cases empty : (cutLastLine rest).2 = [] <;> simp [empty]
    next closed =>
      by_cases newline : byte = 10
      · simp only [fileLines, newline, if_true, List.cons_append, ih.1, ih.2, implies_true,
          and_self]
      · have some : fileLines (cutLastLine rest).1 ≠ [] := by
          cases known : (cutLastLine rest).1 with
          | nil => exact absurd ⟨known, newline⟩ closed
          | cons => exact fileLines_ne_nil _ _
        obtain ⟨line, lines, known⟩ := List.exists_cons_of_ne_nil some
        simp [fileLines, newline, ih.1, ih.2, known]

theorem logLines_append (first second : List (List UInt8)) :
    logLines run pod stream (first ++ second) =
      logLines run pod stream first ++ logLines run pod stream second := by
  simp [logLines]

/-- A call with a longer content goes on where the cursor stands. -/
theorem emitOutputDelta_eq {cursor : OutputCursor δ} {content : List UInt8}
    (seen : cursor.At sha256 content) (new : List UInt8) (terminal : Bool) :
    emitOutputDelta sha256 run pod stream cursor (content ++ new) terminal =
      ({ seen := (content ++ new).length, prefixHash := sha256 (content ++ new)
         pending := if terminal then [] else (cutLastLine (content ++ new)).2 },
        logLines run pod stream (fileLines (cutLastLine ((cutLastLine content).2 ++ new)).1 ++
          if terminal then [(cutLastLine (content ++ new)).2] else [])) := by
  have kept : ¬ ((content ++ new).length < cursor.seen ∨
      cursor.prefixHash.any (· ≠ sha256 ((content ++ new).take cursor.seen)) = true) := by
    rw [seen.seen, List.take_left, List.length_append, Option.any_eq_true]
    rintro (short | ⟨hash, stored, other⟩)
    · omega
    · simp [seen.hash hash stored] at other
  simp only [emitOutputDelta, if_neg kept]
  rw [seen.seen, seen.pending, List.drop_left, cutLastLine_append content]

/-- From a cursor on, the lines that it has not seen are written. -/
theorem emitAll_of_at {cursor : OutputCursor δ} {content last : List UInt8}
    {contents : List (List UInt8)} (seen : cursor.At sha256 content)
    (grows : List.IsChain (· <+: ·) (content :: (contents ++ [last]))) :
    logLines run pod stream (fileLines (cutLastLine content).1) ++
      emitAll sha256 run pod stream cursor last contents =
      logLines run pod stream (fileLines last) := by
  induction contents generalizing cursor content with
  | nil =>
    obtain ⟨new, rfl⟩ := (List.isChain_cons_cons.mp grows).1
    rw [emitAll, emitOutputDelta_eq seen new true, if_pos rfl,
      (fileLines_cutLastLine (content ++ new)).2, cutLastLine_append content,
      (fileLines_cutLastLine content).1, ← logLines_append, List.append_assoc]
    by_cases empty : (cutLastLine ((cutLastLine content).2 ++ new)).2 = [] <;>
      simp [logLines, empty]
  | cons next rest ih =>
    obtain ⟨⟨new, rfl⟩, later⟩ := List.isChain_cons_cons.mp grows
    have after : (emitOutputDelta sha256 run pod stream cursor (content ++ new) false).1.At sha256
        (content ++ new) := by
      rw [emitOutputDelta_eq seen new false]
      exact ⟨rfl, by simp, rfl⟩
    have rest := ih after later
    rw [cutLastLine_append content, (fileLines_cutLastLine content).1, logLines_append] at rest
    rw [emitAll, ← rest]
    simp [emitOutputDelta_eq seen new false]

/-- Every line of the last content is written once, however the content has grown. -/
theorem emitAll_eq (contents : List (List UInt8)) (last : List UInt8)
    (grows : List.IsChain (· <+: ·) (contents ++ [last])) :
    emitAll sha256 run pod stream {} last contents = logLines run pod stream (fileLines last) := by
  have initial : ({} : OutputCursor δ).At sha256 [] := ⟨rfl, by simp, rfl⟩
  apply emitAll_of_at initial
  exact grows.cons fun next _ => List.nil_prefix

/-- An output of two lines that is seen first in the middle of the first one. -/
theorem message_emitAll_twoLines :
    (emitAll id { nameSpace := "default", name := "run", uid := "uid", spec := {
      runtime := "bash", mode := ⟨true, none, none⟩ } } "runtime-0" "stdout" {}
      [97, 98, 13, 10, 99] [[97]]).map ExecutionLogLine.message = [[97, 98], [99]] := by
  rw [emitAll_eq [[97]] [97, 98, 13, 10, 99] (by decide)]
  decide

end

end Kruntimes.Runtimed
