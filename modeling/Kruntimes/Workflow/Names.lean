import Kruntimes.Workflow.Types

/-!
# Names, keys and labels of children

A child's name is the WorkflowRun's name, cut to the space that a separator and a
suffix leave, followed by both.  The suffix is a truncated digest of what the
child stands for.  Names consist of ASCII characters, so lengths count bytes.
-/

namespace Kruntimes.Workflow

open Api Data

/-- `strings.TrimRight(text, "-.")`. -/
def trimRight (text : List Char) : List Char :=
  (text.reverse.dropWhile fun symbol => symbol == '-' || symbol == '.').reverse

/-- The leading part of a child's name. -/
def leadingPart (name : String) (room : Nat) : String :=
  if room < name.length then String.ofList (trimRight (name.toList.take room)) else name

/-- The common form of derived names; `bare` replaces the separator when nothing is
left of the WorkflowRun's name. -/
def derivedName (separator bare workflowRunName suffix : String) : String :=
  let leading := leadingPart workflowRunName (253 - separator.length - suffix.length)
  if leading = "" then bare ++ suffix else leading ++ separator ++ suffix

/-- Suffixes of one length can be read off the derived name. -/
theorem eq_of_derivedName_eq {separator bare name first second : String}
    (length : first.length = second.length)
    (same : derivedName separator bare name first = derivedName separator bare name second) :
    first = second := by
  unfold derivedName at same
  rw [length] at same
  dsimp only at same
  have lists := congrArg String.toList same
  split at lists <;>
  · simp only [String.toList_append] at lists
    exact String.toList_injective (List.append_cancel_left lists)

/-- Texts without a symbol can be read off their concatenation around it. -/
theorem eq_of_append_cons_eq {symbol : Char} {first second rest other : List Char}
    (free : symbol ∉ first) (otherFree : symbol ∉ second)
    (same : first ++ symbol :: rest = second ++ symbol :: other) :
    first = second ∧ rest = other := by
  induction first generalizing second with
  | nil =>
    cases second with
    | nil => exact ⟨rfl, (List.cons.inj same).2⟩
    | cons =>
      rw [(List.cons.inj same).1] at otherFree
      exact absurd (.head _) otherFree
  | cons head tail ih =>
    cases second with
    | nil =>
      rw [(List.cons.inj same).1] at free
      exact absurd (.head _) free
    | cons =>
      obtain ⟨rfl, tails⟩ := List.cons.inj same
      obtain ⟨rfl, rests⟩ := ih (fun mem => free (.tail _ mem))
        (fun mem => otherFree (.tail _ mem)) tails
      exact ⟨rfl, rests⟩

/-- Three names can be read off their concatenation around a separator. -/
theorem eq_of_joined_eq {separator : String} {symbol : Char}
    (single : separator.toList = [symbol]) {first second third first' second' third' : String}
    (free : symbol ∉ first.toList ∧ symbol ∉ first'.toList ∧ symbol ∉ second.toList ∧
      symbol ∉ second'.toList)
    (same : first ++ separator ++ second ++ separator ++ third =
      first' ++ separator ++ second' ++ separator ++ third') :
    first = first' ∧ second = second' ∧ third = third' := by
  have lists := congrArg String.toList same
  simp only [String.toList_append, single, List.append_assoc, List.cons_append,
    List.nil_append] at lists
  obtain ⟨one, rest⟩ := eq_of_append_cons_eq free.1 free.2.1 lists
  obtain ⟨two, three⟩ := eq_of_append_cons_eq free.2.2.1 free.2.2.2 rest
  exact ⟨String.toList_injective one, String.toList_injective two, String.toList_injective three⟩

section

variable (platform : WorkflowPlatform)

def workflowStepRunName (workflowRunName jobName stepName actionStepName : String) : String :=
  derivedName "-" "" workflowRunName
    (platform.digest (jobName ++ "/" ++ stepName ++ "/" ++ actionStepName))

def workflowCallRunName (parentName jobName : String) : String :=
  derivedName "-" "" parentName (platform.digest jobName)

def workflowJobWorkspaceName (workflowRunName jobName : String) : String :=
  derivedName "-workspace-" "workspace-" workflowRunName (platform.digest jobName)

def workflowSnapshotName (workflowRun : WorkflowRun) : String :=
  derivedName "-snapshot-" "snapshot-" workflowRun.name (platform.digest workflowRun.uid)

end

def workflowActionSnapshotKey (jobName stepName : String) : String :=
  jobName ++ "\x00" ++ stepName

def workflowStepKey (jobName stepName actionStepName : String) : String :=
  jobName ++ "\x00" ++ stepName ++ "\x00" ++ actionStepName

def workflowStepLabels (uid jobName stepName actionStepName : String) : Labels :=
  let labels := ((∅ : Labels).insert workflowRunUIDLabel uid
    |>.insert workflowJobLabel jobName).insert workflowStepLabel stepName
  if actionStepName = "" then labels
  else labels.insert workflowActionStepLabel actionStepName

namespace ChildRun

/-- The logical step a Run's labels name. -/
def jobName (run : ChildRun) : String := label run.labels workflowJobLabel
def stepName (run : ChildRun) : String := label run.labels workflowStepLabel
def actionStepName (run : ChildRun) : String := label run.labels workflowActionStepLabel

/-- The key under which the controller keeps a listed Run. -/
def stepKey (run : ChildRun) : String :=
  workflowStepKey run.jobName run.stepName run.actionStepName

end ChildRun

end Kruntimes.Workflow
