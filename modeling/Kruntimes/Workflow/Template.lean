import Kruntimes.Workflow.Expression

/-!
# Reusable Workflows

`workflowtemplate`: the check of the call graph, and `Materialize`, which renders
the inputs of a called Workflow into the texts of its jobs.  Everything else in a
text is left for the controller of the child WorkflowRun.

The pattern of an input is the Go regular expression

    \$\{\{\s*inputs\.([A-Za-z0-9_.-]+)\s*\}\}

in which no part can match in two ways.
-/

namespace Kruntimes.Workflow

open Api Data

/-! ## Inputs in texts -/

/-- The class `[A-Za-z0-9_.-]`. -/
def isInputSymbol (symbol : Char) : Bool :=
  symbol.isAlphanum || symbol == '_' || symbol == '.' || symbol == '-'

/-- The rest of a text behind a word. -/
def afterWord (word : String) (input : List Char) : Option (List Char) :=
  if word.toList.isPrefixOf input then some (input.drop word.length) else none

/-- `inputExpression`: the name of the input. -/
def inputExpression : Pattern Char String
  | '$' :: '{' :: '{' :: rest =>
    match afterWord "inputs." (rest.dropWhile isBlank) with
    | none => none
    | some input =>
      let name := input.takeWhile isInputSymbol
      if name = [] then none
      else (closing (input.dropWhile isInputSymbol)).map fun after =>
        (String.ofList name, after)
  | _ => none

def renderInputs (inputs : Labels) (text : String) : Except String String :=
  (Segment.substitute (fun name =>
      match inputs.lookup name with
      | none => .error ("unknown input " ++ quoted name)
      | some value => .ok value.toList)
    (inputExpression.scan text.toList)).map String.ofList

def renderStringMap (inputs : Labels) (values : Labels) : Except String Labels :=
  values.traverse fun _ value => renderInputs inputs value

/-- The part of `Materialize` that renders one step. -/
def renderStep (inputs : Labels) (step : StepSpec) : Except String StepSpec :=
  match located ("step " ++ quoted step.name ++ " run") (renderInputs inputs step.run) with
  | .error message => .error message
  | .ok run =>
    match located ("step " ++ quoted step.name ++ " args")
        (step.args.mapM (renderInputs inputs)) with
    | .error message => .error message
    | .ok args =>
      match located ("step " ++ quoted step.name ++ " env") (renderStringMap inputs step.env) with
      | .error message => .error message
      | .ok env =>
        match located ("step " ++ quoted step.name ++ " with")
            (renderStringMap inputs step.withValues) with
        | .error message => .error message
        | .ok withValues =>
          .ok { step with run := run, args := args, env := env, withValues := withValues }

/-- The part of `Materialize` that renders one job. -/
def renderJob (inputs : Labels) (job : JobSpec) : Except String JobSpec :=
  match located "uses" (renderInputs inputs job.uses) with
  | .error message => .error message
  | .ok uses =>
    match located "with" (renderStringMap inputs job.withValues) with
    | .error message => .error message
    | .ok withValues =>
      match located "outputs" (renderStringMap inputs job.outputs) with
      | .error message => .error message
      | .ok outputs =>
        (job.steps.mapM (renderStep inputs)).map fun steps =>
          { job with uses := uses, withValues := withValues, outputs := outputs
                     steps := steps }

instance : Inhabited JobSpec := ⟨{}⟩

def bindInputs (inputs : Table String InputSpec) (values : Labels) : Except String Labels :=
  match values.sortedKeys.find? fun name => decide (name ∉ inputs) with
  | some name => .error ("unknown input " ++ quoted name)
  | none => inputs.traverse (bindInput values)

def materialize (spec : WorkflowSpec) (values : Labels) : Except String JobSpecs :=
  match bindInputs spec.inputs values with
  | .error message => .error message
  | .ok inputs => spec.jobs.traverse fun name job =>
    match renderJob inputs job with
    | .error message => .error ("job " ++ quoted name ++ " " ++ message)
    | .ok rendered => .ok rendered

/-! ## Calls -/

def maxCallDepth : Nat := 8

def calledWorkflowNames (jobs : JobSpecs) : List String :=
  ((jobs.entries.map fun entry => entry.2.uses).filter (· ≠ "")).dedup.insertionSort (· ≤ ·)

/-- The closure `visit` of `ValidateCallGraph`; the first argument is the room that
is left on a stack of at most `maxCallDepth` Workflows. -/
def visitWorkflow (find : String → Except String WorkflowSpec) :
    Nat → List String → List String → String → Except String (List String)
  | room, stack, visited, name =>
    if name ∈ stack then
      .error ("workflow call cycle: " ++ " -> ".intercalate (stack.dropWhile (· != name) ++ [name]))
    else if name ∈ visited then .ok visited
    else
      match room with
      | 0 => .error ("workflow call depth exceeds maximum " ++ toString maxCallDepth ++ ": " ++
          " -> ".intercalate (stack ++ [name]))
      | room + 1 =>
        match find name with
        | .error message => .error ("get workflow " ++ quoted name ++ ": " ++ message)
        | .ok workflow =>
          match (calledWorkflowNames workflow.jobs).foldlM
              (visitWorkflow find room (stack ++ [name])) visited with
          | .error message => .error message
          | .ok visited => .ok (visited ++ [name])

def validateCallGraph (root : String) (find : String → Except String WorkflowSpec) :
    Except String Unit :=
  if root = "" then .error "workflow name is required"
  else (visitWorkflow find maxCallDepth [] [] root).map fun _ => ()

end Kruntimes.Workflow
