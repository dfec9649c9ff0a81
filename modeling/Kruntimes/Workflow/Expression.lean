import Kruntimes.Data.Pattern
import Kruntimes.Workflow.Types

/-!
# Expressions in step fields

`workflow_expr.go`: the pattern of an expression, references to inputs, step
outputs and job outputs, and their resolution in the fields of a step.

The pattern is the Go regular expression

    \$\{\{\s*(.+?)\s*\}\}

with leftmost-first matching: leading blanks are taken greedily and given back
one by one when the rest does not match, the path is as short as possible and
contains no line break.
-/

namespace Kruntimes.Workflow

open Api Data

/-! ## The pattern -/

/-- The class `\s`. -/
def isBlank (symbol : Char) : Bool :=
  symbol == ' ' || symbol == '\t' || symbol == '\n' || symbol == '\r' || symbol == '\x0c'

/-- The text behind `\s*\}\}`. -/
def closing (input : List Char) : Option (List Char) :=
  match input.dropWhile isBlank with
  | '}' :: '}' :: rest => some rest
  | _ => none

/-- `(.+?)\s*\}\}`: the path and the text behind the match. -/
def shortestPath : List Char → Option (List Char × List Char)
  | [] => none
  | symbol :: rest =>
    if symbol = '\n' then none
    else
      match closing rest with
      | some after => some ([symbol], after)
      | none => (shortestPath rest).map fun found => (symbol :: found.1, found.2)

/-- `\s*(.+?)\s*\}\}`, longest run of leading blanks first. -/
def paddedPath : List Char → Option (List Char × List Char)
  | [] => none
  | symbol :: rest =>
    if isBlank symbol then
      match paddedPath rest with
      | some found => some found
      | none => shortestPath (symbol :: rest)
    else shortestPath (symbol :: rest)

def exprPattern : Pattern Char (List Char)
  | '$' :: '{' :: '{' :: rest => paddedPath rest
  | _ => none

/-! ## References -/

/-- `resolveContext`; `none` is a nil map. -/
structure ResolveContext where
  inputs : Option Labels := none
  steps : Option (Table String Labels) := none
  jobs : Option (Table String Labels) := none

/-- A parsed reference path.  An unusable path carries its complaint. -/
inductive Ref
  | input (name : String)
  | step (name key : String)
  | job (name key : String)
  | invalid (complaint : String)
  deriving DecidableEq

/-- `strings.SplitN(path, ".", count)`. -/
def splitN : Nat → List Char → List String
  | 0, _ => []
  | 1, path => [String.ofList path]
  | count + 2, path =>
    match path.span (· ≠ '.') with
    | (part, _ :: rest) => String.ofList part :: splitN (count + 1) rest
    | (part, []) => [String.ofList part]

/-- The parts behind `steps` or `jobs`: a name, the word `outputs` and a key. -/
def outputRef (ref : String → String → Ref) (complaint : String) : List String → Ref
  | [name, middle, key] => if middle = "outputs" then ref name key else .invalid complaint
  | _ => .invalid complaint

/-- The shape checks of `resolveRef`. -/
def parseRef (path : List Char) : Ref :=
  match splitN 4 path with
  | [] => .invalid ""
  | kind :: parts =>
    if kind = "inputs" then
      match parts with
      | [name] => .input name
      | _ => .invalid ("invalid inputs ref: " ++ String.ofList path ++ " (expected inputs.<name>)")
    else if kind = "steps" then
      outputRef .step ("invalid steps ref: " ++ String.ofList path ++
        " (expected steps.<name>.outputs.<key>)") parts
    else if kind = "jobs" then
      outputRef .job ("invalid jobs ref: " ++ String.ofList path ++
        " (expected jobs.<name>.outputs.<key>)") parts
    else .invalid ("unknown ref prefix: " ++ kind ++ " (expected inputs, steps, or jobs)")

def resolveMap (outputs : Option (Table String Labels)) (name key : String) :
    Except String String :=
  match outputs with
  | none => .error "no outputs available"
  | some outputs =>
    match outputs.lookup name with
    | none => .error ("no outputs for " ++ name)
    | some values =>
      match values.lookup key with
      | none => .error ("no output " ++ quoted key ++ " in " ++ name)
      | some value => .ok value

/-- `resolveRef` after the shape checks. -/
def Ref.resolve (ctx : ResolveContext) : Ref → Except String String
  | .input name =>
    match ctx.inputs with
    | none => .error "no inputs available"
    | some inputs =>
      match inputs.lookup name with
      | none => .error ("no input " ++ quoted name)
      | some value => .ok value
  | .step name key => resolveMap ctx.steps name key
  | .job name key => resolveMap ctx.jobs name key
  | .invalid complaint => .error complaint

def resolveRef (path : List Char) (ctx : ResolveContext) : Except String String :=
  (parseRef path).resolve ctx

/-- `resolveExpr`: replace every expression; the last failure is reported. -/
def resolveExpr (text : String) (ctx : ResolveContext) : Except String String :=
  (Segment.substitute (fun path => (resolveRef path ctx).map String.toList)
    (exprPattern.scan text.toList)).map String.ofList

/-! ## Fields of a step -/

/-- An error with the place where it occurred. -/
def located {α : Type} (place : String) : Except String α → Except String α
  | .error message => .error (place ++ ": " ++ message)
  | .ok value => .ok value

/-- `resolveStepArgs`, from position `index` on. -/
def resolveStepArgs (ctx : ResolveContext) : Nat → List String → Except String (List String)
  | _, [] => .ok []
  | index, arg :: rest =>
    match located ("arg[" ++ toString index ++ "]") (resolveExpr arg ctx) with
    | .error message => .error message
    | .ok value => (resolveStepArgs ctx (index + 1) rest).map (value :: ·)

def resolveEnv (env : Labels) (ctx : ResolveContext) : Except String Labels :=
  env.traverse fun name value => located ("env[" ++ name ++ "]") (resolveExpr value ctx)

def resolveStepExecution (step : StepSpec) (ctx : ResolveContext) : Except String StepSpec :=
  match located "run" (resolveExpr step.run ctx) with
  | .error message => .error message
  | .ok run =>
    match resolveStepArgs ctx 0 step.args with
    | .error message => .error message
    | .ok args =>
      match resolveEnv step.env ctx with
      | .error message => .error message
      | .ok env => .ok { step with run := run, args := args, env := env }

/-! ## Reserved outputs -/

/-- `strings.CutPrefix`. -/
def cutLeading (leading text : String) : Option String :=
  if leading.toList.isPrefixOf text.toList then
    some (String.ofList (text.toList.drop leading.length))
  else none

/-- `validation.IsCIdentifier` without its message. -/
def isCIdentifier (name : String) : Bool :=
  match name.toList with
  | [] => false
  | first :: rest =>
    (first.isAlpha || first == '_') && rest.all fun symbol => symbol.isAlphanum || symbol == '_'

/-- Whether an output key is reserved for environment values. -/
def isEnvironmentKey (key : String) : Bool :=
  (cutLeading workflowEnvironmentOutputPrefix key).isSome

def workflowEnvironmentOutputs (platform : WorkflowPlatform) (outputs : Labels) :
    Except String Labels :=
  outputs.sortedKeys.foldlM (fun environment key =>
    match cutLeading workflowEnvironmentOutputPrefix key with
    | none => .ok environment
    | some name =>
      if isCIdentifier name then .ok (environment.insert name (label outputs key))
      else .error ("reserved environment output " ++ quoted key ++
        " has invalid variable name: " ++ platform.cIdentifierComplaint)) ∅

def publicWorkflowOutputs (outputs : Labels) : Labels :=
  outputs.keep fun key _ => !isEnvironmentKey key

/-! ## Contexts -/

def workflowRunJobOutputContext (statuses : JobStatuses) : ResolveContext where
  jobs := some ((statuses.keep fun _ status =>
    status.phase == .succeeded && !status.outputs.entries.isEmpty).mapValues
      fun _ status => publicWorkflowOutputs status.outputs)

/-- The outputs of the succeeded steps; of two steps with one name the later
counts. -/
def stepOutputs (steps : List StepStatus) : Table String Labels :=
  steps.foldl (fun table step =>
    if step.phase = .succeeded ∧ step.outputs.entries ≠ [] then
      table.insert step.name (publicWorkflowOutputs step.outputs)
    else table) ∅

def workflowRunStepContext (statuses : JobStatuses) (jobName : String) : ResolveContext :=
  { workflowRunJobOutputContext statuses with
    steps := some (stepOutputs ((statuses.lookup jobName).elim [] JobStatus.steps)) }

/-! ## Inputs -/

/-- The value of a declared input: what the caller passes, or the default.  A
required input without either is an error. -/
def bindInput (values : Labels) (name : String) (input : InputSpec) : Except String String :=
  match values.lookup name with
  | some value => .ok value
  | none =>
    if input.required = true ∧ input.default = "" then
      .error ("missing required input " ++ quoted name)
    else .ok input.default

def resolveActionInputs (values : Labels) (ctx : ResolveContext)
    (inputs : Table String InputSpec) : Except String Labels :=
  match values.traverse fun name value =>
      if name ∈ inputs then located ("input " ++ quoted name) (resolveExpr value ctx)
      else .error ("unknown input " ++ quoted name) with
  | .error message => .error message
  | .ok resolved => inputs.traverse (bindInput resolved)

def resolveWorkflowCallInputs (values : Labels) (ctx : ResolveContext) :
    Except String Labels :=
  values.traverse fun name value => located ("input " ++ quoted name) (resolveExpr value ctx)

/-- The loops that evaluate declared outputs in sorted order. -/
def resolveOutputs (outputs : Labels) (ctx : ResolveContext) : Except String Labels :=
  outputs.traverse fun name value => located ("output " ++ quoted name) (resolveExpr value ctx)

end Kruntimes.Workflow
