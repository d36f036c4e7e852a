import Recast.Transform.Registry
/-!
Workflow definitions and their step configurations.

A workflow names its steps, each applying one registered transformation to the output of the
step it names as `input`, or to the workflow's input when it names none, and it exposes the
outputs of some steps as named artifacts. The order steps run in is not written down; it follows
from the `input` links (see `StepGraph`).

The configuration of a workflow gives each step the configuration of its transformation, raw;
it is read against the definition only when the workflow is prepared, so that every step has
one and every one belongs to a step.
-/

namespace Recast

open Json

/-- One step: a transformation applied to the output of `input`, or to the workflow input. -/
structure Step where
  description : String := ""
  transformation : String
  input : Option String := none
  deriving DecidableEq, Inhabited, Repr

/-- A workflow: steps by name, and artifacts naming the steps whose output they expose. -/
structure Workflow where
  description : String := ""
  steps : Table Step
  artifacts : Table String := []
  deriving Inhabited

namespace Step

/-- How a step is read; members that are not fields are refused. -/
def record : RecordSpec :=
  ⟨"WorkflowStep",
    [.defaulted "description" Decoder.string, .required "transformation" Decoder.string,
     .defaulted "input" (Decoder.option Decoder.string)], true⟩

/-- Reads a step. -/
def decode : Decoder Step := fun node => do
  let present ← record.read node
  pure { description := ← Decoder.fieldOr present "description" Decoder.string ""
         transformation := ← Decoder.field present "transformation" Decoder.string
         input := ← Decoder.fieldOr present "input" (Decoder.option Decoder.string) none }

/-- Writes a step; an absent input is left out. -/
def toJson (step : Step) : Json :=
  .obj ([("description", .str step.description), ("transformation", .str step.transformation)] ++
    match step.input with
    | some input => [("input", .str input)]
    | none => [])

end Step

namespace Workflow

/-- How a workflow is read; members that are not fields are refused. -/
def record : RecordSpec :=
  ⟨"WorkflowDefinition",
    [.defaulted "description" Decoder.string, .required "steps" (Decoder.table Step.decode),
     .defaulted "artifacts" (Decoder.table Decoder.string)], true⟩

/-- Reads a workflow. -/
def decode : Decoder Workflow := fun node => do
  let present ← record.read node
  pure { description := ← Decoder.fieldOr present "description" Decoder.string ""
         steps := ← Decoder.field present "steps" (Decoder.table Step.decode)
         artifacts := ← Decoder.fieldOr present "artifacts" (Decoder.table Decoder.string) [] }

/-- Writes a workflow. -/
def toJson (workflow : Workflow) : Json :=
  .obj [("description", .str workflow.description),
    ("steps", .obj (Table.mapValues workflow.steps Step.toJson)),
    ("artifacts", .obj (Table.mapValues workflow.artifacts Json.str))]

end Workflow

/-- Why a workflow configuration does not fit its definition. -/
inductive StepConfigError where
  | missingStepConfig (step : String)
  | unknownStepConfig (step : String)
  | invalidStepConfig (step : String) (error : ConfigError)
  deriving DecidableEq, Inhabited, Repr

/-- The text of a step configuration error. -/
def StepConfigError.message : StepConfigError → String
  | .missingStepConfig step => "No configuration given for step '" ++ step ++ "'"
  | .unknownStepConfig step => "Configuration given for unknown step '" ++ step ++ "'"
  | .invalidStepConfig step error =>
    "Configuration of step '" ++ step ++ "' is invalid: " ++ error.message

/-- The raw configuration of every step, by step name. -/
abbrev StepConfigs := Table Json

namespace Workflow

/-- Reads the configuration of every step for its transformation, in step order. A
configuration for a step the workflow does not have is refused first. -/
def readConfigs (workflow : Workflow) (configs : StepConfigs) :
    Except StepConfigError (Table Transformation) := do
  match (Table.keys configs).find? fun name => !Table.contains workflow.steps name with
  | some unknown => throw (.unknownStepConfig unknown)
  | none => pure ()
  workflow.steps.mapM fun (name, step) => do
    let raw ← match Table.get? configs name with
      | some raw => pure raw
      | none => throw (.missingStepConfig name)
    match Transformation.fromParts step.transformation raw with
    | .ok transformation => pure (name, transformation)
    | .error error => throw (.invalidStepConfig name error)

end Workflow

end Recast
