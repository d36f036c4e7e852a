import Recast.Workflow.Graph
import Recast.Transform.Handler
/-!
Preparing and running a workflow.

Preparing a workflow against an input model checks its definition, reads its step
configurations, and builds a transformation `Handler` for every step in order, each against the
output model of its input step (the root against the input model), so that every failure that
depends on models alone appears before any data is touched. Running it feeds a data pack through
the steps in order, each step taking its input step's output; the first failing step stops the
run. The result is the output of every artifact's step.
-/

namespace Recast

/-- Why preparing or running a workflow failed. -/
inductive WorkflowError where
  | definition (error : DefinitionError)
  | config (error : StepConfigError)
  | step (step : String) (error : TransformError)
  deriving Inhabited

/-- The text of a workflow error. -/
def WorkflowError.message : WorkflowError → String
  | .definition error => error.message
  | .config error => error.message
  | .step name error => "Step '" ++ name ++ "' failed: " ++ error.message

/-- A workflow prepared against an input model: a handler for every step. -/
structure Runner where
  workflow : Workflow
  graph : StepGraph
  handlers : Table Handler

namespace Runner

/-- Builds the handlers of the steps in order, each against its input step's output model. Each
step takes its transformation out of those not taken yet. -/
def buildHandlers (graph : StepGraph) (model : SchemaPack) :
    List Nat → Table Transformation → Table Handler → Except WorkflowError (Table Handler)
  | [], _, built => .ok built
  | node :: rest, remaining, built => do
    let step := graph.name node
    let input ← match graph.input node with
      | none => pure model
      | some producer =>
        match Table.get? built (graph.name producer) with
        | some handler => pure handler.outputModel
        | none => throw (.definition (.cycle step))
    let transformation ← match Table.get? remaining step with
      | some transformation => pure transformation
      | none => throw (.config (.missingStepConfig step))
    let handler ← match Handler.new transformation input with
      | .ok handler => pure handler
      | .error error => throw (.step step error)
    buildHandlers graph model rest (Table.erase remaining step) (Table.insert built step handler)

/-- Prepares a workflow against an input model. -/
def new (workflow : Workflow) (configs : StepConfigs) (model : SchemaPack) :
    Except WorkflowError Runner := do
  let graph ← match StepGraph.build workflow with
    | .ok graph => pure graph
    | .error error => throw (.definition error)
  let transformations ← match workflow.readConfigs configs with
    | .ok transformations => pure transformations
    | .error error => throw (.config error)
  let handlers ← buildHandlers graph model graph.order transformations []
  pure ⟨workflow, graph, handlers⟩

/-- The handler of a step. -/
def handler? (runner : Runner) (step : String) : Option Handler :=
  Table.get? runner.handlers step

/-- The step names in the order they run. -/
def order (runner : Runner) : List String :=
  runner.graph.stepNames

/-- The output model of every artifact, in artifact order. -/
def artifactModels (runner : Runner) : Table SchemaPack :=
  runner.workflow.artifacts.filterMap fun (artifact, step) =>
    (runner.handler? step).map fun handler => (artifact, handler.outputModel)

/-- Runs the steps in order, collecting every step's output. -/
def runSteps (runner : Runner) (data : DataPack) : List Nat → Table DataPack →
    Except WorkflowError (Table DataPack)
  | [], outputs => .ok outputs
  | node :: rest, outputs => do
    let step := runner.graph.name node
    let input ← match runner.graph.input node with
      | none => pure data
      | some producer =>
        match Table.get? outputs (runner.graph.name producer) with
        | some output => pure output
        | none => throw (.definition (.cycle step))
    let handler ← match runner.handler? step with
      | some handler => pure handler
      | none => throw (.config (.missingStepConfig step))
    let output ← match handler.run input with
      | .ok output => pure output
      | .error error => throw (.step step error)
    runSteps runner data rest (Table.insert outputs step output)

/-- Runs the workflow on a data pack: the data of every artifact, in artifact order. -/
def run (runner : Runner) (data : DataPack) : Except WorkflowError (Table DataPack) := do
  let outputs ← runner.runSteps data runner.graph.order []
  pure (runner.workflow.artifacts.filterMap fun (artifact, step) =>
    (Table.get? outputs step).map fun output => (artifact, output))

end Runner

end Recast
