import Recast.Transform.Registry
import Recast.Data.Conformance
/-!
Running a transformation with its guarantees.

A `Handler` is built for one transformation and one input model. Building it decides everything
that depends on the model alone: the input model must be well formed, the transformation's
assumptions must hold, and the output model it produces must be well formed too. The handler
then transforms any number of data packs: each must conform to the input model, and its result
must conform to the output model.
-/

namespace Recast

/-- Why running a transformation failed, attributed to one stage. -/
inductive TransformError where
  /-- The input model is not well formed, or does not meet the assumptions. -/
  | assumption (error : AssumptionError)
  /-- The output model could not be produced, or is not well formed. -/
  | reshape (error : ReshapeError)
  /-- The input data does not conform to the input model. -/
  | inputData (violation : Violation)
  /-- The data stage hit a condition the check should have excluded. -/
  | fault (fault : DataFault)
  /-- The output data does not conform to the output model. -/
  | outputData (violation : Violation)
  deriving Inhabited

/-- The text of a transformation error. -/
def TransformError.message : TransformError → String
  | .assumption error => error.message
  | .reshape error => error.message
  | .inputData violation =>
    "Input data failed validation against the input model: " ++ violation.message
  | .fault problem => problem.text
  | .outputData violation =>
    "Transformed data failed validation against the transformed model: " ++ violation.message

/-- A transformation ready to run against data of one input model. -/
structure Handler where
  transformation : Transformation
  input : ModelValidator
  output : ModelValidator

namespace Handler

/-- Builds a handler: input model, assumptions, output model, in that order. -/
def new (transformation : Transformation) (model : SchemaPack) : Except TransformError Handler := do
  let input ← match ModelValidator.new model with
    | .ok validator => pure validator
    | .error error => throw (.assumption (.invalidModel error))
  match transformation.check model with
  | .ok () => pure ()
  | .error error => throw (.assumption error)
  let outputModel ← match transformation.reshapeModel model with
    | .ok outputModel => pure outputModel
    | .error error => throw (.reshape error)
  let output ← match ModelValidator.new outputModel with
    | .ok validator => pure validator
    | .error error => throw (.reshape (.invalidOutputModel error))
  pure ⟨transformation, input, output⟩

/-- The input model. -/
def inputModel (handler : Handler) : SchemaPack := handler.input.model

/-- The output model. -/
def outputModel (handler : Handler) : SchemaPack := handler.output.model

/-- Transforms a data pack: it must conform before, and its result after. -/
def run (handler : Handler) (data : DataPack) : Except TransformError DataPack := do
  match handler.input.check data with
  | .ok () => pure ()
  | .error violation => throw (.inputData violation)
  let transformed ← match handler.transformation.reshapeData data handler.outputModel with
    | .ok transformed => pure transformed
    | .error problem => throw (.fault problem)
  match handler.output.check transformed with
  | .ok () => pure transformed
  | .error violation => throw (.outputData violation)

end Handler

end Recast
