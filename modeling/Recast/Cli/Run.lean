import Recast.Cli.Args
import Recast.Files.Document
import Recast.Workflow.Runner
import Recast.Schema.Codec
import Recast.Data.Codec
/-!
Running the workflow tool.

The tool loads the workflow definition, its step configurations, the input model and the input
data, in that order; prepares the workflow and runs it; makes the output directory; and writes,
for every artifact in order, `<artifact>.model.json` and `<artifact>.data.json` into it.

The first failure ends the run with status 1. It is reported on the error stream as
`Error: <message>`, after an empty line, followed by one `caused by:` line for each underlying
error in turn. Usage errors end it with status 2, help and version with status 0.
-/

namespace Recast

namespace Cli

/-- Why a run failed, by stage. -/
inductive Failure where
  | load (error : FileError)
  | workflow (error : WorkflowError)
  | outputDir (error : OsError)
  | save (error : FileError)

/-- The errors underneath a transformation error, outermost first. -/
def transformCauses : TransformError → List String
  | .assumption (.invalidModel error) => [error.message]
  | .reshape (.invalidOutputModel error) => [error.message]
  | .inputData violation => [violation.message]
  | .outputData violation => [violation.message]
  | _ => []

/-- The errors underneath a workflow error, outermost first. -/
def workflowCauses : WorkflowError → List String
  | .config (.invalidStepConfig _ error) => [error.message]
  | .step _ error => error.message :: transformCauses error
  | _ => []

namespace Failure

/-- The message of a failure and the messages of the errors underneath it. -/
def chain : Failure → String × List String
  | .load error => (error.message, [error.reason])
  | .save error => (error.message, [error.reason])
  | .workflow error => (error.message, workflowCauses error)
  | .outputDir error => (error.text, [])

/-- The report of a failure on the error stream. -/
def report (failure : Failure) : String :=
  let (message, causes) := failure.chain
  "\nError: " ++ message ++ "\n" ++ String.join (causes.map fun cause => "  caused by: " ++ cause ++ "\n")

end Failure

/-- The path of a file in a directory. -/
def joinPath (directory name : String) : String :=
  if directory.isEmpty then name
  else if directory.endsWith "/" then directory ++ name
  else directory ++ "/" ++ name

/-- Turns a failed step's result into the run's failure. -/
def orFail {m : Type → Type} {ε α : Type} [Monad m] (wrap : ε → Failure) (result : Except ε α) :
    ExceptT Failure m α :=
  match result with
  | .ok value => pure value
  | .error error => throw (wrap error)

/-- Runs the tool with its options. -/
def execute {m : Type → Type} [Monad m] [FileSystem m] (options : Options) :
    ExceptT Failure m Unit := do
  let workflow ← orFail .load (← ExceptT.lift (loadDocument (m := m) Workflow.decode options.workflow))
  let configs ← orFail .load (← ExceptT.lift
    (loadDocument (m := m) (Json.Decoder.table Json.Decoder.json) options.config))
  let model ← orFail .load (← ExceptT.lift (loadDocument (m := m) SchemaPack.decode options.model))
  let data ← orFail .load (← ExceptT.lift (loadDocument (m := m) DataPack.decode options.data))
  let runner ← orFail .workflow (Runner.new workflow configs model)
  let artifacts ← orFail .workflow (runner.run data)
  let models := runner.artifactModels
  orFail .outputDir (← ExceptT.lift (FileSystem.createDirAll (m := m) options.outputDir))
  artifacts.forM fun (artifact, output) => do
    match Table.get? models artifact with
    | some artifactModel =>
      orFail .save (← ExceptT.lift (saveDocument (m := m) artifactModel.toJson
        (joinPath options.outputDir (artifact ++ ".model.json"))))
    | none => pure ()
    orFail .save (← ExceptT.lift (saveDocument (m := m) output.toJson
      (joinPath options.outputDir (artifact ++ ".data.json"))))

/-- What a run of the tool shows: its status and its two output streams. -/
structure Outcome where
  status : Nat
  stdout : String
  stderr : String
  deriving DecidableEq, Inhabited, Repr

/-- Runs the tool on a command line. -/
def main {m : Type → Type} [Monad m] [FileSystem m] (arguments : List String) : m Outcome := do
  match parseArgs arguments with
  | .help => pure ⟨0, helpText, ""⟩
  | .version => pure ⟨0, toolName ++ " " ++ version ++ "\n", ""⟩
  | .misuse text => pure ⟨2, "", text⟩
  | .run options =>
    match ← (execute options).run with
    | .ok () => pure ⟨0, "", ""⟩
    | .error failure => pure ⟨1, "", failure.report⟩

end Cli

end Recast
