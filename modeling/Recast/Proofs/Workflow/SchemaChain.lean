import Recast.Proofs.Workflow.Refinement
import Recast.Proofs.Transform.RelationEdits
/-!
Every pack a workflow produces is checked against one chain of models.

Preparing a workflow builds each step's handler against the output model of its input step's
handler, and a handler validates its input against its own copy of that model. The copy is made
by the same preparation of the same model as the producer's output validator, so it is the very
same validator: data that passed the producer's check after its transformation passes the
consumer's check before its own. A run can therefore only fail input validation at the root,
whose input is the workflow's data pack, checked against the workflow's input model. At the other
end, each artifact is the output of its step's handler, which has checked it against its output
model, the model the workflow reports for that artifact.

Main statement: `run_checked_along_model_chain`.
-/

namespace Recast

namespace Handler

variable {handler : Handler} {data : DataPack}

/-- A run fails input validation exactly when the input validator refuses the data, with the
same violation: past the input check, only the data stage and the output check can fail. -/
theorem run_eq_error_inputData {violation : Violation} :
    handler.run data = .error (.inputData violation) ↔
      handler.input.check data = .error violation := by
  unfold Handler.run
  cases accepted : handler.input.check data with
  | error refused => simp [throw, throwThe, MonadExceptOf.throw, bind, Except.bind]
  | ok done =>
    simp only [pure_bind, reduceCtorEq, iff_false]
    cases handler.transformation.reshapeData data handler.outputModel with
    | error fault => simp [throw, throwThe, MonadExceptOf.throw, bind, Except.bind]
    | ok transformed =>
      cases checked : handler.output.check transformed <;>
        simp [checked, throw, throwThe, MonadExceptOf.throw, pure, Except.pure]

/-- A run that succeeds has checked its result against the output model. -/
theorem output_check_of_run_eq_ok {output : DataPack} (ran : handler.run data = .ok output) :
    handler.output.check output = .ok () :=
  (run_eq_ok.mp ran).2.2

end Handler

namespace Runner

variable {runner : Runner} {configs : StepConfigs} {model : SchemaPack} {data : DataPack}

/-- What a step yields is what its handler makes of some input, and the step is declared. -/
theorem Yields.inv {name : String} {result : Except TransformError DataPack}
    (yields : runner.Yields data name result) :
    ∃ step handler input, Table.get? runner.workflow.steps name = some step ∧
      runner.handler? name = some handler ∧ handler.run input = result := by
  cases yields with
  | root declared _ prepared => exact ⟨_, _, data, declared, prepared, rfl⟩
  | fed declared _ _ prepared => exact ⟨_, _, _, declared, prepared, rfl⟩

/-- In a prepared workflow, a step that yields an output has a handler whose output validator
is the preparation of its output model, and that validator accepts the output. -/
theorem output_checked_of_yields (builtFrom : runner.BuiltFrom configs model) {name : String}
    {output : DataPack} (yields : runner.Yields data name (.ok output)) :
    ∃ handler, runner.handler? name = some handler ∧
      ModelValidator.new handler.outputModel = .ok handler.output ∧
        handler.output.check output = .ok () := by
  obtain ⟨step, handler, input, declared, prepared, ran⟩ := Yields.inv yields
  obtain ⟨_, _, _, made, _, _, _, found, madeOk⟩ := builtFrom name step declared
  rw [prepared, Option.some.injEq] at found
  subst found
  exact ⟨handler, prepared, (Handler.new_eq_ok madeOk).2.2.2.2,
    Handler.output_check_of_run_eq_ok ran⟩

/-- In a prepared workflow, a step fed by another checks its input with the very validator its
input step checked its output with: both are prepared from the input step's output model. -/
theorem input_eq_output_of_feeds (builtFrom : runner.BuiltFrom configs model) {name producer : String}
    {step : Step} {handler before : Handler}
    (declared : Table.get? runner.workflow.steps name = some step)
    (feeds : step.input = some producer) (prepared : runner.handler? name = some handler)
    (producerPrepared : runner.handler? producer = some before)
    (producerOutput : ModelValidator.new before.outputModel = .ok before.output) :
    handler.input = before.output := by
  obtain ⟨_, _, input, made, _, _, modelled, found, madeOk⟩ := builtFrom name step declared
  rw [prepared, Option.some.injEq] at found
  subst found
  simp only [inputModel, feeds, producerPrepared, Option.map_some, Option.some.injEq] at modelled
  subst modelled
  have inputBuilt := (Handler.new_eq_ok madeOk).2.1
  rw [producerOutput, Except.ok.injEq] at inputBuilt
  exact inputBuilt.symm

/-- In a prepared workflow, a step that fails input validation is the root, and the violation is
the input model's verdict on the workflow's data pack: the input of any other step passed its input
step's output check, which is the same check. -/
theorem root_of_yields_inputData (builtFrom : runner.BuiltFrom configs model) {name : String}
    {violation : Violation} (yields : runner.Yields data name (.error (.inputData violation))) :
    (∃ step, Table.get? runner.workflow.steps name = some step ∧ step.input = none) ∧
      ∃ validator, ModelValidator.new model = .ok validator ∧
        validator.check data = .error violation := by
  generalize outcome : (Except.error (.inputData violation) : Except TransformError DataPack) =
    result at yields
  cases yields with
  | root declared first prepared =>
    have refused := outcome.symm
    obtain ⟨_, _, input, made, _, _, modelled, found, madeOk⟩ := builtFrom name _ declared
    rw [prepared, Option.some.injEq] at found
    subst found
    simp only [inputModel, first, Option.some.injEq] at modelled
    subst modelled
    exact ⟨⟨_, declared, first⟩, _, (Handler.new_eq_ok madeOk).2.1,
      Handler.run_eq_error_inputData.mp refused⟩
  | fed declared feeds produced prepared =>
    have refused := outcome.symm
    obtain ⟨before, producerPrepared, producerOutput, passed⟩ :=
      output_checked_of_yields builtFrom produced
    have same := input_eq_output_of_feeds builtFrom declared feeds prepared producerPrepared
      producerOutput
    have refusedHere := Handler.run_eq_error_inputData.mp refused
    rw [same, passed] at refusedHere
    cases refusedHere

/-- Each artifact's model is the output model of its step's handler, so when every artifact's
step has yielded an output, the artifact models and the outputs pair up in order, each output
accepted by the preparation of its model. -/
theorem forall₂_artifactModels (builtFrom : runner.BuiltFrom configs model) :
    ∀ {exposed : Table String} {artifacts : Table DataPack},
      List.Forall₂ (fun exposed produced =>
        produced.1 = exposed.1 ∧ runner.Yields data exposed.2 (.ok produced.2)) exposed artifacts →
      List.Forall₂ (fun modelled produced => modelled.1 = produced.1 ∧
        ∃ validator, ModelValidator.new modelled.2 = .ok validator ∧
          validator.check produced.2 = .ok ())
        (exposed.filterMap fun (artifact, step) =>
          (runner.handler? step).map fun handler => (artifact, handler.outputModel))
        artifacts := by
  intro exposed artifacts paired
  induction paired with
  | nil => exact List.Forall₂.nil
  | @cons entry produced rest producedRest head _ inductionHypothesis =>
    obtain ⟨artifact, step⟩ := entry
    obtain ⟨named, yields⟩ := head
    dsimp only at named yields
    obtain ⟨handler, prepared, outputBuilt, passed⟩ := output_checked_of_yields builtFrom yields
    simp only [List.filterMap_cons, prepared, Option.map_some]
    exact List.Forall₂.cons ⟨named.symm, handler.output, outputBuilt, passed⟩ inductionHypothesis

/-- Every intermediate pack of a run is checked against one consistent chain of models. A run
that fails input validation fails it at the root step, the step without input, and with the
input model's verdict on the workflow's data pack: a later step's input model is its input
step's output model, against which the same pack has just passed. A run that finishes puts out
its artifacts in the order and under the names of the artifact models, each accepted by the
preparation of its model. Step names are distinct, as in every workflow read from its
definition (`keyed_of_ofText`). -/
theorem run_checked_along_model_chain {workflow : Workflow}
    (built : Runner.new workflow configs model = .ok runner)
    (distinct : (Table.keys workflow.steps).Nodup) (data : DataPack) :
    (∀ name violation, runner.run data = .error (.step name (.inputData violation)) →
      (∃ step, Table.get? workflow.steps name = some step ∧ step.input = none) ∧
        ∃ validator, ModelValidator.new model = .ok validator ∧
          validator.check data = .error violation) ∧
    ∀ artifacts, runner.run data = .ok artifacts →
      List.Forall₂ (fun modelled produced => modelled.1 = produced.1 ∧
          ∃ validator, ModelValidator.new modelled.2 = .ok validator ∧
            validator.check produced.2 = .ok ())
        runner.artifactModels artifacts := by
  obtain ⟨same, faithful, _, _, allPrepared⟩ := new_prepared built distinct
  have builtFrom := builtFrom_of_new built distinct
  subst same
  have prepared : ∀ node ∈ runner.graph.order,
      ∃ handler, runner.handler? (runner.graph.name node) = some handler := by
    intro node member
    obtain ⟨-, handler, -, -, found, -⟩ := allPrepared node member
    exact ⟨handler, found⟩
  refine ⟨fun name violation ran => ?_, fun artifacts ran => ?_⟩
  · obtain ⟨failing, error, named, yields⟩ :=
      exists_failing_of_run_eq_error faithful distinct prepared ran
    simp only [WorkflowError.step.injEq] at named
    obtain ⟨rfl, rfl⟩ := named
    exact root_of_yields_inputData builtFrom yields
  · exact forall₂_artifactModels builtFrom (forall₂_of_run_eq_ok faithful distinct prepared ran)

/-- A two-step cleanup of the samples' relations is prepared, and every run of it is checked
along its chain of models. -/
theorem sampleCleanup_checked_along_model_chain :
    let anything : Json := .obj [("$schema", .str "http://json-schema.org/draft-04/schema#")]
    let files : RelationSpec := { targetClass := "File", multiple := ⟨false, true⟩ }
    let model : SchemaPack :=
      { classes := [
          ("Sample",
            { id := { propertyName := "id" }, content := anything,
              relations := [("files", files)] }),
          ("File", { id := { propertyName := "id" }, content := anything })] }
    let workflow : Workflow :=
      { steps := [("check", { transformation := "delete_relations" }),
          ("unlink", { transformation := "delete_relations", input := some "check" })],
        artifacts := [("unlinked", "unlink")] }
    let configs : StepConfigs :=
      [("check", .obj [("class_name", .str "Sample"), ("relation_names", .arr [])]),
        ("unlink", .obj [("class_name", .str "Sample"), ("relation_names", .arr [.str "files"])])]
    ∃ runner, Runner.new workflow configs model = .ok runner ∧ (Table.keys workflow.steps).Nodup ∧
      ∀ data,
        (∀ name violation, runner.run data = .error (.step name (.inputData violation)) →
          (∃ step, Table.get? workflow.steps name = some step ∧ step.input = none) ∧
            ∃ validator, ModelValidator.new model = .ok validator ∧
              validator.check data = .error violation) ∧
        ∀ artifacts, runner.run data = .ok artifacts →
          List.Forall₂ (fun modelled produced => modelled.1 = produced.1 ∧
              ∃ validator, ModelValidator.new modelled.2 = .ok validator ∧
                validator.check produced.2 = .ok ())
            runner.artifactModels artifacts := by
  intro anything files model workflow configs
  obtain ⟨runner, built⟩ := Except.exists_eq_ok_of_isOk
    (show (Runner.new workflow configs model).isOk = true by decide +kernel)
  have distinct : (Table.keys workflow.steps).Nodup := by decide
  exact ⟨runner, built, distinct, run_checked_along_model_chain built distinct⟩

end Runner

end Recast
