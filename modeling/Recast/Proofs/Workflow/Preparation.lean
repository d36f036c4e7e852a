import Recast.Proofs.Workflow.Refinement
/-!
Preparing a workflow reports its first problem, in a fixed precedence.

Preparing runs three stages and stops at the first that fails: building the step graph, reading
the step configurations, and building the step handlers along the order of the graph. Each stage
reports the first problem in an order of its own. The checks of the definition come in the order
`StepGraph.build` makes them. A configuration for no step is reported first, in configuration
order; then a step without a configuration that reads, in declaration order
(`Workflow.ConfigFailsFirst`). Last comes a step whose handler cannot be built, in the order of the
graph (`Workflow.FirstUnprepared`).

The third stage takes each step's transformation out of the table of those read as it builds the
step's handler, and has two fallbacks of its own, a cycle when a step's input step has no handler
yet and a missing configuration when a step finds none left. Neither is ever taken: the order lists
every step once with its input step before it, so the model a step is built against is at hand, and
the configurations were read for every step, under distinct names, so no step takes another's.
Once the last step is built the table is empty (`Runner.new_takes_every_transformation`). So a definition error depends on the definition alone, a
configuration error on the definition and the configurations alone, and what the third stage
reports is what preparing each step gives by recursion over the step tree (`Workflow.Prepares`),
whatever order the graph chose among independent steps.

Main statement: `Runner.new_reports_first_failure`.
-/

namespace Recast

namespace Workflow

variable {workflow : Workflow} {configs : StepConfigs} {model : SchemaPack}

/-! ### Reading the configurations -/

/-- A step that has a configuration, and it reads for the step's transformation. -/
def Configured (configs : StepConfigs) (entry : String × Step) : Prop :=
  ∃ raw transformation, Table.get? configs entry.1 = some raw ∧
    Transformation.fromParts entry.2.transformation raw = .ok transformation

/-- A step that has no configuration, or one that does not read for its transformation, with the
error that reading it reports. -/
def Misconfigured (configs : StepConfigs) (entry : String × Step) (error : StepConfigError) : Prop :=
  Table.get? configs entry.1 = none ∧ error = .missingStepConfig entry.1 ∨
    ∃ raw problem, Table.get? configs entry.1 = some raw ∧
      Transformation.fromParts entry.2.transformation raw = .error problem ∧
      error = .invalidStepConfig entry.1 problem

/-- The first problem in reading the configurations of a workflow: the first configuration, in
configuration order, that names no step; when every configuration names a step, the first step,
in declaration order, without a configuration that reads. -/
inductive ConfigFailsFirst (workflow : Workflow) (configs : StepConfigs) : StepConfigError → Prop
  | unknownStep {pre post : List String} {name : String}
      (split : Table.keys configs = pre ++ name :: post)
      (unknown : name ∉ Table.keys workflow.steps)
      (known : ∀ other ∈ pre, other ∈ Table.keys workflow.steps) :
      ConfigFailsFirst workflow configs (.unknownStepConfig name)
  | unconfiguredStep {pre post : Table Step} {entry : String × Step} {error : StepConfigError}
      (known : ∀ other ∈ Table.keys configs, other ∈ Table.keys workflow.steps)
      (split : workflow.steps = pre ++ entry :: post)
      (earlier : ∀ other ∈ pre, Configured configs other)
      (misconfigured : Misconfigured configs entry error) :
      ConfigFailsFirst workflow configs error

/-- Whether a configuration names a step, as the search for one that does not reads it. -/
theorem contains_steps_eq_false_iff {name : String} :
    (!Table.contains workflow.steps name) = true ↔ name ∉ Table.keys workflow.steps := by
  rw [← Table.contains_eq_true_iff]
  simp

/-- Reading the configurations fails with the first problem, in configuration order and then in
declaration order: a configuration that names no step is found first, and once every configuration
names a step, reading stops at the first step without a usable one. -/
theorem readConfigs_eq_error_iff {error : StepConfigError} :
    workflow.readConfigs configs = .error error ↔ workflow.ConfigFailsFirst configs error := by
  unfold readConfigs
  split
  · next unknown found =>
    obtain ⟨outside, pre, post, split, inside⟩ := List.find?_eq_some_iff_append.mp found
    have unknownStep := contains_steps_eq_false_iff.mp outside
    have known : ∀ other ∈ pre, other ∈ Table.keys workflow.steps := fun other member =>
      Decidable.of_not_not (mt contains_steps_eq_false_iff.mpr (by simpa using inside other member))
    simp only [throw, throwThe, MonadExceptOf.throw, bind, Except.bind, Except.error.injEq]
    constructor
    · rintro rfl
      exact .unknownStep split unknownStep known
    · intro failing
      cases failing with
      | @unknownStep otherPre otherPost other otherSplit otherUnknown otherKnown =>
        have again : (Table.keys configs).find? (fun name => !Table.contains workflow.steps name) =
            some other := List.find?_eq_some_iff_append.mpr
          ⟨contains_steps_eq_false_iff.mpr otherUnknown, otherPre, otherPost, otherSplit,
            fun earlier member => by
              simpa using (Table.contains_eq_true_iff _ _).mpr (otherKnown earlier member)⟩
        rw [found, Option.some.injEq] at again
        rw [again]
      | unconfiguredStep everyKnown =>
        exact absurd (everyKnown unknown (by simp [split])) unknownStep
  · next nothing =>
    have known : ∀ other ∈ Table.keys configs, other ∈ Table.keys workflow.steps :=
      fun other member => Decidable.of_not_not fun outside =>
        List.find?_eq_none.mp nothing other member (contains_steps_eq_false_iff.mpr outside)
    dsimp only
    refine (mapM_except_eq_error_iff (Configured configs) (Misconfigured configs)
      (fun entry => ?_) (fun entry failure => ?_)).trans ?_
    · obtain ⟨name, step⟩ := entry
      cases present : Table.get? configs name with
      | none =>
        simp [present, Configured, throw, throwThe, MonadExceptOf.throw, bind, Except.bind]
      | some raw =>
        cases read : Transformation.fromParts step.transformation raw <;>
          simp [present, read, Configured, throw, throwThe, MonadExceptOf.throw, bind, Except.bind,
            pure, Except.pure]
    · obtain ⟨name, step⟩ := entry
      cases present : Table.get? configs name with
      | none =>
        simp [present, Misconfigured, throw, throwThe, MonadExceptOf.throw, bind, Except.bind,
          eq_comm]
      | some raw =>
        cases read : Transformation.fromParts step.transformation raw <;>
          simp [present, read, Misconfigured, throw, throwThe, MonadExceptOf.throw, bind,
            Except.bind, pure, Except.pure, eq_comm]
    · constructor
      · rintro ⟨pre, entry, post, split, earlier, failed⟩
        exact .unconfiguredStep known split earlier failed
      · intro failing
        cases failing with
        | unknownStep split unknown => exact absurd (known _ (by simp [split])) unknown
        | unconfiguredStep _ split earlier failed => exact ⟨_, _, _, split, earlier, failed⟩

/-- A reading that succeeds met no configuration for a step the workflow does not have. -/
theorem mem_keys_steps_of_readConfigs {transformations : Table Transformation}
    (read : workflow.readConfigs configs = .ok transformations) {name : String}
    (member : name ∈ Table.keys configs) : name ∈ Table.keys workflow.steps := by
  unfold readConfigs at read
  split at read
  · simp [throw, throwThe, MonadExceptOf.throw, bind, Except.bind] at read
  · next nothing =>
    exact Decidable.of_not_not fun outside =>
      List.find?_eq_none.mp nothing name member (contains_steps_eq_false_iff.mpr outside)

/-! ### Preparing the steps -/

/-- What preparing a step gives, by recursion over the step tree: its transformation, read from its
configuration, built against the input model for the root and against the output model of its
input step's handler otherwise. A step whose input step fails gives nothing. -/
inductive Prepares (workflow : Workflow) (configs : StepConfigs) (model : SchemaPack) :
    String → Except TransformError Handler → Prop
  /-- The root is built against the input model. -/
  | root {name : String} {step : Step} {raw : Json} {transformation : Transformation}
      (declared : Table.get? workflow.steps name = some step) (first : step.input = none)
      (configured : Table.get? configs name = some raw)
      (read : Transformation.fromParts step.transformation raw = .ok transformation) :
      Prepares workflow configs model name (Handler.new transformation model)
  /-- Any other step is built against the output model of its input step's handler. -/
  | fed {name producer : String} {step : Step} {raw : Json} {transformation : Transformation}
      {before : Handler}
      (declared : Table.get? workflow.steps name = some step) (feeds : step.input = some producer)
      (produced : Prepares workflow configs model producer (.ok before))
      (configured : Table.get? configs name = some raw)
      (read : Transformation.fromParts step.transformation raw = .ok transformation) :
      Prepares workflow configs model name (Handler.new transformation before.outputModel)

/-- A step's configuration reads as one transformation. -/
theorem transformation_eq_of_read {name : String} {step : Step} {raw other : Json}
    {transformation again : Transformation} (configured : Table.get? configs name = some raw)
    (read : Transformation.fromParts step.transformation raw = .ok transformation)
    (reconfigured : Table.get? configs name = some other)
    (reread : Transformation.fromParts step.transformation other = .ok again) :
    again = transformation := by
  rw [configured, Option.some.injEq] at reconfigured
  subst reconfigured
  rw [read, Except.ok.injEq] at reread
  exact reread.symm

/-- Preparing a step gives one result. -/
theorem Prepares.functional {name : String} {first second : Except TransformError Handler}
    (prepares : workflow.Prepares configs model name first)
    (again : workflow.Prepares configs model name second) : first = second := by
  induction prepares generalizing second with
  | root declared isRoot configured read =>
    cases again with
    | root otherDeclared _ otherConfigured otherRead =>
      rw [declared, Option.some.injEq] at otherDeclared
      subst otherDeclared
      rw [transformation_eq_of_read configured read otherConfigured otherRead]
    | fed otherDeclared otherFeeds =>
      rw [declared, Option.some.injEq] at otherDeclared
      subst otherDeclared
      rw [isRoot] at otherFeeds
      cases otherFeeds
  | fed declared feeds _ configured read inductionHypothesis =>
    cases again with
    | root otherDeclared otherFirst =>
      rw [declared, Option.some.injEq] at otherDeclared
      subst otherDeclared
      rw [feeds] at otherFirst
      cases otherFirst
    | fed otherDeclared otherFeeds otherProduced otherConfigured otherRead =>
      rw [declared, Option.some.injEq] at otherDeclared
      subst otherDeclared
      rw [feeds, Option.some.injEq] at otherFeeds
      subst otherFeeds
      cases inductionHypothesis otherProduced
      rw [transformation_eq_of_read configured read otherConfigured otherRead]

/-- The step `name` is the first, in the order of the graph, whose preparation fails, with
`error`: every step before it prepares. -/
def FirstUnprepared (workflow : Workflow) (configs : StepConfigs) (model : SchemaPack)
    (graph : StepGraph) (name : String) (error : TransformError) : Prop :=
  ∃ pre node post, graph.order = pre ++ node :: post ∧ graph.name node = name ∧
    workflow.Prepares configs model name (.error error) ∧
    ∀ other ∈ pre, ∃ handler, workflow.Prepares configs model (graph.name other) (.ok handler)

end Workflow

namespace Runner

variable {workflow : Workflow} {configs : StepConfigs} {model : SchemaPack} {graph : StepGraph}
  {transformations : Table Transformation}

/-- A node's entry in a table of handlers is what preparing its step gives. -/
def Resolved (workflow : Workflow) (configs : StepConfigs) (model : SchemaPack) (graph : StepGraph)
    (handlers : Table Handler) (node : Nat) : Prop :=
  ∃ handler, Table.get? handlers (graph.name node) = some handler ∧
    workflow.Prepares configs model (graph.name node) (.ok handler)

section Building

variable (faithful : StepGraph.Faithful workflow graph)
  (distinct : (Table.keys workflow.steps).Nodup)
  (read : workflow.readConfigs configs = .ok transformations)
include faithful distinct read

/-- The next node of the order, once the nodes before it are resolved, is built in one step of
preparing, against the model that makes its handler what preparing its step gives: the input
model for the root, the output model of its input step's handler otherwise. -/
theorem buildHandlers_next {done rest : List Nat} {node : Nat} {built : Table Handler}
    (split : graph.order = done ++ node :: rest)
    (resolved : ∀ node ∈ done, Resolved workflow configs model graph built node) :
    ∃ transformation input,
      buildHandlers graph model (node :: rest) (untaken graph transformations done) built =
        (match Handler.new transformation input with
        | .ok handler =>
          buildHandlers graph model rest (untaken graph transformations (done ++ [node]))
            (Table.insert built (graph.name node) handler)
        | .error error => .error (.step (graph.name node) error)) ∧
      workflow.Prepares configs model (graph.name node) (Handler.new transformation input) := by
  have member : node ∈ graph.order := by simp [split]
  obtain ⟨step, declared, inputOfStep⟩ := faithful.declared distinct member
  obtain ⟨transformation, found, raw, rawFound, fromRaw⟩ :=
    Workflow.readConfigs_get? read declared
  have configured := (get?_untaken (faithful.nodup_names distinct) split).trans found
  rw [← erase_untaken]
  cases inputNode : graph.input node with
  | none =>
    have first : step.input = none := by simpa [inputNode] using inputOfStep.symm
    exact ⟨transformation, model, buildHandlers_cons (Or.inl ⟨inputNode, rfl⟩) configured,
      .root declared first rawFound fromRaw⟩
  | some producer =>
    have earlier : producer ∈ done := faithful.inputsFirst done node rest split producer inputNode
    obtain ⟨before, found, produced⟩ := resolved producer earlier
    have feeds : step.input = some (graph.name producer) := by
      simpa [inputNode] using inputOfStep.symm
    exact ⟨transformation, before.outputModel,
      buildHandlers_cons (Or.inr ⟨producer, before, inputNode, found, rfl⟩) configured,
      .fed declared feeds produced rawFound fromRaw⟩

/-- Building the handlers of the nodes of the order that remain, with those before them resolved,
either resolves every node or stops at the first remaining node whose step fails to prepare, every
remaining node before it preparing. The fallbacks are never taken: the handler of a node's input
step is filed before the node is reached, and every node's step has a transformation. The
induction is on the remaining nodes: a node whose step fails is the first to fail, and a failure
later in the order comes after a node that prepares. -/
theorem buildHandlers_outcome : ∀ {rest done : List Nat} {built : Table Handler},
    graph.order = done ++ rest → (∀ node ∈ done, Resolved workflow configs model graph built node) →
    (∀ result, buildHandlers graph model rest (untaken graph transformations done) built =
      .ok result → ∀ node ∈ graph.order, Resolved workflow configs model graph result node) ∧
    ∀ failure, buildHandlers graph model rest (untaken graph transformations done) built =
      .error failure ↔
      ∃ pre node post, rest = pre ++ node :: post ∧
        (∀ other ∈ pre, ∃ handler, workflow.Prepares configs model (graph.name other) (.ok handler)) ∧
        ∃ error, failure = .step (graph.name node) error ∧
          workflow.Prepares configs model (graph.name node) (.error error) := by
  intro rest
  induction rest with
  | nil =>
    intro done built split resolved
    refine ⟨?_, ?_⟩
    · intro result run
      simp only [buildHandlers, Except.ok.injEq] at run
      subst run
      simpa [split] using resolved
    · intro failure
      simp [buildHandlers]
  | cons node rest inductionHypothesis =>
    intro done built split resolved
    obtain ⟨transformation, input, stepped, prepares⟩ :=
      buildHandlers_next faithful distinct read split resolved
    rw [stepped]
    cases made : Handler.new transformation input with
    | error error =>
      rw [made] at prepares
      refine ⟨by simp, fun failure => ?_⟩
      rw [Except.error.injEq, exists_first_failing_cons_iff]
      constructor
      · rintro rfl
        exact Or.inl ⟨error, rfl, prepares⟩
      · rintro (⟨other, rfl, failed⟩ | ⟨⟨handler, succeeded⟩, -⟩)
        · cases prepares.functional failed
          rfl
        · cases prepares.functional succeeded
    | ok handler =>
      rw [made] at prepares
      simp only
      have moved : graph.order = (done ++ [node]) ++ rest := by simp [split]
      have resolvedMoved : ∀ other ∈ done ++ [node],
          Resolved workflow configs model graph (Table.insert built (graph.name node) handler) other := by
        intro other otherMember
        rcases List.mem_append.mp otherMember with earlier | here
        · obtain ⟨stored, found, produced⟩ := resolved other earlier
          have differ := name_ne_of_split (faithful.nodup_names distinct) split (Or.inl earlier)
          exact ⟨stored, (Table.get?_insert_of_ne built handler differ).trans found, produced⟩
        · rw [List.mem_singleton.mp here]
          exact ⟨handler, Table.get?_insert_self built _ handler, prepares⟩
      obtain ⟨finished, failed⟩ := inductionHypothesis moved resolvedMoved
      refine ⟨finished, fun failure => (failed failure).trans ?_⟩
      rw [exists_first_failing_cons_iff]
      constructor
      · intro later
        exact Or.inr ⟨⟨handler, prepares⟩, later⟩
      · rintro (⟨error, -, failedHere⟩ | ⟨-, later⟩)
        · cases prepares.functional failedHere
        · exact later

/-- Building the handlers along the whole order fails exactly at the first step that fails to
prepare. -/
theorem buildHandlers_eq_error_iff {failure : WorkflowError} :
    buildHandlers graph model graph.order transformations [] = .error failure ↔
      ∃ name error, failure = .step name error ∧
        workflow.FirstUnprepared configs model graph name error := by
  rw [← untaken_nil graph transformations,
    (buildHandlers_outcome faithful distinct read (List.nil_append _).symm (by simp)).2 failure]
  constructor
  · rintro ⟨pre, node, post, split, earlier, error, rfl, failed⟩
    exact ⟨_, error, rfl, pre, node, post, split, rfl, failed, earlier⟩
  · rintro ⟨name, error, rfl, pre, node, post, split, rfl, failed, earlier⟩
    exact ⟨pre, node, post, split, earlier, error, rfl, failed⟩

/-- Building the handlers along the whole order that succeeds resolves every step. -/
theorem resolved_of_buildHandlers {handlers : Table Handler}
    (built : buildHandlers graph model graph.order transformations [] = .ok handlers) :
    ∀ name ∈ Table.keys workflow.steps, ∃ handler, Table.get? handlers name = some handler ∧
      workflow.Prepares configs model name (.ok handler) := by
  intro name declared
  obtain ⟨node, member, rfl⟩ := faithful.exists_node declared
  exact (buildHandlers_outcome faithful distinct read (List.nil_append _).symm (by simp)).1
    handlers built node member

end Building

/-- Preparing takes every transformation it read: the steps of the order, each taking its own
out of the table, leave it empty once the last one is built. -/
theorem new_takes_every_transformation {runner : Runner}
    (prepared : Runner.new workflow configs model = .ok runner) :
    ∃ transformations, workflow.readConfigs configs = .ok transformations ∧
      untaken runner.graph transformations runner.graph.order = [] := by
  obtain ⟨rfl, built, transformations, read, -⟩ := new_eq_ok prepared
  refine ⟨transformations, read, Table.foldl_erase_eq_nil fun name filed => ?_⟩
  rw [Workflow.keys_readConfigs read] at filed
  obtain ⟨node, member, rfl⟩ := (StepGraph.build_faithful built).exists_node filed
  exact List.mem_map_of_mem member


/-- Preparing fails at the graph, at the configurations, or at the handlers, in that order. -/
theorem new_eq_error_iff {failure : WorkflowError} :
    Runner.new workflow configs model = .error failure ↔
      (∃ error, StepGraph.build workflow = .error error ∧ failure = .definition error) ∨
      (∃ graph error, StepGraph.build workflow = .ok graph ∧
        workflow.readConfigs configs = .error error ∧ failure = .config error) ∨
      ∃ graph transformations, StepGraph.build workflow = .ok graph ∧
        workflow.readConfigs configs = .ok transformations ∧
        buildHandlers graph model graph.order transformations [] = .error failure := by
  rw [new]
  cases built : StepGraph.build workflow with
  | error error =>
    simp [throw, throwThe, MonadExceptOf.throw, bind, Except.bind, eq_comm]
  | ok graph =>
    cases read : workflow.readConfigs configs with
    | error error =>
      simp [throw, throwThe, MonadExceptOf.throw, bind, Except.bind, pure, Except.pure, eq_comm]
    | ok transformations =>
      cases handlers : buildHandlers graph model graph.order transformations [] <;>
        simp [handlers, bind, Except.bind, pure, Except.pure]

/-- Preparing fails at the graph, at the configurations, or at the first step, in the order of the
graph, whose handler cannot be built. -/
theorem new_eq_error_iff_first (distinct : (Table.keys workflow.steps).Nodup)
    {failure : WorkflowError} :
    Runner.new workflow configs model = .error failure ↔
      (∃ error, StepGraph.build workflow = .error error ∧ failure = .definition error) ∨
      (∃ graph error, StepGraph.build workflow = .ok graph ∧
        workflow.readConfigs configs = .error error ∧ failure = .config error) ∨
      ∃ graph name error, StepGraph.build workflow = .ok graph ∧
        (∃ transformations, workflow.readConfigs configs = .ok transformations) ∧
        failure = .step name error ∧ workflow.FirstUnprepared configs model graph name error := by
  rw [new_eq_error_iff]
  refine or_congr_right (or_congr_right ⟨?_, ?_⟩)
  · rintro ⟨graph, transformations, built, read, run⟩
    obtain ⟨name, error, rfl, first⟩ :=
      (buildHandlers_eq_error_iff (StepGraph.build_faithful built) distinct read).mp run
    exact ⟨graph, name, error, built, ⟨transformations, read⟩, rfl, first⟩
  · rintro ⟨graph, name, error, built, ⟨transformations, read⟩, rfl, first⟩
    exact ⟨graph, transformations, built, read,
      (buildHandlers_eq_error_iff (StepGraph.build_faithful built) distinct read).mpr
        ⟨name, error, rfl, first⟩⟩

/-- How preparing a workflow ends: it fails with a definition error exactly when the graph cannot be
built, and then whatever the configurations; otherwise with a configuration error exactly when the
configurations cannot be read, which is the first problem among them; otherwise with a step error
exactly at the first step, in the order of the graph, whose handler cannot be built against its
input model; and otherwise it succeeds, having read exactly one configuration per step. -/
structure ReportsFirstFailure (workflow : Workflow) (configs : StepConfigs) (model : SchemaPack) :
    Prop where
  definition : ∀ error, Runner.new workflow configs model = .error (.definition error) ↔
    StepGraph.build workflow = .error error
  config : ∀ error, Runner.new workflow configs model = .error (.config error) ↔
    (∃ graph, StepGraph.build workflow = .ok graph) ∧ workflow.readConfigs configs = .error error
  configOrder : ∀ error, workflow.readConfigs configs = .error error ↔
    workflow.ConfigFailsFirst configs error
  step : ∀ name error, Runner.new workflow configs model = .error (.step name error) ↔
    ∃ graph, StepGraph.build workflow = .ok graph ∧
      (∃ transformations, workflow.readConfigs configs = .ok transformations) ∧
      workflow.FirstUnprepared configs model graph name error
  succeeds : (∃ runner, Runner.new workflow configs model = .ok runner) ↔
    (∃ graph, StepGraph.build workflow = .ok graph) ∧
    (∃ transformations, workflow.readConfigs configs = .ok transformations) ∧
    ∀ name ∈ Table.keys workflow.steps, ∃ handler, workflow.Prepares configs model name (.ok handler)
  consumes : ∀ runner, Runner.new workflow configs model = .ok runner →
    (∀ name, name ∈ Table.keys configs ↔ name ∈ Table.keys workflow.steps) ∧
    ∀ name ∈ Table.keys workflow.steps, ∃ handler, runner.handler? name = some handler ∧
      workflow.Prepares configs model name (.ok handler)

/-- Preparing a workflow reports its problems in a fixed precedence before any data is touched:
the definition first, then the configurations (a configuration for no step first, then steps in
declaration order), then the steps' handlers in the order of the graph, each against its input
model; a configuration is never read for a definition that does not build, and a prepared workflow
has read exactly one configuration for each of its steps. Step names are distinct, as in every
workflow read from its definition (`keyed_of_ofText`). Preparing succeeds once every stage does,
since a failing handler would belong to a step that prepares. -/
theorem new_reports_first_failure (distinct : (Table.keys workflow.steps).Nodup) :
    ReportsFirstFailure workflow configs model where
  definition error := by
    rw [new_eq_error_iff_first distinct]
    simp
  config error := by
    rw [new_eq_error_iff_first distinct]
    simp
  configOrder _ := Workflow.readConfigs_eq_error_iff
  step name error := by
    rw [new_eq_error_iff_first distinct]
    simp
  succeeds := by
    constructor
    · rintro ⟨runner, prepared⟩
      obtain ⟨rfl, built, transformations, read, handlersBuilt⟩ := new_eq_ok prepared
      refine ⟨⟨_, built⟩, ⟨transformations, read⟩, fun name declared => ?_⟩
      obtain ⟨handler, -, prepares⟩ := resolved_of_buildHandlers (StepGraph.build_faithful built)
        distinct read handlersBuilt name declared
      exact ⟨handler, prepares⟩
    · rintro ⟨⟨graph, built⟩, ⟨transformations, read⟩, everyStep⟩
      cases prepared : Runner.new workflow configs model with
      | ok runner => exact ⟨runner, rfl⟩
      | error failure =>
        exfalso
        rcases (new_eq_error_iff_first distinct).mp prepared with ⟨error, failed, same⟩ |
          ⟨graph', error, built', failed, same⟩ |
          ⟨graph', name, error, built', -, same, pre, node, post, split, rfl, failed, -⟩
        · rw [built] at failed
          cases failed
        · rw [read] at failed
          cases failed
        · have member : node ∈ graph'.order := by simp [split]
          obtain ⟨step, declared, -⟩ := (StepGraph.build_faithful built').declared distinct member
          obtain ⟨handler, succeeded⟩ :=
            everyStep _ (Table.mem_keys_of_mem (Table.mem_of_get?_eq_some declared))
          cases failed.functional succeeded
  consumes runner prepared := by
    obtain ⟨rfl, built, transformations, read, handlersBuilt⟩ := new_eq_ok prepared
    refine ⟨fun name => ⟨Workflow.mem_keys_steps_of_readConfigs read, fun declared => ?_⟩,
      resolved_of_buildHandlers (StepGraph.build_faithful built) distinct read handlersBuilt⟩
    have faithful := StepGraph.build_faithful built
    obtain ⟨node, member, rfl⟩ := faithful.exists_node declared
    obtain ⟨step, stepFound, -⟩ := faithful.declared distinct member
    obtain ⟨-, -, raw, rawFound, -⟩ := Workflow.readConfigs_get? read stepFound
    exact Table.mem_keys_of_mem (Table.mem_of_get?_eq_some rawFound)

/-- A two-step workflow with a configuration for a step it lacks reports its problems in this
precedence. -/
theorem strayConfig_reports_first_failure :
    let workflow : Workflow :=
      { steps := [("cleanup", { transformation := "delete_relations" }),
          ("count", { transformation := "count_references", input := some "cleanup" })] }
    let configs : StepConfigs :=
      [("cleanup", .obj [("class_name", .str "Sample"), ("relation_names", .arr [])]),
        ("stray", .obj [])]
    (Table.keys workflow.steps).Nodup ∧ ReportsFirstFailure workflow configs {} := by
  intro workflow configs
  have distinct : (Table.keys workflow.steps).Nodup := by decide
  exact ⟨distinct, new_reports_first_failure distinct⟩

end Runner

end Recast
