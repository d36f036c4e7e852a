import Mathlib.Data.List.Forall2
import Mathlib.Data.List.GetD
import Recast.Proofs.Table
import Recast.Proofs.Workflow.Order
import Recast.Workflow.Runner
/-!
Running a workflow computes its dataflow semantics.

The semantics of a prepared workflow is recursive over the step tree: a step yields what its
handler makes of its input, which is the data pack for the root and the output of its input step
otherwise (`Runner.Yields`). Preparing and running, on the other hand, are loops over the order of
the step graph that fill a table of handlers and a table of outputs, with fallbacks for an input
whose entry is not yet filled. The two agree because the order lists every step once with its
input step before it (`StepGraph.Faithful`): when a loop reaches a step, the entry of its input step
is filled, and it holds the handler or the output the semantics gives that step. So no fallback is
ever taken, and neither the handlers nor the result depend on the order the graph chose among
independent steps.
-/

namespace Recast

/-! ### Tables paired entry by entry -/

section Pairing

variable {α β : Type}

/-- Two tables paired entry by entry under the same keys pair their lookups too. -/
theorem Table.get?_of_forall₂ {related : String → α → β → Prop} {key : String} {value : α} :
    ∀ {left : Table α} {right : Table β},
      List.Forall₂ (fun entry paired => paired.1 = entry.1 ∧ related entry.1 entry.2 paired.2)
        left right →
      Table.get? left key = some value →
        ∃ other, Table.get? right key = some other ∧ related key value other := by
  intro left right paired
  induction paired with
  | nil => simp [Table.get?]
  | @cons entry pairedEntry rest pairedRest head _ inductionHypothesis =>
    obtain ⟨sameKey, relatedHead⟩ := head
    intro found
    by_cases here : entry.1 = key
    · have first : Table.get? (entry :: rest) key = some entry.2 := by
        simp [Table.get?, here]
      rw [first, Option.some.injEq] at found
      subst found
      refine ⟨pairedEntry.2, ?_, here ▸ relatedHead⟩
      simp [Table.get?, sameKey, here]
    · have skipped : Table.get? (entry :: rest) key = Table.get? rest key := by
        simp [Table.get?, here]
      obtain ⟨other, otherFound, relatedOther⟩ := inductionHypothesis (skipped ▸ found)
      refine ⟨other, ?_, relatedOther⟩
      simp [Table.get?, sameKey, here, otherFound]

/-- In a list of nodes with distinct names, a node's name is the name of no node before or after
it. -/
theorem name_ne_of_split {name : Nat → String} {order done rest : List Nat} {node other : Nat}
    (distinct : (order.map name).Nodup) (split : order = done ++ node :: rest)
    (elsewhere : other ∈ done ∨ other ∈ rest) : name other ≠ name node := by
  rw [split, List.map_append, List.map_cons, List.nodup_append, List.nodup_cons] at distinct
  rcases elsewhere with earlier | later
  · exact distinct.2.2 _ (List.mem_map_of_mem earlier) _ List.mem_cons_self
  · intro same
    exact distinct.2.1.1 (same ▸ List.mem_map_of_mem later)

end Pairing

/-! ### Steps by node and by name -/

namespace StepGraph.Faithful

variable {workflow : Workflow} {graph : StepGraph}

theorem name_eq (faithful : Faithful workflow graph) {node : Nat}
    (within : node < (Table.keys workflow.steps).length) :
    graph.name node = (Table.keys workflow.steps)[node] := by
  simp only [StepGraph.name, faithful.names]
  exact List.getD_eq_getElem _ _ within

theorem length_keys (faithful : Faithful workflow graph) {node : Nat}
    (member : node ∈ graph.order) :
    node < (Table.keys workflow.steps).length := by
  simpa [Table.keys] using (faithful.covers node).mp member

/-- In a workflow whose step names are distinct, the nodes of the order have distinct names. -/
theorem name_inj (faithful : Faithful workflow graph)
    (distinct : (Table.keys workflow.steps).Nodup) {node other : Nat}
    (nodeMember : node ∈ graph.order) (otherMember : other ∈ graph.order)
    (same : graph.name node = graph.name other) : node = other := by
  rw [faithful.name_eq (faithful.length_keys nodeMember),
    faithful.name_eq (faithful.length_keys otherMember)] at same
  exact (distinct.getElem_inj_iff).mp same

theorem nodup_names (faithful : Faithful workflow graph)
    (distinct : (Table.keys workflow.steps).Nodup) : (graph.order.map graph.name).Nodup :=
  faithful.once.map_on fun _ nodeMember _ otherMember same =>
    faithful.name_inj distinct nodeMember otherMember same

/-- Every step of the workflow is the step of a node of the order. -/
theorem exists_node (faithful : Faithful workflow graph) {name : String}
    (declared : name ∈ Table.keys workflow.steps) :
    ∃ node ∈ graph.order, graph.name node = name := by
  obtain ⟨node, within, named⟩ := List.getElem_of_mem declared
  have covered : node ∈ graph.order :=
    (faithful.covers node).mpr (by simpa [Table.keys] using within)
  exact ⟨node, covered, (faithful.name_eq within).trans named⟩

/-- The step of a node of the order, and the node of its input step. -/
theorem declared (faithful : Faithful workflow graph) (distinct : (Table.keys workflow.steps).Nodup)
    {node : Nat} (member : node ∈ graph.order) :
    ∃ step, Table.get? workflow.steps (graph.name node) = some step ∧
      (graph.input node).map graph.name = step.input := by
  have within := faithful.length_keys member
  have stepWithin : node < workflow.steps.length := by simpa [Table.keys] using within
  have named : graph.name node = workflow.steps[node].1 := by
    rw [faithful.name_eq within]
    simp [Table.keys]
  refine ⟨workflow.steps[node].2, ?_,
    faithful.inputOfStep node workflow.steps[node].1 workflow.steps[node].2 ?_⟩
  · rw [named]
    exact Table.get?_of_mem distinct (List.getElem_mem stepWithin)
  · simp [List.getElem?_eq_getElem stepWithin]

end StepGraph.Faithful

/-! ### Preparing -/

namespace Workflow

/-- Reading the configurations pairs every step, in order, with the transformation its raw
configuration reads as. -/
theorem readConfigs_eq_ok {workflow : Workflow} {configs : StepConfigs}
    {transformations : Table Transformation}
    (read : workflow.readConfigs configs = .ok transformations) :
    List.Forall₂ (fun (entry : String × Step) (paired : String × Transformation) =>
      paired.1 = entry.1 ∧ ∃ raw, Table.get? configs entry.1 = some raw ∧
        Transformation.fromParts entry.2.transformation raw = .ok paired.2)
      workflow.steps transformations := by
  unfold readConfigs at read
  split at read
  · simp [throw, throwThe, MonadExceptOf.throw, bind, Except.bind] at read
  refine (forall₂_of_mapM_eq_ok read).imp ?_
  rintro ⟨name, step⟩ paired stepped
  dsimp only at stepped
  split at stepped
  · next raw found =>
    simp only [pure_bind] at stepped
    split at stepped
    · next transformation transformed =>
      simp only [pure, Except.pure, Except.ok.injEq] at stepped
      subst stepped
      exact ⟨rfl, raw, found, transformed⟩
    · simp [throw, throwThe, MonadExceptOf.throw] at stepped
  · simp [throw, throwThe, MonadExceptOf.throw, bind, Except.bind] at stepped

/-- A step of the workflow has a configuration, and it reads as the step's transformation. -/
theorem readConfigs_get? {workflow : Workflow} {configs : StepConfigs}
    {transformations : Table Transformation}
    (read : workflow.readConfigs configs = .ok transformations) {name : String} {step : Step}
    (declared : Table.get? workflow.steps name = some step) :
    ∃ transformation, Table.get? transformations name = some transformation ∧
      ∃ raw, Table.get? configs name = some raw ∧
        Transformation.fromParts step.transformation raw = .ok transformation :=
  @Table.get?_of_forall₂ Step Transformation
    (fun name step transformation => ∃ raw, Table.get? configs name = some raw ∧
      Transformation.fromParts step.transformation raw = .ok transformation)
    name step _ _ (readConfigs_eq_ok read) declared

/-- The transformations read are filed under the names of the steps, in declaration order. -/
theorem keys_readConfigs {workflow : Workflow} {configs : StepConfigs}
    {transformations : Table Transformation}
    (read : workflow.readConfigs configs = .ok transformations) :
    Table.keys transformations = Table.keys workflow.steps := by
  have paired := readConfigs_eq_ok read
  clear read
  generalize workflow.steps = steps at paired
  induction paired with
  | nil => rfl
  | cons paired _ inductionHypothesis =>
    simp only [Table.keys, List.map_cons] at inductionHypothesis ⊢
    rw [paired.1, inductionHypothesis]

end Workflow

namespace Runner

variable {graph : StepGraph} {transformations : Table Transformation} {model : SchemaPack}

/-- A prepared workflow went through its three stages: its graph was built, its configurations
read, and its handlers built along the order. -/
theorem new_eq_ok {workflow : Workflow} {configs : StepConfigs} {runner : Runner}
    (built : Runner.new workflow configs model = .ok runner) :
    runner.workflow = workflow ∧ StepGraph.build workflow = .ok runner.graph ∧
      ∃ transformations, workflow.readConfigs configs = .ok transformations ∧
        buildHandlers runner.graph model runner.graph.order transformations [] =
          .ok runner.handlers := by
  rw [new] at built
  cases graphOk : StepGraph.build workflow with
  | error failure =>
    simp [graphOk, throw, throwThe, MonadExceptOf.throw, bind, Except.bind] at built
  | ok graph =>
    cases readOk : workflow.readConfigs configs with
    | error failure =>
      simp [graphOk, readOk, throw, throwThe, MonadExceptOf.throw, bind, Except.bind, pure,
        Except.pure] at built
    | ok transformations =>
      simp only [graphOk, readOk, pure_bind, Except.bind_eq_ok, Except.pure_eq_ok] at built
      obtain ⟨handlers, handlersOk, rfl⟩ := built
      exact ⟨rfl, rfl, transformations, rfl, handlersOk⟩

/-- The transformations not taken yet once the nodes `done` have taken theirs. -/
def untaken (graph : StepGraph) (transformations : Table Transformation) (done : List Nat) :
    Table Transformation :=
  (done.map graph.name).foldl Table.erase transformations

theorem untaken_nil (graph : StepGraph) (transformations : Table Transformation) :
    untaken graph transformations [] = transformations := rfl

/-- A node of the order takes its transformation out of those not taken yet. -/
theorem erase_untaken (done : List Nat) (node : Nat) :
    Table.erase (untaken graph transformations done) (graph.name node) =
      untaken graph transformations (done ++ [node]) := by
  rw [untaken, untaken, List.map_append, List.foldl_append]
  rfl

/-- The transformation of a node of the order is not taken by the nodes before it, the names of
the nodes being distinct. -/
theorem get?_untaken {done rest : List Nat} {node : Nat}
    (distinct : (graph.order.map graph.name).Nodup) (split : graph.order = done ++ node :: rest) :
    Table.get? (untaken graph transformations done) (graph.name node) =
      Table.get? transformations (graph.name node) := by
  refine Table.get?_foldl_erase_of_not_mem transformations ?_
  simp only [List.mem_map, not_exists, not_and]
  intro other earlier same
  exact name_ne_of_split distinct split (Or.inl earlier) same

/-- One step of preparing, once the model of the node's input is at hand: the node takes its
transformation out of those not taken yet, and its handler is built and filed under its name, or
its failure stops the preparation. -/
theorem buildHandlers_cons {node : Nat} {rest : List Nat} {remaining : Table Transformation}
    {built : Table Handler} {input : SchemaPack} {transformation : Transformation}
    (fed : graph.input node = none ∧ input = model ∨ ∃ producer before,
      graph.input node = some producer ∧ Table.get? built (graph.name producer) = some before ∧
        input = before.outputModel)
    (configured : Table.get? remaining (graph.name node) = some transformation) :
    buildHandlers graph model (node :: rest) remaining built =
      match Handler.new transformation input with
      | .ok handler =>
        buildHandlers graph model rest (Table.erase remaining (graph.name node))
          (Table.insert built (graph.name node) handler)
      | .error error => .error (.step (graph.name node) error) := by
  rw [buildHandlers]
  rcases fed with ⟨inputNode, rfl⟩ | ⟨producer, before, inputNode, found, rfl⟩
  · cases made : Handler.new transformation input <;>
      simp [inputNode, configured, made, throw, throwThe, MonadExceptOf.throw, bind, Except.bind,
        pure, Except.pure]
  · cases made : Handler.new transformation before.outputModel <;>
      simp [inputNode, found, configured, made, throw, throwThe, MonadExceptOf.throw, bind,
        Except.bind, pure, Except.pure]

/-- A node's handler in a table of handlers is the one preparing builds for it: its step's
transformation against the input model, or against the output model of its input step's handler
in the same table. -/
def Prepared (graph : StepGraph) (transformations : Table Transformation) (model : SchemaPack)
    (handlers : Table Handler) (node : Nat) : Prop :=
  ∃ transformation handler input,
    Table.get? transformations (graph.name node) = some transformation ∧
    Table.get? handlers (graph.name node) = some handler ∧
    Handler.new transformation input = .ok handler ∧
    (graph.input node = none → input = model) ∧
    ∀ producer, graph.input node = some producer →
      ∃ before, Table.get? handlers (graph.name producer) = some before ∧ input = before.outputModel

/-- Filing a handler under another name keeps a node prepared. -/
theorem Prepared.insert {handlers : Table Handler} {node : Nat}
    (prepared : Prepared graph transformations model handlers node) {key : String}
    (fresh : key ∉ Table.keys handlers) (handler : Handler) :
    Prepared graph transformations model (Table.insert handlers key handler) node := by
  obtain ⟨transformation, own, input, configured, found, made, root, fed⟩ := prepared
  have kept : ∀ {name : String} {stored : Handler}, Table.get? handlers name = some stored →
      Table.get? (Table.insert handlers key handler) name = some stored := by
    intro name stored found
    have differ : name ≠ key := by
      rintro rfl
      exact fresh (Table.mem_keys_of_mem (Table.mem_of_get?_eq_some found))
    rwa [Table.get?_insert_of_ne handlers handler differ]
  refine ⟨transformation, own, input, configured, kept found, made, root, ?_⟩
  intro producer inputNode
  obtain ⟨before, beforeFound, same⟩ := fed producer inputNode
  exact ⟨before, kept beforeFound, same⟩

section Preparing

variable (configured : ∀ node ∈ graph.order,
    ∃ transformation, Table.get? transformations (graph.name node) = some transformation)
  (inputsFirst : ∀ pre node post, graph.order = pre ++ node :: post →
    ∀ producer, graph.input node = some producer → producer ∈ pre)
  (distinct : (graph.order.map graph.name).Nodup)
include configured inputsFirst distinct

/-- Preparing the nodes of the order that remain, with those before them prepared, prepares every
node. The fallbacks are never taken: the handler of a node's input step is filed before the node
is reached, and every node has a transformation. -/
theorem buildHandlers_prepared : ∀ {rest done : List Nat} {built result : Table Handler},
    graph.order = done ++ rest →
    (∀ node ∈ done, Prepared graph transformations model built node) →
    (∀ node ∈ rest, graph.name node ∉ Table.keys built) →
    buildHandlers graph model rest (untaken graph transformations done) built = .ok result →
    ∀ node ∈ graph.order, Prepared graph transformations model result node := by
  intro rest
  induction rest with
  | nil =>
    intro done built result split before _ run
    simp only [buildHandlers, Except.ok.injEq] at run
    subst run
    simpa [split] using before
  | cons node rest inductionHypothesis =>
    intro done built result split before fresh run
    have member : node ∈ graph.order := by simp [split]
    obtain ⟨transformation, found⟩ := configured node member
    have taken := (get?_untaken distinct split).trans found
    obtain ⟨input, fed, root, inputOk⟩ : ∃ input,
        (graph.input node = none ∧ input = model ∨ ∃ producer before,
          graph.input node = some producer ∧ Table.get? built (graph.name producer) = some before ∧
            input = before.outputModel) ∧
        (graph.input node = none → input = model) ∧
        ∀ producer, graph.input node = some producer → ∃ before,
          Table.get? built (graph.name producer) = some before ∧ input = before.outputModel := by
      cases inputNode : graph.input node with
      | none => exact ⟨model, Or.inl ⟨rfl, rfl⟩, fun _ => rfl, by simp⟩
      | some producer =>
        have earlier : producer ∈ done := inputsFirst done node rest split producer inputNode
        obtain ⟨-, before, -, -, beforeFound, -⟩ := before producer earlier
        refine ⟨before.outputModel, Or.inr ⟨producer, before, rfl, beforeFound, rfl⟩,
          by simp, ?_⟩
        intro other same
        cases same
        exact ⟨before, beforeFound, rfl⟩
    rw [buildHandlers_cons fed taken] at run
    cases made : Handler.new transformation input with
    | error failure => simp [made] at run
    | ok handler =>
      simp only [made, erase_untaken] at run
      have notDone : graph.name node ∉ Table.keys built := fresh node (by simp)
      have moved : graph.order = (done ++ [node]) ++ rest := by simp [split]
      refine inductionHypothesis moved ?_ ?_ run
      · intro other otherMember
        rcases List.mem_append.mp otherMember with earlier | here
        · exact (before other earlier).insert notDone handler
        · rw [List.mem_singleton.mp here]
          refine ⟨transformation, handler, input, found, Table.get?_insert_self built _ handler,
            made, root, ?_⟩
          intro producer inputNode
          obtain ⟨before, beforeFound, same⟩ := inputOk producer inputNode
          have earlier : producer ∈ done := inputsFirst done node rest split producer inputNode
          have differ := name_ne_of_split distinct split (Or.inl earlier)
          exact ⟨before, (Table.get?_insert_of_ne built handler differ).trans beforeFound, same⟩
      · intro other otherMember
        rw [Table.mem_keys_insert, not_or]
        exact ⟨fresh other (by simp [otherMember]),
          name_ne_of_split distinct split (Or.inr otherMember)⟩

end Preparing

/-- What preparing establishes: the runner keeps its workflow, its graph is faithful to it, and
every node's handler is the one preparing builds for it. -/
theorem new_prepared {workflow : Workflow} {configs : StepConfigs} {runner : Runner}
    (built : Runner.new workflow configs model = .ok runner)
    (distinct : (Table.keys workflow.steps).Nodup) :
    runner.workflow = workflow ∧ StepGraph.Faithful workflow runner.graph ∧
      ∃ transformations, workflow.readConfigs configs = .ok transformations ∧
        ∀ node ∈ runner.graph.order,
          Prepared runner.graph transformations model runner.handlers node := by
  obtain ⟨same, graphBuilt, transformations, read, handlersBuilt⟩ := new_eq_ok built
  have faithful := StepGraph.build_faithful graphBuilt
  have configured : ∀ node ∈ runner.graph.order, ∃ transformation,
      Table.get? transformations (runner.graph.name node) = some transformation := by
    intro node member
    obtain ⟨step, declared, -⟩ := faithful.declared distinct member
    obtain ⟨transformation, found, -⟩ := Workflow.readConfigs_get? read declared
    exact ⟨transformation, found⟩
  refine ⟨same, faithful, transformations, read, ?_⟩
  exact buildHandlers_prepared configured faithful.inputsFirst (faithful.nodup_names distinct)
    (List.nil_append _).symm (by simp) (by simp [Table.keys]) handlersBuilt

/-! ### The dataflow semantics -/

/-- The model a step's handler is built against: the input model for the root, the output model
of its input step's handler otherwise. -/
def inputModel (runner : Runner) (model : SchemaPack) (step : Step) : Option SchemaPack :=
  match step.input with
  | none => some model
  | some producer => (runner.handler? producer).map Handler.outputModel

/-- The handlers of a prepared workflow are those its definition calls for: every step's handler is
its transformation, read from the step's configuration, built against the step's input model. -/
def BuiltFrom (runner : Runner) (configs : StepConfigs) (model : SchemaPack) : Prop :=
  ∀ name step, Table.get? runner.workflow.steps name = some step →
    ∃ raw transformation input handler, Table.get? configs name = some raw ∧
      Transformation.fromParts step.transformation raw = .ok transformation ∧
      runner.inputModel model step = some input ∧ runner.handler? name = some handler ∧
      Handler.new transformation input = .ok handler

/-- Preparing builds every step's handler as the definition calls for. -/
theorem builtFrom_of_new {workflow : Workflow} {configs : StepConfigs} {runner : Runner}
    (built : Runner.new workflow configs model = .ok runner)
    (distinct : (Table.keys workflow.steps).Nodup) : runner.BuiltFrom configs model := by
  obtain ⟨rfl, faithful, transformations, read, allPrepared⟩ := new_prepared built distinct
  intro name step declared
  obtain ⟨node, member, rfl⟩ :=
    faithful.exists_node (Table.mem_keys_of_mem (Table.mem_of_get?_eq_some declared))
  obtain ⟨transformation, handler, input, configured, found, made, root, fed⟩ :=
    allPrepared node member
  obtain ⟨readTransformation, readFound, raw, rawFound, fromRaw⟩ :=
    Workflow.readConfigs_get? read declared
  rw [configured, Option.some.injEq] at readFound
  subst readFound
  obtain ⟨nodeStep, nodeDeclared, inputOfStep⟩ := faithful.declared distinct member
  rw [declared, Option.some.injEq] at nodeDeclared
  subst nodeDeclared
  have modelled : runner.inputModel model step = some input := by
    cases inputNode : runner.graph.input node with
    | none =>
      have first : step.input = none := by simpa [inputNode] using inputOfStep.symm
      simp [inputModel, first, root inputNode]
    | some producer =>
      have feeds : step.input = some (runner.graph.name producer) := by
        simpa [inputNode] using inputOfStep.symm
      obtain ⟨before, beforeFound, same⟩ := fed producer inputNode
      simp [inputModel, feeds, handler?, beforeFound, same]
  exact ⟨raw, transformation, input, handler, rawFound, fromRaw, modelled, found, made⟩

/-- What a step of a prepared workflow yields on a data pack, by recursion over the step tree. A
step whose input step fails yields nothing. -/
inductive Yields (runner : Runner) (data : DataPack) :
    String → Except TransformError DataPack → Prop
  /-- The root transforms the data pack. -/
  | root {name : String} {step : Step} {handler : Handler}
      (declared : Table.get? runner.workflow.steps name = some step) (first : step.input = none)
      (prepared : runner.handler? name = some handler) :
      Yields runner data name (handler.run data)
  /-- Any other step transforms its input step's output. -/
  | fed {name producer : String} {step : Step} {input : DataPack} {handler : Handler}
      (declared : Table.get? runner.workflow.steps name = some step)
      (feeds : step.input = some producer) (produced : Yields runner data producer (.ok input))
      (prepared : runner.handler? name = some handler) :
      Yields runner data name (handler.run input)

/-- A step yields one result. -/
theorem Yields.functional {runner : Runner} {data : DataPack} {name : String}
    {first second : Except TransformError DataPack} (yields : runner.Yields data name first)
    (again : runner.Yields data name second) : first = second := by
  induction yields generalizing second with
  | root declared first prepared =>
    cases again with
    | root otherDeclared otherFirst otherPrepared =>
      rw [prepared, Option.some.injEq] at otherPrepared
      rw [otherPrepared]
    | fed otherDeclared otherFeeds _ _ =>
      rw [declared, Option.some.injEq] at otherDeclared
      subst otherDeclared
      rw [first] at otherFeeds
      cases otherFeeds
  | fed declared feeds produced prepared inductionHypothesis =>
    cases again with
    | root otherDeclared otherFirst _ =>
      rw [declared, Option.some.injEq] at otherDeclared
      subst otherDeclared
      rw [feeds] at otherFirst
      cases otherFirst
    | fed otherDeclared otherFeeds otherProduced otherPrepared =>
      rw [declared, Option.some.injEq] at otherDeclared
      subst otherDeclared
      rw [feeds, Option.some.injEq] at otherFeeds
      subst otherFeeds
      cases inductionHypothesis otherProduced
      rw [prepared, Option.some.injEq] at otherPrepared
      rw [otherPrepared]

/-- A prepared workflow computes the dataflow semantics of its step tree on a data pack: the run
finishes exactly when every step yields an output, then puts out every artifact, in artifact
order, with its step's output, and otherwise stops with the failure of a step whose input steps
all yield outputs. -/
structure ComputesDataflow (runner : Runner) (data : DataPack) : Prop where
  finishes : (∃ artifacts, runner.run data = .ok artifacts) ↔
    ∀ name ∈ Table.keys runner.workflow.steps, ∃ output, runner.Yields data name (.ok output)
  artifacts : ∀ artifacts, runner.run data = .ok artifacts →
    List.Forall₂ (fun exposed produced =>
      produced.1 = exposed.1 ∧ runner.Yields data exposed.2 (.ok produced.2))
      runner.workflow.artifacts artifacts
  stops : ∀ failure, runner.run data = .error failure →
    ∃ name error, failure = .step name error ∧ runner.Yields data name (.error error)

/-! ### Running -/

/-- One step of a run, once the node's input is at hand: the node's output is filed under its
name, or its failure stops the run. -/
theorem runSteps_cons {runner : Runner} {data : DataPack} {node : Nat} {rest : List Nat}
    {outputs : Table DataPack} {input : DataPack} {handler : Handler}
    (fed : runner.graph.input node = none ∧ input = data ∨ ∃ producer,
      runner.graph.input node = some producer ∧
        Table.get? outputs (runner.graph.name producer) = some input)
    (prepared : runner.handler? (runner.graph.name node) = some handler) :
    runner.runSteps data (node :: rest) outputs =
      match handler.run input with
      | .ok output =>
        runner.runSteps data rest (Table.insert outputs (runner.graph.name node) output)
      | .error error => .error (.step (runner.graph.name node) error) := by
  rw [runSteps]
  rcases fed with ⟨inputNode, rfl⟩ | ⟨producer, inputNode, found⟩
  · cases ran : handler.run input <;>
      simp [inputNode, prepared, ran, throw, throwThe, MonadExceptOf.throw, bind, Except.bind,
        pure, Except.pure]
  · cases ran : handler.run input <;>
      simp [inputNode, found, prepared, ran, throw, throwThe, MonadExceptOf.throw, bind,
        Except.bind, pure, Except.pure]

/-- A node's entry in a table of outputs is what its step yields. -/
def Recorded (runner : Runner) (data : DataPack) (outputs : Table DataPack) (node : Nat) : Prop :=
  ∃ output, Table.get? outputs (runner.graph.name node) = some output ∧
    runner.Yields data (runner.graph.name node) (.ok output)

/-- Keeping each artifact's step output keeps every artifact, in order, when every artifact's
step has its output recorded. -/
theorem forall₂_filterMap_artifacts {runner : Runner} {data : DataPack}
    {outputs : Table DataPack} {project : String × String → Option (String × DataPack)}
    (projects : ∀ exposed, project exposed =
      (Table.get? outputs exposed.2).map fun output => (exposed.1, output)) :
    ∀ {artifacts : Table String}, (∀ exposed ∈ artifacts, ∃ output,
      Table.get? outputs exposed.2 = some output ∧ runner.Yields data exposed.2 (.ok output)) →
      List.Forall₂ (fun exposed produced =>
        produced.1 = exposed.1 ∧ runner.Yields data exposed.2 (.ok produced.2))
        artifacts (artifacts.filterMap project) := by
  intro artifacts
  induction artifacts with
  | nil => exact fun _ => List.Forall₂.nil
  | cons exposed rest inductionHypothesis =>
    intro recorded
    obtain ⟨output, found, yields⟩ := recorded exposed List.mem_cons_self
    have kept : project exposed = some (exposed.1, output) := by simp [projects, found]
    rw [List.filterMap_cons, kept]
    exact List.Forall₂.cons ⟨rfl, yields⟩
      (inductionHypothesis fun other member => recorded other (List.mem_cons_of_mem _ member))

section Running

variable {runner : Runner} {data : DataPack}
  (faithful : StepGraph.Faithful runner.workflow runner.graph)
  (distinct : (Table.keys runner.workflow.steps).Nodup)
  (prepared : ∀ node ∈ runner.graph.order,
    ∃ handler, runner.handler? (runner.graph.name node) = some handler)
include faithful distinct prepared

/-- Running the nodes of the order that remain, with the outputs of those before them recorded,
either records every node's output or stops at a node whose step fails with its input step's
output. The fallbacks are never taken: the output of a node's input step is filed before the node
is reached, and every node has a handler. -/
theorem runSteps_yields : ∀ {rest done : List Nat} {outputs : Table DataPack},
    runner.graph.order = done ++ rest → (∀ node ∈ done, Recorded runner data outputs node) →
    (∀ final, runner.runSteps data rest outputs = .ok final →
      ∀ node ∈ runner.graph.order, Recorded runner data final node) ∧
    ∀ failure, runner.runSteps data rest outputs = .error failure →
      ∃ node ∈ rest, ∃ error, failure = .step (runner.graph.name node) error ∧
        runner.Yields data (runner.graph.name node) (.error error) := by
  intro rest
  induction rest with
  | nil =>
    intro done outputs split recorded
    refine ⟨?_, ?_⟩
    · intro final run
      simp only [runSteps, Except.ok.injEq] at run
      subst run
      simpa [split] using recorded
    · intro failure run
      simp [runSteps] at run
  | cons node rest inductionHypothesis =>
    intro done outputs split recorded
    have member : node ∈ runner.graph.order := by simp [split]
    obtain ⟨step, declared, inputOfStep⟩ := faithful.declared distinct member
    obtain ⟨handler, hasHandler⟩ := prepared node member
    obtain ⟨input, fed, yields⟩ : ∃ input,
        (runner.graph.input node = none ∧ input = data ∨ ∃ producer,
          runner.graph.input node = some producer ∧
            Table.get? outputs (runner.graph.name producer) = some input) ∧
        runner.Yields data (runner.graph.name node) (handler.run input) := by
      cases inputNode : runner.graph.input node with
      | none =>
        have first : step.input = none := by simpa [inputNode] using inputOfStep.symm
        exact ⟨data, Or.inl ⟨rfl, rfl⟩, .root declared first hasHandler⟩
      | some producer =>
        have earlier : producer ∈ done :=
          faithful.inputsFirst done node rest split producer inputNode
        obtain ⟨output, found, produced⟩ := recorded producer earlier
        have feeds : step.input = some (runner.graph.name producer) := by
          simpa [inputNode] using inputOfStep.symm
        exact ⟨output, Or.inr ⟨producer, rfl, found⟩, .fed declared feeds produced hasHandler⟩
    rw [runSteps_cons fed hasHandler]
    cases ran : handler.run input with
    | error error =>
      refine ⟨by simp, ?_⟩
      intro failure run
      simp only [Except.error.injEq] at run
      exact ⟨node, List.mem_cons_self, error, run.symm, ran ▸ yields⟩
    | ok output =>
      simp only
      have moved : runner.graph.order = (done ++ [node]) ++ rest := by simp [split]
      have recordedMoved : ∀ other ∈ done ++ [node],
          Recorded runner data (Table.insert outputs (runner.graph.name node) output) other := by
        intro other otherMember
        rcases List.mem_append.mp otherMember with earlier | here
        · obtain ⟨stored, found, produced⟩ := recorded other earlier
          have differ :=
            name_ne_of_split (faithful.nodup_names distinct) split (Or.inl earlier)
          exact ⟨stored, (Table.get?_insert_of_ne outputs output differ).trans found, produced⟩
        · rw [List.mem_singleton.mp here]
          exact ⟨output, Table.get?_insert_self outputs _ output, ran ▸ yields⟩
      obtain ⟨finished, failed⟩ := inductionHypothesis moved recordedMoved
      refine ⟨finished, ?_⟩
      intro failure run
      obtain ⟨other, otherMember, stopped⟩ := failed failure run
      exact ⟨other, List.mem_cons_of_mem node otherMember, stopped⟩

/-- The outputs a run starting from nothing records, or the step it stops at. -/
theorem runSteps_order :
    (∀ final, runner.runSteps data runner.graph.order [] = .ok final →
      ∀ node ∈ runner.graph.order, Recorded runner data final node) ∧
    ∀ failure, runner.runSteps data runner.graph.order [] = .error failure →
      ∃ node ∈ runner.graph.order, ∃ error, failure = .step (runner.graph.name node) error ∧
        runner.Yields data (runner.graph.name node) (.error error) :=
  runSteps_yields faithful distinct prepared (List.nil_append _).symm (by simp)

/-- A run finishes exactly when every step yields an output: the step a run stopped at would
yield both a failure and an output. -/
theorem run_isOk_iff :
    (∃ artifacts, runner.run data = .ok artifacts) ↔
      ∀ name ∈ Table.keys runner.workflow.steps,
        ∃ output, runner.Yields data name (.ok output) := by
  obtain ⟨finished, failed⟩ := @runSteps_order runner data faithful distinct prepared
  constructor
  · rintro ⟨artifacts, ran⟩ name declared
    simp only [run, Except.bind_eq_ok] at ran
    obtain ⟨outputs, stepsRan, -⟩ := ran
    obtain ⟨node, member, rfl⟩ := faithful.exists_node declared
    obtain ⟨output, -, yields⟩ := finished outputs stepsRan node member
    exact ⟨output, yields⟩
  · intro yields
    cases stepsRan : runner.runSteps data runner.graph.order [] with
    | ok outputs => exact ⟨_, by rw [run, stepsRan]; rfl⟩
    | error failure =>
      obtain ⟨node, member, error, -, failing⟩ := failed failure stepsRan
      obtain ⟨step, declared, -⟩ := faithful.declared distinct member
      obtain ⟨output, succeeding⟩ :=
        yields _ (Table.mem_keys_of_mem (Table.mem_of_get?_eq_some declared))
      cases failing.functional succeeding

/-- A finished run puts out every artifact, in artifact order, with its step's output. -/
theorem forall₂_of_run_eq_ok {artifacts : Table DataPack} (ran : runner.run data = .ok artifacts) :
    List.Forall₂ (fun exposed produced =>
      produced.1 = exposed.1 ∧ runner.Yields data exposed.2 (.ok produced.2))
      runner.workflow.artifacts artifacts := by
  obtain ⟨finished, -⟩ := @runSteps_order runner data faithful distinct prepared
  simp only [run, Except.bind_eq_ok, Except.pure_eq_ok] at ran
  obtain ⟨outputs, stepsRan, rfl⟩ := ran
  refine forall₂_filterMap_artifacts (fun _ => rfl) ?_
  intro exposed member
  obtain ⟨node, nodeMember, named⟩ := faithful.exists_node (faithful.artifacts exposed member)
  rw [← named]
  exact finished outputs stepsRan node nodeMember

/-- A run that stops names a step that fails on its input step's output: putting out the
artifacts cannot fail, so the steps did. -/
theorem exists_failing_of_run_eq_error {failure : WorkflowError}
    (ran : runner.run data = .error failure) :
    ∃ name error, failure = .step name error ∧ runner.Yields data name (.error error) := by
  obtain ⟨-, failed⟩ := @runSteps_order runner data faithful distinct prepared
  rw [run] at ran
  rcases Except.bind_eq_error.mp ran with stopped | ⟨outputs, -, projected⟩
  · obtain ⟨node, -, error, named, failing⟩ := failed failure stopped
    exact ⟨_, error, named, failing⟩
  · simp [pure, Except.pure] at projected

end Running

/-! ### Preparing and running -/

/-- Preparing a workflow and running it computes the dataflow semantics of its step tree, whatever
order the graph chose among independent steps: every step's handler is built from its
configuration against its input model, and on every data pack the run finishes exactly when every
step yields an output, puts out each artifact's step output in artifact order, and otherwise stops
with the failure of a step whose input steps all succeed. Step names are distinct, as in every
workflow read from its definition (`keyed_of_ofText`). -/
theorem new_run_refines_dataflow {workflow : Workflow} {configs : StepConfigs} {runner : Runner}
    (built : Runner.new workflow configs model = .ok runner)
    (distinct : (Table.keys workflow.steps).Nodup) :
    runner.workflow = workflow ∧ runner.BuiltFrom configs model ∧
      ∀ data, runner.ComputesDataflow data := by
  obtain ⟨same, faithful, transformations, -, allPrepared⟩ := new_prepared built distinct
  have builtFrom := builtFrom_of_new built distinct
  subst same
  have prepared : ∀ node ∈ runner.graph.order,
      ∃ handler, runner.handler? (runner.graph.name node) = some handler := by
    intro node member
    obtain ⟨-, handler, -, -, found, -⟩ := allPrepared node member
    exact ⟨handler, found⟩
  refine ⟨rfl, builtFrom, fun data => ⟨?_, ?_, ?_⟩⟩
  · exact run_isOk_iff faithful distinct prepared
  · exact fun artifacts ran => forall₂_of_run_eq_ok faithful distinct prepared ran
  · exact fun failure ran => exists_failing_of_run_eq_error faithful distinct prepared ran

/-- A workflow that lists a step before its input step is prepared, and runs as its step tree
says. -/
theorem relationCleanup_refines_dataflow :
    let anything : Json := .obj [("$schema", .str "http://json-schema.org/draft-04/schema#")]
    let files : RelationSpec := { targetClass := "File", multiple := ⟨false, true⟩ }
    let model : SchemaPack :=
      { classes := [
          ("Sample",
            { id := { propertyName := "id" }, content := anything,
              relations := [("files", files)] }),
          ("File", { id := { propertyName := "id" }, content := anything })] }
    let workflow : Workflow :=
      { steps := [("keep", { transformation := "delete_relations", input := some "drop" }),
          ("drop", { transformation := "delete_relations" })],
        artifacts := [("cleaned", "keep"), ("dropped", "drop")] }
    let configs : StepConfigs :=
      [("drop", .obj [("class_name", .str "Sample"), ("relation_names", .arr [.str "files"])]),
        ("keep", .obj [("class_name", .str "Sample"), ("relation_names", .arr [])])]
    ∃ runner, Runner.new workflow configs model = .ok runner ∧
      (Table.keys workflow.steps).Nodup ∧ runner.workflow = workflow ∧
        runner.BuiltFrom configs model ∧ ∀ data, runner.ComputesDataflow data := by
  intro anything files model workflow configs
  obtain ⟨runner, built⟩ := Except.exists_eq_ok_of_isOk
    (show (Runner.new workflow configs model).isOk = true by decide +kernel)
  have distinct : (Table.keys workflow.steps).Nodup := by decide
  exact ⟨runner, built, distinct, new_run_refines_dataflow built distinct⟩

end Runner

end Recast
