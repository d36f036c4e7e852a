import Mathlib.Data.List.GetD
import Mathlib.Logic.Relation
import Recast.Proofs.Workflow.Acyclic
/-!
Building the step graph decides the shape of a workflow.

A workflow of the right shape has a step, runs registered transformations only, names steps in
every input and artifact, has no cycle of inputs, and has one step without an input
(`Workflow.WellShaped`). Building succeeds exactly on such workflows, and the graph it gives is a
tree: the step without an input is its root, and following inputs from any step leads there
(`StepGraph.Rooted`). On any other workflow building names the first check that fails, in the
order the checks are made (`Workflow.FailsFirst`).

The graph has an edge from the node of each declared input to its step, so a cycle of edges is a
cycle of inputs, and, with distinct step names, the converse holds too; the two passes order the
nodes exactly when there is no such cycle (`toposort_ok_iff_acyclic`). A workflow without a
cycle always has a step without an input: the first node of the order has no edge coming into
it. So the check for a missing root, made after the cycle check, never fails.
-/

namespace Recast

namespace Workflow

/-- The step named `producer` is the declared input of the step named `consumer`. -/
def Feeds (workflow : Workflow) (producer consumer : String) : Prop :=
  ∃ step, (consumer, step) ∈ workflow.steps ∧ step.input = some producer

/-- Every step applies a registered transformation. -/
def Registered (workflow : Workflow) : Prop :=
  ∀ entry ∈ workflow.steps, Transformation.isRegistered entry.2.transformation = true

/-- Every declared input names a step. -/
def InputsNamed (workflow : Workflow) : Prop :=
  ∀ entry ∈ workflow.steps, ∀ input, entry.2.input = some input →
    input ∈ Table.keys workflow.steps

/-- Following inputs never leads back to where it started; a step that is its own input is a
cycle too. -/
def InputsAcyclic (workflow : Workflow) : Prop :=
  ∀ name, ¬Relation.TransGen workflow.Feeds name name

/-- The steps without an input, in declaration order. -/
def roots (workflow : Workflow) : List String :=
  (workflow.steps.filter fun entry => entry.2.input.isNone).map Prod.fst

/-- The shape of a workflow that can be run. -/
structure WellShaped (workflow : Workflow) : Prop where
  nonempty : workflow.steps ≠ []
  registered : workflow.Registered
  inputsNamed : workflow.InputsNamed
  acyclic : workflow.InputsAcyclic
  oneRoot : workflow.roots.length = 1
  artifactsNamed : ∀ artifact ∈ workflow.artifacts, artifact.2 ∈ Table.keys workflow.steps

/-- The error of the first check of a workflow's shape that fails, the checks made in order: a
step, registered transformations, inputs that name steps, no cycle, one root, artifacts that name
steps. The first offender in declaration order is named; a cycle may be named by any step. -/
inductive FailsFirst (workflow : Workflow) : DefinitionError → Prop
  | empty : workflow.steps = [] → FailsFirst workflow .empty
  | unknownTransformation {pre post : Table Step} {name : String} {step : Step} :
      workflow.steps = pre ++ (name, step) :: post →
      (∀ entry ∈ pre, Transformation.isRegistered entry.2.transformation = true) →
      Transformation.isRegistered step.transformation = false →
      FailsFirst workflow (.unknownTransformation name step.transformation)
  | unknownInputStep {pre post : Table Step} {name input : String} {step : Step} :
      workflow.Registered → workflow.steps = pre ++ (name, step) :: post →
      (∀ entry ∈ pre, ∀ input, entry.2.input = some input →
        input ∈ Table.keys workflow.steps) →
      step.input = some input → input ∉ Table.keys workflow.steps →
      FailsFirst workflow (.unknownInputStep name input)
  | cycle (name : String) :
      workflow.Registered → workflow.InputsNamed → ¬workflow.InputsAcyclic →
      FailsFirst workflow (.cycle name)
  | multipleRootSteps :
      workflow.Registered → workflow.InputsNamed → workflow.InputsAcyclic →
      2 ≤ workflow.roots.length → FailsFirst workflow (.multipleRootSteps workflow.roots)
  | unknownArtifactStep {pre post : Table String} {artifact step : String} :
      workflow.Registered → workflow.InputsNamed → workflow.InputsAcyclic →
      workflow.roots.length = 1 → workflow.artifacts = pre ++ (artifact, step) :: post →
      (∀ entry ∈ pre, entry.2 ∈ Table.keys workflow.steps) → step ∉ Table.keys workflow.steps →
      FailsFirst workflow (.unknownArtifactStep artifact step)

variable {workflow : Workflow}

/-- A workflow of the right shape fails no check. -/
theorem FailsFirst.not_wellShaped {error : DefinitionError} (failing : workflow.FailsFirst error) :
    ¬workflow.WellShaped := by
  intro shaped
  cases failing with
  | empty none => exact shaped.nonempty none
  | unknownTransformation split _ unregistered =>
    have member := split ▸ List.mem_append_right _ List.mem_cons_self
    simp [shaped.registered _ member] at unregistered
  | unknownInputStep _ split _ fed unnamed =>
    exact unnamed (shaped.inputsNamed _ (split ▸ List.mem_append_right _ List.mem_cons_self) _ fed)
  | cycle _ _ _ cyclic => exact cyclic shaped.acyclic
  | multipleRootSteps _ _ _ several =>
    have one := shaped.oneRoot
    omega
  | unknownArtifactStep _ _ _ _ split _ unnamed =>
    exact unnamed (shaped.artifactsNamed _ (split ▸ List.mem_append_right _ List.mem_cons_self))

/-- No check is about a missing root. -/
theorem FailsFirst.ne_noRootStep (failing : workflow.FailsFirst .noRootStep) : False := by
  cases failing

end Workflow

namespace StepGraph

/-- The root of a graph built from a workflow is its one step without an input, and following
inputs from any step leads there: the steps form a tree. -/
structure Rooted (workflow : Workflow) (graph : StepGraph) : Prop where
  rootStep : graph.root < workflow.steps.length
  onlyRoot : workflow.roots = [graph.name graph.root]
  reachesRoot : ∀ node < workflow.steps.length,
    Relation.ReflTransGen (fun node producer => graph.input node = some producer) node graph.root

variable {workflow : Workflow}

/-! ### The checks one at a time -/

theorem find?_unregistered {name : String} {step : Step}
    (found : workflow.steps.find? (fun entry => !Transformation.isRegistered entry.2.transformation) =
      some (name, step)) :
    ∃ pre post, workflow.steps = pre ++ (name, step) :: post ∧
      (∀ entry ∈ pre, Transformation.isRegistered entry.2.transformation = true) ∧
      Transformation.isRegistered step.transformation = false := by
  obtain ⟨unregistered, pre, post, split, before⟩ := List.find?_eq_some_iff_append.mp found
  exact ⟨pre, post, split, fun entry member => by simpa using before entry member,
    by simpa using unregistered⟩

theorem registered_of_find?_eq_none
    (unfound : workflow.steps.find? (fun entry => !Transformation.isRegistered entry.2.transformation) =
      none) : workflow.Registered := by
  intro entry member
  simpa using List.find?_eq_none.mp unfound entry member

/-- The edges of the steps stop at the first step whose input names no step. The induction is on
the steps: a first step whose input names a step leaves the error to the rest. -/
theorem edgesOf_eq_error {names : List String} :
    ∀ {entries : List (Nat × String × Step)} {error : DefinitionError},
      edgesOf names entries = .error error →
        ∃ pre position name step post input, entries = pre ++ (position, name, step) :: post ∧
          (∀ entry ∈ pre, ∀ input, entry.2.2.input = some input → input ∈ names) ∧
          step.input = some input ∧ input ∉ names ∧ error = .unknownInputStep name input := by
  intro entries
  induction entries with
  | nil =>
    intro error failed
    cases failed
  | cons first rest inductionHypothesis =>
    obtain ⟨position, name, step⟩ := first
    intro error failed
    have passes : (∀ input, step.input = some input → input ∈ names) →
        edgesOf names rest = .error error →
        ∃ pre position' name' step' post input,
          (position, name, step) :: rest = pre ++ (position', name', step') :: post ∧
          (∀ entry ∈ pre, ∀ input, entry.2.2.input = some input → input ∈ names) ∧
          step'.input = some input ∧ input ∉ names ∧ error = .unknownInputStep name' input := by
      intro named restFailed
      obtain ⟨pre, position', name', step', post, input, split, before, fed, unnamed, named'⟩ :=
        inductionHypothesis restFailed
      exact ⟨(position, name, step) :: pre, position', name', step', post, input,
        by rw [split, List.cons_append], List.forall_mem_cons.mpr ⟨named, before⟩, fed, unnamed,
        named'⟩
    simp only [edgesOf] at failed
    cases fed : step.input with
    | none =>
      simp only [fed] at failed
      exact passes (fun input declared => by rw [fed] at declared; cases declared) failed
    | some input =>
      simp only [fed] at failed
      split at failed
      · next missing =>
        simp only [Except.error.injEq] at failed
        refine ⟨[], position, name, step, rest, input, rfl, by simp, fed, fun member => ?_,
          failed.symm⟩
        have found := List.isSome_idxOf?.mpr member
        rw [missing] at found
        cases found
      · next producer found =>
        rw [Except.bind_eq_error] at failed
        rcases failed with restFailed | ⟨others, -, done⟩
        · refine passes (fun other declared => ?_) restFailed
          rw [fed, Option.some.injEq] at declared
          subst declared
          exact List.isSome_idxOf?.mp (by rw [found]; rfl)
        · cases done

/-! ### The edges of the steps -/

theorem length_keys_steps (workflow : Workflow) :
    (Table.keys workflow.steps).length = workflow.steps.length := by
  simp [Table.keys]

/-- With distinct names, a step stands at the position of its name. -/
theorem getElem?_idxOf (distinct : (Table.keys workflow.steps).Nodup) {name : String} {step : Step}
    (member : (name, step) ∈ workflow.steps) :
    workflow.steps[(Table.keys workflow.steps).idxOf name]? = some (name, step) := by
  obtain ⟨position, found⟩ := List.mem_iff_getElem?.mp member
  obtain ⟨within, atPosition⟩ := List.getElem?_eq_some_iff.mp found
  have keyWithin : position < (Table.keys workflow.steps).length := by
    simpa [Table.keys] using within
  have named : (Table.keys workflow.steps)[position] = name := by
    simp [Table.keys, atPosition]
  have atName : (Table.keys workflow.steps).idxOf name = position := by
    rw [← named, distinct.idxOf_getElem position keyWithin]
  rw [atName]
  exact found

section Edges

variable {edges : List (Nat × Nat)}
  (linked : edgesOf (Table.keys workflow.steps)
    ((List.range workflow.steps.length).zip workflow.steps) = .ok edges)
include linked

theorem mem_edges {producer consumer : Nat} :
    (producer, consumer) ∈ edges ↔ ∃ name step input,
      workflow.steps[consumer]? = some (name, step) ∧ step.input = some input ∧
        (Table.keys workflow.steps).idxOf? input = some producer := by
  rw [(edgesOf_eq_ok linked).1]
  simp only [mem_zip_range]

theorem inputsNamed_of_edgesOf : workflow.InputsNamed := by
  intro entry member input fed
  obtain ⟨position, found⟩ := List.mem_iff_getElem?.mp member
  exact (edgesOf_eq_ok linked).2 (position, entry) (mem_zip_range.mpr found) input fed

theorem bounded_of_edgesOf :
    ∀ edge ∈ edges, edge.1 < workflow.steps.length ∧ edge.2 < workflow.steps.length := by
  rintro ⟨producer, consumer⟩ member
  obtain ⟨name, step, input, found, -, located⟩ := (mem_edges linked).mp member
  obtain ⟨within, -, -⟩ := List.idxOf?_eq_some_iff.mp located
  exact ⟨by simpa [Table.keys] using within, (List.getElem?_eq_some_iff.mp found).1⟩

/-- An edge runs from the node of a step's input to the step. -/
theorem feeds_of_linked {producer consumer : Nat} (member : (producer, consumer) ∈ edges) :
    workflow.Feeds ((Table.keys workflow.steps).getD producer "")
      ((Table.keys workflow.steps).getD consumer "") := by
  obtain ⟨name, step, input, found, fed, located⟩ := (mem_edges linked).mp member
  obtain ⟨within, atProducer, -⟩ := List.idxOf?_eq_some_iff.mp located
  have consumerName : (Table.keys workflow.steps).getD consumer "" = name := by
    simp [Table.keys, List.getD_eq_getElem?_getD, found]
  rw [consumerName, List.getD_eq_getElem _ _ within, atProducer]
  exact ⟨step, List.mem_of_getElem? found, fed⟩

/-- With distinct names, a step's input is the source of an edge into the step. -/
theorem linked_of_feeds (distinct : (Table.keys workflow.steps).Nodup) {producer consumer : String}
    (feeds : workflow.Feeds producer consumer) :
    ((Table.keys workflow.steps).idxOf producer, (Table.keys workflow.steps).idxOf consumer) ∈
      edges := by
  obtain ⟨step, member, fed⟩ := feeds
  have named := inputsNamed_of_edgesOf linked _ member producer fed
  obtain ⟨position, located⟩ := Option.isSome_iff_exists.mp (List.isSome_idxOf?.mpr named)
  have atPosition : (Table.keys workflow.steps).idxOf producer = position := by
    rw [List.idxOf_eq_getD_idxOf?, located]
    rfl
  rw [atPosition]
  exact (mem_edges linked).mpr ⟨consumer, step, producer, getElem?_idxOf distinct member, fed, located⟩

/-- With distinct names, the edges have a cycle exactly when the inputs do: a chain of inputs is a
chain of edges between the positions of the names, and a chain of edges is a chain of inputs
between the names of its nodes. -/
theorem acyclic_iff_inputsAcyclic (distinct : (Table.keys workflow.steps).Nodup) :
    Acyclic edges ↔ workflow.InputsAcyclic := by
  constructor
  · intro acyclic name cycle
    have lifted : ∀ {first last : String}, Relation.TransGen workflow.Feeds first last →
        Relation.TransGen (Linked edges) ((Table.keys workflow.steps).idxOf first)
          ((Table.keys workflow.steps).idxOf last) := by
      intro first last chain
      induction chain with
      | single feeds => exact .single (linked_of_feeds linked distinct feeds)
      | tail _ feeds lifted => exact lifted.tail (linked_of_feeds linked distinct feeds)
    exact acyclic _ (lifted cycle)
  · intro acyclic node cycle
    have lifted : ∀ {first last : Nat}, Relation.TransGen (Linked edges) first last →
        Relation.TransGen workflow.Feeds ((Table.keys workflow.steps).getD first "")
          ((Table.keys workflow.steps).getD last "") := by
      intro first last chain
      induction chain with
      | single member => exact .single (feeds_of_linked linked member)
      | tail _ member lifted => exact lifted.tail (feeds_of_linked linked member)
    exact acyclic _ (lifted cycle)

end Edges

/-! ### Roots -/

/-- The nodes of the steps without an input. -/
theorem mem_rootNodes {node : Nat} :
    node ∈ (((List.range workflow.steps.length).zip workflow.steps).filter
        fun entry => entry.2.2.input.isNone).map Prod.fst ↔
      ∃ name step, workflow.steps[node]? = some (name, step) ∧ step.input = none := by
  simp only [List.mem_map, List.mem_filter]
  constructor
  · rintro ⟨⟨position, name, step⟩, ⟨member, root⟩, rfl⟩
    exact ⟨name, step, mem_zip_range.mp member, by simpa using root⟩
  · rintro ⟨name, step, found, root⟩
    exact ⟨(node, name, step), ⟨mem_zip_range.mpr found, by simp [root]⟩, rfl⟩

/-- Named, the nodes of the steps without an input are the steps without an input. -/
theorem rootNodes_getD (workflow : Workflow) :
    ((((List.range workflow.steps.length).zip workflow.steps).filter
        fun entry => entry.2.2.input.isNone).map Prod.fst).map
          ((Table.keys workflow.steps).getD · "") = workflow.roots := by
  have unnumbered : workflow.steps =
      ((List.range workflow.steps.length).zip workflow.steps).map Prod.snd :=
    (List.map_snd_zip (by simp)).symm
  conv_rhs => rw [Workflow.roots, unnumbered, List.filter_map, List.map_map]
  rw [List.map_map]
  refine List.map_congr_left fun entry member => ?_
  obtain ⟨position, name, step⟩ := entry
  have found := mem_zip_range.mp (List.mem_filter.mp member).1
  simp [Table.keys, List.getD_eq_getElem?_getD, found]

/-- A graph of the steps that the passes order has a step without an input: the first node of
the order has no edge coming into it, which the input of its step would be the source of. -/
theorem exists_rootNode {edges : List (Nat × Nat)} {order : List Nat}
    (linked : edgesOf (Table.keys workflow.steps)
      ((List.range workflow.steps.length).zip workflow.steps) = .ok edges)
    (sorted : toposort edges workflow.steps.length = .ok order) (nonempty : workflow.steps ≠ []) :
    ∃ node, node ∈ (((List.range workflow.steps.length).zip workflow.steps).filter
        fun entry => entry.2.2.input.isNone).map Prod.fst := by
  obtain ⟨covers, -, inputsFirst⟩ :=
    toposort_eq_ok (fun edge member => (bounded_of_edgesOf linked edge member).2) sorted
  have started : 0 ∈ order := (covers 0).mpr (List.length_pos_of_ne_nil nonempty)
  obtain ⟨first, rest, rfl⟩ := List.exists_cons_of_ne_nil (List.ne_nil_of_mem started)
  have within : first < workflow.steps.length := (covers first).mp List.mem_cons_self
  have found : workflow.steps[first]? = some workflow.steps[first] := List.getElem?_eq_getElem within
  refine ⟨first, mem_rootNodes.mpr ⟨_, _, found, ?_⟩⟩
  cases fed : workflow.steps[first].2.input with
  | none => rfl
  | some input =>
    have named := inputsNamed_of_edgesOf linked _ (List.mem_of_getElem? found) input fed
    obtain ⟨producer, located⟩ := Option.isSome_iff_exists.mp (List.isSome_idxOf?.mpr named)
    have edge := (mem_edges linked).mpr ⟨_, _, input, found, fed, located⟩
    exact absurd (inputsFirst [] first rest rfl producer edge) List.not_mem_nil

theorem find?_unnamedArtifact {artifact step : String}
    (found : workflow.artifacts.find? (fun entry => !(Table.keys workflow.steps).contains entry.2) =
      some (artifact, step)) :
    ∃ pre post, workflow.artifacts = pre ++ (artifact, step) :: post ∧
      (∀ entry ∈ pre, entry.2 ∈ Table.keys workflow.steps) ∧ step ∉ Table.keys workflow.steps := by
  obtain ⟨unnamed, pre, post, split, before⟩ := List.find?_eq_some_iff_append.mp found
  exact ⟨pre, post, split, fun entry member => by simpa using before entry member,
    by simpa using unnamed⟩

/-- A step of the numbered steps splits the steps where it stands. -/
theorem split_of_numbered {pre post : List (Nat × String × Step)} {position : Nat} {name : String}
    {step : Step}
    (split : (List.range workflow.steps.length).zip workflow.steps =
      pre ++ (position, name, step) :: post) :
    workflow.steps = pre.map Prod.snd ++ (name, step) :: post.map Prod.snd := by
  have unnumbered := congrArg (List.map Prod.snd) split
  rw [List.map_snd_zip (by simp)] at unnumbered
  simpa using unnumbered

/-! ### Building -/

/-- A workflow that building refuses fails the check that building reports, and every check
before it passes. -/
theorem build_eq_error (distinct : (Table.keys workflow.steps).Nodup) {error : DefinitionError}
    (failed : build workflow = .error error) : workflow.FailsFirst error := by
  cases empty : workflow.steps.isEmpty
  · have nonempty : workflow.steps ≠ [] := fun none => by simp [none] at empty
    simp only [build, empty, Bool.false_eq_true, ↓reduceIte] at failed
    split at failed
    · next name step found =>
      simp only [throw, throwThe, MonadExceptOf.throw, bind, Except.bind, Except.error.injEq] at failed
      obtain ⟨pre, post, split, before, unregistered⟩ := find?_unregistered found
      rw [← failed]
      exact .unknownTransformation split before unregistered
    · next unfound =>
      have registered := registered_of_find?_eq_none unfound
      simp only [bind, Except.bind, pure, Except.pure, length_keys_steps, List.map_id',
        throw, throwThe, MonadExceptOf.throw] at failed
      split at failed
      · next problem linkFailed =>
        simp only [Except.error.injEq] at failed
        subst failed
        obtain ⟨pre, position, name, step, post, input, split, before, fed, unnamed, rfl⟩ :=
          edgesOf_eq_error linkFailed
        refine .unknownInputStep registered (split_of_numbered split) ?_ fed unnamed
        intro entry member
        obtain ⟨numbered, inPre, rfl⟩ := List.mem_map.mp member
        exact before numbered inPre
      · next edges linked =>
        have inputsNamed := inputsNamed_of_edgesOf linked
        have bounded := bounded_of_edgesOf linked
        split at failed
        · next order sorted =>
          have acyclic : workflow.InputsAcyclic :=
            (acyclic_iff_inputsAcyclic linked distinct).mp (acyclic_of_toposort bounded sorted)
          have named := rootNodes_getD workflow
          split at failed
          · next noRoots =>
            obtain ⟨node, member⟩ := exists_rootNode linked sorted nonempty
            rw [noRoots] at member
            cases member
          · next root oneRoot =>
            have single : workflow.roots.length = 1 := by
              rw [← named, oneRoot]
              rfl
            split at failed
            · next artifact step found =>
              simp only [Except.error.injEq] at failed
              subst failed
              obtain ⟨pre, post, split, before, unnamed⟩ := find?_unnamedArtifact found
              exact .unknownArtifactStep registered inputsNamed acyclic single split before unnamed
            · cases failed
          · next roots notNone notOne =>
            simp only [Except.error.injEq] at failed
            subst failed
            rw [named]
            refine .multipleRootSteps registered inputsNamed acyclic ?_
            rw [← named, List.length_map]
            rcases nodes : (((List.range workflow.steps.length).zip workflow.steps).filter
                fun entry => entry.2.2.input.isNone).map Prod.fst with
              _ | ⟨first, _ | ⟨second, rest⟩⟩
            · exact absurd nodes notNone
            · exact absurd nodes (notOne first)
            · have counted := congrArg List.length nodes
              simp only [List.length_map, List.length_cons] at counted ⊢
              omega
        · next node cyclic =>
          simp only [Except.error.injEq] at failed
          subst failed
          refine .cycle _ registered inputsNamed fun acyclic => ?_
          obtain ⟨order, sorted⟩ := toposort_of_acyclic bounded
            ((acyclic_iff_inputsAcyclic linked distinct).mpr acyclic)
          rw [sorted] at cyclic
          cases cyclic
  · simp [build, empty, throw, throwThe, MonadExceptOf.throw, bind, Except.bind] at failed
    subst failed
    exact .empty (List.isEmpty_iff.mp empty)

/-- In a graph faithful to its workflow whose root is the one step without an input, following
inputs from any step leads to the root. The induction is on the position of the step in the
order: a step without an input is the root, and the input of any other step stands before it. -/
theorem Faithful.reachesRoot {graph : StepGraph} (faithful : Faithful workflow graph)
    (rootOnly : ∀ node name step, workflow.steps[node]? = some (name, step) → step.input = none →
      node = graph.root) :
    ∀ node < workflow.steps.length,
      Relation.ReflTransGen (fun node producer => graph.input node = some producer) node
        graph.root := by
  intro node within
  induction located : graph.order.idxOf node using Nat.strong_induction_on generalizing node with
  | _ position inductionHypothesis =>
    have found : workflow.steps[node]? = some workflow.steps[node] := List.getElem?_eq_getElem within
    cases fed : graph.input node with
    | none =>
      have declared := faithful.inputOfStep node _ _ found
      rw [fed] at declared
      rw [rootOnly node _ _ found declared.symm]
    | some producer =>
      obtain ⟨pre, post, split⟩ := List.append_of_mem ((faithful.covers node).mpr within)
      have earlier := faithful.inputsFirst pre node post split producer fed
      have producerWithin : producer < workflow.steps.length :=
        (faithful.covers producer).mp (split ▸ List.mem_append_left _ earlier)
      have closer : graph.order.idxOf producer < position :=
        located ▸ idxOf_lt_of_split faithful.once split earlier
      exact .head fed (inductionHypothesis _ closer producer producerWithin rfl)

/-- A workflow that building accepts has the right shape, and its graph is a tree rooted at the
one step without an input. -/
theorem build_eq_ok_shaped (distinct : (Table.keys workflow.steps).Nodup) {graph : StepGraph}
    (built : build workflow = .ok graph) : workflow.WellShaped ∧ Rooted workflow graph := by
  have faithful := build_faithful built
  cases empty : workflow.steps.isEmpty
  · have nonempty : workflow.steps ≠ [] := fun none => by simp [none] at empty
    simp only [build, empty, Bool.false_eq_true, ↓reduceIte] at built
    split at built
    · simp [throw, throwThe, MonadExceptOf.throw, bind, Except.bind] at built
    · next unfound =>
      have registered := registered_of_find?_eq_none unfound
      simp only [bind, Except.bind, pure, Except.pure, length_keys_steps, List.map_id',
        throw, throwThe, MonadExceptOf.throw] at built
      split at built
      · cases built
      · next edges linked =>
        split at built
        · next order sorted =>
          have named := rootNodes_getD workflow
          split at built
          · cases built
          · next root oneRoot =>
            split at built
            · cases built
            · next unnamed =>
              simp only [Except.ok.injEq] at built
              subst built
              have acyclic : workflow.InputsAcyclic := (acyclic_iff_inputsAcyclic linked distinct).mp
                (acyclic_of_toposort (bounded_of_edgesOf linked) sorted)
              have single : workflow.roots.length = 1 := by
                rw [← named, oneRoot]
                rfl
              have artifactsNamed :
                  ∀ artifact ∈ workflow.artifacts, artifact.2 ∈ Table.keys workflow.steps := by
                intro artifact member
                simpa using List.find?_eq_none.mp unnamed artifact member
              have rootOnly : ∀ node name step, workflow.steps[node]? = some (name, step) →
                  step.input = none → node = root := by
                intro node name step found none
                have member := mem_rootNodes.mpr ⟨name, step, found, none⟩
                rw [oneRoot] at member
                exact List.mem_singleton.mp member
              have rootMember : root ∈ [root] := List.mem_singleton_self root
              rw [← oneRoot] at rootMember
              obtain ⟨name, step, found, -⟩ := mem_rootNodes.mp rootMember
              refine ⟨⟨nonempty, registered, inputsNamed_of_edgesOf linked, acyclic, single,
                artifactsNamed⟩, (List.getElem?_eq_some_iff.mp found).1, ?_,
                faithful.reachesRoot rootOnly⟩
              rw [← named, oneRoot]
              rfl
          · cases built
        · cases built
  · simp [build, empty, throw, throwThe, MonadExceptOf.throw, bind, Except.bind] at built

/-- Building the step graph decides the shape of a workflow whose step names are distinct, as
they are in every workflow read from its document (`keyed_of_ofText`). It succeeds exactly on
workflows of the right shape; then the order runs every step once, after its input, each node's
input is its step's declared input, and the steps form a tree rooted at the one step without an
input. Otherwise it reports the first check that fails, and never a missing root. A workflow of
the right shape is built, since a refusal names a check that it passes. -/
theorem build_decides_shape (distinct : (Table.keys workflow.steps).Nodup) :
    ((∃ graph, build workflow = .ok graph) ↔ workflow.WellShaped) ∧
    (∀ graph, build workflow = .ok graph → Faithful workflow graph ∧ Rooted workflow graph) ∧
    (∀ error, build workflow = .error error → workflow.FailsFirst error) ∧
    build workflow ≠ .error .noRootStep := by
  refine ⟨⟨fun ⟨_, built⟩ => (build_eq_ok_shaped distinct built).1, fun shaped => ?_⟩,
    fun _ built => ⟨build_faithful built, (build_eq_ok_shaped distinct built).2⟩,
    fun _ failed => build_eq_error distinct failed,
    fun failed => (build_eq_error distinct failed).ne_noRootStep⟩
  cases built : build workflow with
  | error error => exact absurd shaped (build_eq_error distinct built).not_wellShaped
  | ok graph => exact ⟨graph, rfl⟩

end StepGraph

/-- Two steps: relations are deleted, then references are counted in what is left. -/
def cleanupThenCount : Workflow :=
  { steps := [("cleanup", { transformation := "delete_relations" }),
      ("count", { transformation := "count_references", input := some "cleanup" })] }

/-- The shape of the two steps is decided by building their graph. -/
theorem cleanupThenCount_shape_decided : (Table.keys cleanupThenCount.steps).Nodup ∧
    ((∃ graph, StepGraph.build cleanupThenCount = .ok graph) ↔ cleanupThenCount.WellShaped) ∧
    (∀ graph, StepGraph.build cleanupThenCount = .ok graph →
      StepGraph.Faithful cleanupThenCount graph ∧ StepGraph.Rooted cleanupThenCount graph) ∧
    (∀ error, StepGraph.build cleanupThenCount = .error error →
      cleanupThenCount.FailsFirst error) ∧
    StepGraph.build cleanupThenCount ≠ .error .noRootStep :=
  have distinct : (Table.keys cleanupThenCount.steps).Nodup := by decide
  ⟨distinct, StepGraph.build_decides_shape distinct⟩

-- a step that is its own input is a cycle
example :
    StepGraph.build
        { steps := [("loop", { transformation := "delete_relations", input := some "loop" })] } =
      .error (.cycle "loop") :=
  rfl

end Recast
