import Recast.Workflow.Definition
/-!
The step graph of a workflow, and the order its steps run in.

Node `i` is the `i`-th declared step; for each step with an input, in declaration order, an edge
goes from the input to the step. The neighbours of a node, either way, are listed from the
latest edge to the earliest.

Building the graph checks the definition, failing on the first of: no steps, a step with an
unregistered transformation, a step whose input is no step, a cycle, not exactly one root (a
step without input), an artifact naming no step.

The order is a topological order found in two depth-first passes. The first visits the nodes
from each undiscovered node in index order, following outgoing edges, and lists them as they
finish; reversed, that list is the order. An edge from a node to itself is a cycle through the
node. The second pass checks the order: from each node in order, it walks incoming edges in
depth-first preorder with marks kept across starts; reaching a second node from one start means
a cycle through that node.
-/

namespace Recast

/-- Why a workflow definition is not a valid workflow. -/
inductive DefinitionError where
  | empty
  | unknownTransformation (step transformation : String)
  | unknownInputStep (step input : String)
  | noRootStep
  | multipleRootSteps (steps : List String)
  | cycle (step : String)
  | unknownArtifactStep (artifact step : String)
  deriving DecidableEq, Inhabited, Repr

/-- The text of a definition error. -/
def DefinitionError.message : DefinitionError → String
  | .empty => "Workflow defines no steps"
  | .unknownTransformation step transformation =>
    "Step '" ++ step ++ "' uses unknown transformation '" ++ transformation ++ "'"
  | .unknownInputStep step input => "Step '" ++ step ++ "' consumes unknown step '" ++ input ++ "'"
  | .noRootStep => "Workflow has no root step (every step declares an input)"
  | .multipleRootSteps steps =>
    "Workflow must have exactly one root step, found: " ++ ", ".intercalate steps
  | .cycle step => "Workflow steps form a cycle through step '" ++ step ++ "'"
  | .unknownArtifactStep artifact step =>
    "Artifact '" ++ artifact ++ "' references unknown step '" ++ step ++ "'"

/-! ### Edges -/

/-- The nodes an edge list leads to from a node, latest edge first. -/
def outgoing (edges : List (Nat × Nat)) (node : Nat) : List Nat :=
  ((edges.filter fun edge => edge.1 == node).map Prod.snd).reverse

/-- The nodes an edge list leads to a node from, latest edge first. -/
def incoming (edges : List (Nat × Nat)) (node : Nat) : List Nat :=
  ((edges.filter fun edge => edge.2 == node).map Prod.fst).reverse

/-! ### The first pass: finishing order -/

/-- Marks of the first pass: nodes discovered, nodes finished, and the finishing order. -/
structure Marks where
  discovered : List Nat := []
  finished : List Nat := []
  order : List Nat := []

/-- Runs the first pass from a stack (top first) until it is empty; a node with an edge to
itself stops it with that node. -/
def finishAll (edges : List (Nat × Nat)) : Nat → List Nat → Marks → Except Nat Marks
  | 0, _, marks => .ok marks
  | _ + 1, [], marks => .ok marks
  | fuel + 1, node :: below, marks =>
    if !marks.discovered.contains node then
      let next := outgoing edges node
      if next.contains node then .error node
      else
        let pushed := next.filter fun other => !marks.discovered.contains other
        finishAll edges fuel (pushed.reverse ++ node :: below)
          { marks with discovered := node :: marks.discovered }
    else if !marks.finished.contains node then
      finishAll edges fuel below
        { marks with finished := node :: marks.finished, order := marks.order ++ [node] }
    else finishAll edges fuel below marks

/-- The first pass from every node, in index order, not yet discovered. -/
def finishOrder (edges : List (Nat × Nat)) (count : Nat) : Except Nat (List Nat) := do
  let fuel := 2 * (count + edges.length) + 2
  let marks ← (List.range count).foldlM (fun marks start =>
    if marks.discovered.contains start then .ok marks
    else finishAll edges fuel [start] marks) ({} : Marks)
  pure marks.order

/-! ### The second pass: cycle check -/

/-- The next node of a preorder walk over incoming edges: pops the stack (top first) until an
undiscovered node, marks it, and pushes its undiscovered neighbours. -/
def nextIncoming (edges : List (Nat × Nat)) : List Nat → List Nat → Option (Nat × List Nat × List Nat)
  | [], _ => none
  | node :: below, discovered =>
    if discovered.contains node then nextIncoming edges below discovered
    else
      let pushed := (incoming edges node).filter fun other => !discovered.contains other && other != node
      some (node, pushed.reverse ++ below, node :: discovered)

/-- The second pass over an order: the first node reached as the second node of one start. -/
def secondReached (edges : List (Nat × Nat)) : List Nat → List Nat → Option Nat
  | [], _ => none
  | start :: rest, discovered =>
    match nextIncoming edges [start] discovered with
    | none => secondReached edges rest discovered
    | some (_, stack, discovered) =>
      match nextIncoming edges stack discovered with
      | some (second, _, _) => some second
      | none => secondReached edges rest discovered

/-- A topological order of the nodes, or a node a cycle goes through. -/
def toposort (edges : List (Nat × Nat)) (count : Nat) : Except Nat (List Nat) := do
  let order := (← finishOrder edges count).reverse
  match secondReached edges order [] with
  | some node => throw node
  | none => pure order

/-! ### The graph -/

/-- A checked workflow: its step names by node, its edges, its order and its root. -/
structure StepGraph where
  names : List String
  edges : List (Nat × Nat)
  order : List Nat
  root : Nat
  deriving Inhabited

namespace StepGraph

/-- The node of a step name. -/
def indexOf (graph : StepGraph) (step : String) : Option Nat :=
  graph.names.idxOf? step

/-- The name of a node. -/
def name (graph : StepGraph) (node : Nat) : String :=
  graph.names.getD node ""

/-- The step names in the order they run. -/
def stepNames (graph : StepGraph) : List String :=
  graph.order.map graph.name

/-- The node whose output feeds a node, none for the root. -/
def input (graph : StepGraph) (node : Nat) : Option Nat :=
  (incoming graph.edges node).head?

/-- The steps consuming a node's output. -/
def consumers (graph : StepGraph) (node : Nat) : List String :=
  (outgoing graph.edges node).map graph.name

/-- The number of steps. -/
def size (graph : StepGraph) : Nat :=
  graph.names.length

/-- The edges of the steps, in declaration order; the first step naming an unknown input stops
it. -/
def edgesOf (names : List String) : List (Nat × String × Step) → Except DefinitionError (List (Nat × Nat))
  | [] => .ok []
  | (position, name, step) :: rest =>
    match step.input with
    | none => edgesOf names rest
    | some input =>
      match names.idxOf? input with
      | none => .error (.unknownInputStep name input)
      | some producer => do
        let others ← edgesOf names rest
        pure ((producer, position) :: others)

/-- Checks a workflow definition and orders its steps. -/
def build (workflow : Workflow) : Except DefinitionError StepGraph := do
  if workflow.steps.isEmpty then throw .empty
  match workflow.steps.find? fun (_, step) => !Transformation.isRegistered step.transformation with
  | some (name, step) => throw (.unknownTransformation name step.transformation)
  | none => pure ()
  let names := Table.keys workflow.steps
  let numbered := (List.range names.length).zip workflow.steps
  let edges ← edgesOf names (numbered.map fun (position, name, step) => (position, name, step))
  let order ← match toposort edges names.length with
    | .ok order => pure order
    | .error node => throw (.cycle (names.getD node ""))
  let roots := (numbered.filter fun (_, _, step) => step.input.isNone).map Prod.fst
  let root ← match roots with
    | [] => throw .noRootStep
    | [root] => pure root
    | _ => throw (.multipleRootSteps (roots.map (names.getD · "")))
  match workflow.artifacts.find? fun (_, step) => !names.contains step with
  | some (artifact, step) => throw (.unknownArtifactStep artifact step)
  | none => pure ()
  pure ⟨names, edges, order, root⟩

end StepGraph

end Recast
