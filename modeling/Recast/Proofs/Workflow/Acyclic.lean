import Mathlib.Logic.Relation
import Recast.Proofs.Workflow.Order
/-!
The two passes order exactly the graphs without cycles.

One way is read off the order: its nodes are listed once each, every edge goes forward in it, so
following edges climbs the list and never comes back (`acyclic_of_toposort`).

The other way is the depth-first argument. A node is under way from the moment it is discovered
until it is finished, and its topmost entry on the stack is the one that finishes it. Everything
above that entry was pushed by the node or by nodes discovered after it, so it can be reached from
the node (`Marks.Layered`). When a node finishes, every node it leads to is discovered; one still
under way would have its topmost entry below, would reach the finishing node and, with the edge
back, close a cycle. So in a graph without cycles a node finishes after every node it leads to
(`Settled`), and the finishing order, reversed, puts each node after the nodes that lead to it.
That is what the second pass checks, so it finds nothing (`toposort_ok_iff_acyclic`). The first
pass stops early only at an edge from a node to itself, which is a cycle too.
-/

namespace Recast

variable {edges : List (Nat × Nat)} {count : Nat}

/-- An edge of the graph, as a relation between its nodes. -/
def Linked (edges : List (Nat × Nat)) (source target : Nat) : Prop :=
  (source, target) ∈ edges

/-- No node leads back to itself along one edge or more. -/
def Acyclic (edges : List (Nat × Nat)) : Prop :=
  ∀ node, ¬Relation.TransGen (Linked edges) node node

/-- Every node of the list stands after the nodes its edges lead to: the order nodes finish in. -/
def Settled (edges : List (Nat × Nat)) (order : List Nat) : Prop :=
  ∀ pre node post, order = pre ++ node :: post → ∀ next, (node, next) ∈ edges → next ∈ pre

/-- A node finished after every node it leads to keeps the order settled. -/
theorem settled_concat {order : List Nat} {node : Nat} (settled : Settled edges order)
    (after : ∀ next, (node, next) ∈ edges → next ∈ order) : Settled edges (order ++ [node]) := by
  intro pre other post split next linked
  rcases List.eq_nil_or_concat post with rfl | ⟨rest, last, rfl⟩
  · obtain ⟨rfl, same⟩ := List.append_inj' split rfl
    rw [List.singleton_inj] at same
    exact after next (same ▸ linked)
  · have earlier : order ++ [node] = (pre ++ other :: rest) ++ [last] := by
      rw [split, List.concat_eq_append]
      simp
    obtain ⟨before, -⟩ := List.append_inj' earlier rfl
    exact settled pre other rest before next linked

/-- Reversed, a settled order without repeats lets no edge come into a node from a node after it. -/
theorem settled_reverse {order : List Nat} (settled : Settled edges order) (once : order.Nodup)
    {pre post : List Nat} {node : Nat} (split : order.reverse = pre ++ node :: post) :
    ∀ other ∈ post, (other, node) ∉ edges := by
  intro other later linked
  obtain ⟨middle, rest, rfl⟩ := List.append_of_mem later
  have reversed : order = rest.reverse ++ other :: (middle.reverse ++ node :: pre.reverse) := by
    rw [← List.reverse_reverse order, split]
    simp
  have again := settled _ other _ reversed node linked
  rw [reversed] at once
  exact (List.nodup_append.mp once).2.2 node again node
    (List.mem_cons_of_mem _ (List.mem_append_right _ List.mem_cons_self)) rfl

/-! ### The first pass on a graph without cycles -/

/-- An entry for another node than the top one lies under the top. -/
theorem eq_cons_of_split {top node : Nat} {below above rest : List Nat} (differ : node ≠ top)
    (split : top :: below = above ++ node :: rest) :
    ∃ others, above = top :: others ∧ below = others ++ node :: rest := by
  cases above with
  | nil => exact absurd (List.cons.inj split).1.symm differ
  | cons first others =>
    obtain ⟨rfl, later⟩ := List.cons.inj split
    exact ⟨others, rfl, later⟩

namespace Marks

/-- What the first pass keeps true of a graph: a node under way (discovered, not finished) has an
entry on the stack, every entry above its topmost one can be reached from it, and each node it
leads to is discovered or stands above that entry; finished nodes are listed, and they were listed
after the nodes they lead to. -/
structure Layered (edges : List (Nat × Nat)) (stack : List Nat) (marks : Marks) : Prop where
  finishedDiscovered : ∀ node ∈ marks.finished, node ∈ marks.discovered
  listed : ∀ node ∈ marks.finished, node ∈ marks.order
  underway : ∀ node ∈ marks.discovered, node ∉ marks.finished → ∃ above below,
    stack = above ++ node :: below ∧ node ∉ above ∧
      (∀ other ∈ above, Relation.ReflTransGen (Linked edges) node other) ∧
      ∀ next, (node, next) ∈ edges → next ∈ marks.discovered ∨ next ∈ above
  settled : Settled edges marks.order

variable {top : Nat} {below : List Nat} {marks : Marks}

/-- With nothing under way, any stack will do. -/
theorem Layered.restart {stack : List Nat} (layered : Layered edges stack marks)
    (allFinished : ∀ node ∈ marks.discovered, node ∈ marks.finished) (other : List Nat) :
    Layered edges other marks where
  finishedDiscovered := layered.finishedDiscovered
  listed := layered.listed
  underway node member unfinished := absurd (allFinished node member) unfinished
  settled := layered.settled

/-- Popping a discovered node keeps every other node under way where it was. -/
theorem Layered.underway_pop (layered : Layered edges (top :: below) marks)
    (seen : top ∈ marks.discovered) {node : Nat} (member : node ∈ marks.discovered)
    (unfinished : node ∉ marks.finished) (differ : node ≠ top) :
    ∃ above rest, below = above ++ node :: rest ∧ node ∉ above ∧
      (∀ other ∈ above, Relation.ReflTransGen (Linked edges) node other) ∧
      ∀ next, (node, next) ∈ edges → next ∈ marks.discovered ∨ next ∈ above := by
  obtain ⟨above, rest, split, fresh, reach, leads⟩ := layered.underway node member unfinished
  obtain ⟨others, rfl, rfl⟩ := eq_cons_of_split differ split
  refine ⟨others, rest, rfl, fun inOthers => fresh (List.mem_cons_of_mem _ inOthers),
    fun other inOthers => reach other (List.mem_cons_of_mem _ inOthers), fun next linked => ?_⟩
  rcases leads next linked with discovered | above
  · exact Or.inl discovered
  · rcases List.mem_cons.mp above with rfl | later
    · exact Or.inl seen
    · exact Or.inr later

/-- A node dropped because it finished before changes nothing else. -/
theorem Layered.drop (layered : Layered edges (top :: below) marks)
    (finished : top ∈ marks.finished) : Layered edges below marks where
  finishedDiscovered := layered.finishedDiscovered
  listed := layered.listed
  underway _ member unfinished :=
    layered.underway_pop (layered.finishedDiscovered top finished) member unfinished
      fun same => unfinished (same ▸ finished)
  settled := layered.settled

/-- In a graph without cycles, the node on top of the stack, under way, leads only to finished
nodes: nothing stands above its topmost entry, so what it leads to is discovered, and a node still
under way would reach it and close a cycle with the edge back. -/
theorem Layered.successors_finished (acyclic : Acyclic edges)
    (layered : Layered edges (top :: below) marks) (seen : top ∈ marks.discovered)
    (unfinished : top ∉ marks.finished) : ∀ next, (top, next) ∈ edges → next ∈ marks.order := by
  intro next linked
  obtain ⟨above, rest, split, fresh, -, leads⟩ := layered.underway top seen unfinished
  have nothingAbove : above = [] := by
    cases above with
    | nil => rfl
    | cons first others =>
      obtain ⟨rfl, -⟩ := List.cons.inj split
      exact absurd List.mem_cons_self fresh
  subst nothingAbove
  have discovered : next ∈ marks.discovered := (leads next linked).resolve_right List.not_mem_nil
  by_cases finished : next ∈ marks.finished
  · exact layered.listed next finished
  · exfalso
    have differ : next ≠ top := by
      rintro rfl
      exact acyclic next (.single linked)
    obtain ⟨aboveNext, restNext, splitNext, -, reachNext, -⟩ :=
      layered.underway next discovered finished
    obtain ⟨others, rfl, -⟩ := eq_cons_of_split differ splitNext
    exact acyclic next (.tail' (reachNext top List.mem_cons_self) linked)

/-- Finishing the node on top of the stack, in a graph without cycles, keeps the layers. -/
theorem Layered.finish (acyclic : Acyclic edges) (layered : Layered edges (top :: below) marks)
    (seen : top ∈ marks.discovered) (unfinished : top ∉ marks.finished) :
    Layered edges below
      { marks with finished := top :: marks.finished, order := marks.order ++ [top] } where
  finishedDiscovered node member := by
    rcases List.mem_cons.mp member with rfl | earlier
    · exact seen
    · exact layered.finishedDiscovered node earlier
  listed node member := by
    rcases List.mem_cons.mp member with rfl | earlier
    · exact List.mem_append_right _ List.mem_cons_self
    · exact List.mem_append_left _ (layered.listed node earlier)
  underway node member unfinishedNow :=
    layered.underway_pop seen member (fun was => unfinishedNow (List.mem_cons_of_mem _ was))
      fun same => unfinishedNow (same ▸ List.mem_cons_self)
  settled := settled_concat layered.settled (layered.successors_finished acyclic seen unfinished)

/-- Discovering the node on top of the stack puts what it pushes above its entry: the node leads
to each of them, and every older node under way reaches them through it. -/
theorem Layered.discover (layered : Layered edges (top :: below) marks)
    (fresh : top ∉ marks.discovered) (noLoop : top ∉ outgoing edges top) :
    Layered edges
      (((outgoing edges top).filter fun other => !marks.discovered.contains other).reverse ++
        top :: below)
      { marks with discovered := top :: marks.discovered } where
  finishedDiscovered node member := List.mem_cons_of_mem _ (layered.finishedDiscovered node member)
  listed := layered.listed
  underway node member unfinished := by
    set pushed := (outgoing edges top).filter fun other => !marks.discovered.contains other
    have pushedLinked : ∀ other ∈ pushed.reverse, (top, other) ∈ edges := fun other inPushed =>
      mem_outgoing.mp (List.mem_filter.mp (List.mem_reverse.mp inPushed)).1
    rcases List.mem_cons.mp member with rfl | earlier
    · refine ⟨pushed.reverse, below, rfl,
        fun inPushed => noLoop (mem_outgoing.mpr (pushedLinked node inPushed)),
        fun other inPushed => .single (pushedLinked other inPushed), fun next linked => ?_⟩
      by_cases seen : next ∈ marks.discovered
      · exact Or.inl (List.mem_cons_of_mem _ seen)
      · exact Or.inr (List.mem_reverse.mpr
          (List.mem_filter.mpr ⟨mem_outgoing.mpr linked, by simpa using seen⟩))
    · have differ : node ≠ top := fun same => fresh (same ▸ earlier)
      obtain ⟨above, rest, split, notAbove, reach, leads⟩ := layered.underway node earlier unfinished
      obtain ⟨others, rfl, rfl⟩ := eq_cons_of_split differ split
      refine ⟨pushed.reverse ++ top :: others, rest, by simp, fun inAbove => ?_,
        fun other inAbove => ?_, fun next linked => ?_⟩
      · rcases List.mem_append.mp inAbove with inPushed | old
        · have kept := (List.mem_filter.mp (List.mem_reverse.mp inPushed)).2
          simp [earlier] at kept
        · exact notAbove old
      · rcases List.mem_append.mp inAbove with inPushed | old
        · exact (reach top List.mem_cons_self).tail (pushedLinked other inPushed)
        · exact reach other old
      · rcases leads next linked with seen | old
        · exact Or.inl (List.mem_cons_of_mem _ seen)
        · exact Or.inr (List.mem_append_right _ old)
  settled := layered.settled

/-- The first pass keeps a graph without cycles layered, step after step, however much fuel it
has. -/
theorem finishAll_layered (acyclic : Acyclic edges) :
    ∀ {fuel : Nat} {stack : List Nat} {marks result : Marks},
      finishAll edges fuel stack marks = .ok result → Layered edges stack marks →
        ∃ rest, Layered edges rest result := by
  intro fuel
  induction fuel with
  | zero =>
    intro stack marks result run layered
    simp only [finishAll, Except.ok.injEq] at run
    subst run
    exact ⟨stack, layered⟩
  | succ fuel inductionHypothesis =>
    intro stack marks result run layered
    cases stack with
    | nil =>
      simp only [finishAll, Except.ok.injEq] at run
      subst run
      exact ⟨[], layered⟩
    | cons node below =>
      rcases finishAll_cons run with ⟨-, finished, dropped⟩ | ⟨discovered, finished, finishedNow⟩ |
          ⟨-, -, failed⟩ | ⟨discovered, looped, pushedRun⟩
      · exact inductionHypothesis dropped (layered.drop finished)
      · exact inductionHypothesis finishedNow (layered.finish acyclic discovered finished)
      · cases failed
      · exact inductionHypothesis pushedRun (layered.discover discovered looped)

/-- The first pass stops with a node only at an edge from the node to itself. -/
theorem finishAll_eq_error :
    ∀ {fuel : Nat} {stack : List Nat} {marks : Marks} {node : Nat},
      finishAll edges fuel stack marks = .error node → (node, node) ∈ edges := by
  intro fuel
  induction fuel with
  | zero =>
    intro stack marks node run
    simp [finishAll] at run
  | succ fuel inductionHypothesis =>
    intro stack marks node run
    cases stack with
    | nil => simp [finishAll] at run
    | cons top below =>
      rcases finishAll_cons run with ⟨-, -, dropped⟩ | ⟨-, -, finishedNow⟩ |
          ⟨-, looped, failed⟩ | ⟨-, -, pushedRun⟩
      · exact inductionHypothesis dropped
      · exact inductionHypothesis finishedNow
      · -- the node on top has an edge to itself
        rw [Except.error.injEq] at failed
        subst failed
        exact mem_outgoing.mp looped
      · exact inductionHypothesis pushedRun

end Marks

/-- The starts of the first pass stop with a node only at an edge from the node to itself. -/
theorem foldlM_finishAll_eq_error {fuel : Nat} :
    ∀ {starts : List Nat} {marks : Marks} {node : Nat},
      starts.foldlM (fun marks start =>
        if marks.discovered.contains start then .ok marks
        else finishAll edges fuel [start] marks) marks = .error node → (node, node) ∈ edges := by
  intro starts
  induction starts with
  | nil =>
    intro marks node run
    simp [pure, Except.pure] at run
  | cons start rest inductionHypothesis =>
    intro marks node run
    rw [List.foldlM_cons, Except.bind_eq_error] at run
    rcases run with first | ⟨next, -, later⟩
    · split at first
      · cases first
      · exact Marks.finishAll_eq_error first
    · exact inductionHypothesis later

theorem finishOrder_eq_error {node : Nat} (run : finishOrder edges count = .error node) :
    (node, node) ∈ edges := by
  simp only [finishOrder, Except.bind_eq_error] at run
  rcases run with folded | ⟨marks, -, done⟩
  · exact foldlM_finishAll_eq_error folded
  · cases done

/-- The starts of the first pass, from marks with nothing under way, keep a graph without cycles
layered: each start runs from marks with nothing under way, and leaves nothing under way. -/
theorem foldlM_finishAll_settled (bounded : ∀ edge ∈ edges, edge.2 < count)
    (acyclic : Acyclic edges) {fuel : Nat} (enough : 1 + count + edges.length ≤ fuel) :
    ∀ {starts : List Nat} {marks result : Marks},
      starts.foldlM (fun marks start =>
        if marks.discovered.contains start then .ok marks
        else finishAll edges fuel [start] marks) marks = .ok result →
      marks.Sound edges count → (∀ node ∈ marks.discovered, node ∈ marks.finished) →
      (∀ start ∈ starts, start < count) → Marks.Layered edges [] marks →
        Settled edges result.order := by
  intro starts
  induction starts with
  | nil =>
    intro marks result run _ _ _ layered
    simp only [List.foldlM_nil, pure, Except.pure, Except.ok.injEq] at run
    subst run
    exact layered.settled
  | cons start rest inductionHypothesis =>
    intro marks result run sound allFinished startsBounded layered
    rw [List.foldlM_cons, Except.bind_eq_ok] at run
    obtain ⟨next, first, later⟩ := run
    have started : Marks.Completes edges count [start] marks next :=
      Marks.completes_start bounded enough first sound allFinished
        (startsBounded start List.mem_cons_self)
    have layeredNext : ∃ stack, Marks.Layered edges stack next := by
      split at first
      · simp only [Except.ok.injEq] at first
        subst first
        exact ⟨[], layered⟩
      · exact Marks.finishAll_layered acyclic first (layered.restart allFinished [start])
    obtain ⟨stack, layeredNext⟩ := layeredNext
    exact inductionHypothesis later started.sound started.finished
      (fun other member => startsBounded other (List.mem_cons_of_mem _ member))
      (layeredNext.restart started.finished [])

/-- On a graph without cycles the first pass lists every node after the nodes it leads to. -/
theorem finishOrder_settled (bounded : ∀ edge ∈ edges, edge.2 < count) (acyclic : Acyclic edges)
    {order : List Nat} (run : finishOrder edges count = .ok order) : Settled edges order := by
  simp only [finishOrder, Except.bind_eq_ok, Except.pure_eq_ok] at run
  obtain ⟨marks, folded, rfl⟩ := run
  exact foldlM_finishAll_settled bounded acyclic (by omega) folded Marks.sound_empty (by simp)
    (fun start member => List.mem_range.mp member)
    ⟨by simp, by simp, by simp, fun pre node post split => by simp at split⟩

/-! ### The second pass on an order that puts inputs first -/

/-- The second pass finds nothing on an order in which every node an edge comes into a node from
is that node, was marked before the pass, or stands before it. The induction is on the order, as
in `secondReached_eq_none`, whose converse this is: the nodes before a later node are the start
and those before it in the rest, and every input of the start is the start itself or marked, so
the walk from it stops there. -/
theorem secondReached_eq_none_of_sorted : ∀ {order discovered : List Nat},
    (∀ pre node post, order = pre ++ node :: post → node ∉ discovered →
      ∀ other ∈ incoming edges node, other = node ∨ other ∈ discovered ∨ other ∈ pre) →
    secondReached edges order discovered = none := by
  intro order
  induction order with
  | nil => intro discovered _; rfl
  | cons start rest inductionHypothesis =>
    intro discovered sorted
    have shifted : ∀ pre node post, rest = pre ++ node :: post →
        start :: rest = (start :: pre) ++ node :: post := by
      intro pre node post split
      rw [split, List.cons_append]
    by_cases seen : start ∈ discovered
    · have marked : discovered.contains start = true := by simpa using seen
      simp only [secondReached, nextIncoming, marked, ↓reduceIte]
      refine inductionHypothesis fun pre node post split unmarked other incomingMember => ?_
      rcases sorted (start :: pre) node post (shifted pre node post split) unmarked other
          incomingMember with same | before | earlier
      · exact Or.inl same
      · exact Or.inr (Or.inl before)
      · rcases List.mem_cons.mp earlier with rfl | earlier
        · exact Or.inr (Or.inl seen)
        · exact Or.inr (Or.inr earlier)
    · have unmarked : discovered.contains start = false := by simpa using seen
      have nonePushed : ((incoming edges start).filter
          fun other => !discovered.contains other && other != start) = [] := by
        refine List.filter_eq_nil_iff.mpr fun other incomingMember => ?_
        rcases sorted [] start rest rfl seen other incomingMember with same | before | earlier
        · simp [same]
        · simp [before]
        · cases earlier
      simp only [secondReached, nextIncoming, unmarked, Bool.false_eq_true, ↓reduceIte,
        nonePushed, List.reverse_nil, List.nil_append]
      refine inductionHypothesis fun pre node post split unmarkedNode other incomingMember => ?_
      rcases sorted (start :: pre) node post (shifted pre node post split)
          (fun member => unmarkedNode (List.mem_cons_of_mem _ member)) other incomingMember with
        same | before | earlier
      · exact Or.inl same
      · exact Or.inr (Or.inl (List.mem_cons_of_mem _ before))
      · rcases List.mem_cons.mp earlier with rfl | earlier
        · exact Or.inr (Or.inl List.mem_cons_self)
        · exact Or.inr (Or.inr earlier)

/-! ### Both ways -/

/-- In a list without repeats, a node before another stands at a smaller position. -/
theorem idxOf_lt_of_split {order pre post : List Nat} {node other : Nat} (once : order.Nodup)
    (split : order = pre ++ node :: post) (earlier : other ∈ pre) :
    order.idxOf other < order.idxOf node := by
  have fresh : node ∉ pre := by
    rw [split] at once
    exact fun member => (List.nodup_append.mp once).2.2 node member node List.mem_cons_self rfl
  rw [split, List.idxOf_append_of_mem earlier, List.idxOf_append_of_notMem fresh,
    List.idxOf_cons_self, Nat.add_zero]
  exact List.idxOf_lt_length_of_mem earlier

/-- Along an order that lists every node once and puts the source of each edge before its target,
following an edge moves forward. -/
theorem idxOf_lt_of_linked {order : List Nat} (listed : ∀ node, node ∈ order ↔ node < count)
    (once : order.Nodup)
    (sorted : ∀ pre node post, order = pre ++ node :: post → ∀ other, (other, node) ∈ edges →
      other ∈ pre)
    (bounded : ∀ edge ∈ edges, edge.1 < count ∧ edge.2 < count) {source target : Nat}
    (linked : (source, target) ∈ edges) : order.idxOf source < order.idxOf target := by
  obtain ⟨pre, post, split⟩ := List.append_of_mem ((listed target).mpr (bounded _ linked).2)
  exact idxOf_lt_of_split once split (sorted pre target post split source linked)

/-- A graph the passes order has no cycle: along a cycle the position in the order would rise
back to where it started. -/
theorem acyclic_of_toposort (bounded : ∀ edge ∈ edges, edge.1 < count ∧ edge.2 < count)
    {order : List Nat} (sorted : toposort edges count = .ok order) : Acyclic edges := by
  obtain ⟨listed, once, inputsFirst⟩ :=
    toposort_eq_ok (fun edge member => (bounded edge member).2) sorted
  have rising : ∀ {source target : Nat}, Relation.TransGen (Linked edges) source target →
      order.idxOf source < order.idxOf target := by
    intro source target chain
    induction chain with
    | single linked => exact idxOf_lt_of_linked listed once inputsFirst bounded linked
    | tail _ linked climbed =>
      exact Nat.lt_trans climbed (idxOf_lt_of_linked listed once inputsFirst bounded linked)
  exact fun node cycle => Nat.lt_irrefl _ (rising cycle)

/-- The passes order a graph without cycles: the first pass meets no edge from a node to itself
and lists nodes after those they lead to, so its reverse puts every node after its inputs and the
second pass finds nothing. -/
theorem toposort_of_acyclic (bounded : ∀ edge ∈ edges, edge.1 < count ∧ edge.2 < count)
    (acyclic : Acyclic edges) : ∃ order, toposort edges count = .ok order := by
  have boundedTargets : ∀ edge ∈ edges, edge.2 < count := fun edge member => (bounded edge member).2
  cases run : finishOrder edges count with
  | error node => exact absurd (.single (finishOrder_eq_error run)) (acyclic node)
  | ok finished =>
    obtain ⟨listed, once, -⟩ := finishOrder_eq_ok boundedTargets run
    have settled := finishOrder_settled boundedTargets acyclic run
    have checked : secondReached edges finished.reverse [] = none := by
      refine secondReached_eq_none_of_sorted fun pre node post split _ other incomingMember => ?_
      have linked := mem_incoming.mp incomingMember
      have present : other ∈ pre ++ node :: post := by
        rw [← split, List.mem_reverse, listed]
        exact (bounded _ linked).1
      rcases List.mem_append.mp present with before | atOrAfter
      · exact Or.inr (Or.inr before)
      · rcases List.mem_cons.mp atOrAfter with same | after
        · exact Or.inl same
        · exact absurd linked (settled_reverse settled once split other after)
    exact ⟨finished.reverse, by simp [toposort, run, checked, bind, Except.bind, pure, Except.pure]⟩

/-- The passes order a graph exactly when it has no cycle. -/
theorem toposort_ok_iff_acyclic (bounded : ∀ edge ∈ edges, edge.1 < count ∧ edge.2 < count) :
    (∃ order, toposort edges count = .ok order) ↔ Acyclic edges :=
  ⟨fun ⟨_, sorted⟩ => acyclic_of_toposort bounded sorted, toposort_of_acyclic bounded⟩

end Recast
