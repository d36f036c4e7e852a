import Mathlib.Data.List.Nodup
import Mathlib.Data.List.Zip
import Recast.Proofs.Except
import Recast.Workflow.Graph
/-!
The order a workflow's steps run in.

The order comes out of two depth-first passes over the step graph (see `StepGraph`), and what a
run needs of it is three facts: every step is in it, once, and each step's input step comes
before it. This file derives them from the passes themselves.

The first pass runs on a fuel, so its first fact is that the fuel never runs out. The measure

    (entries on the stack) + (nodes not yet discovered) + (edges from nodes not yet discovered)

falls by at least one at every step: discovering a node removes it and its outgoing edges from
the last two terms and pushes at most one entry per edge, and finishing or dropping a node pops
an entry. Each start begins with one entry, so `2 * (count + edges) + 2` steps are more than a
start can take. With the fuel sufficient, every node discovered is finished before its start
returns, every node is discovered from its own start if not before, and a node is discovered only
after the check that it has no edge to itself.

The second pass walks incoming edges from each node of the order, with marks kept across starts.
It succeeds only when no start reaches a node that is not yet marked; since the marks at a start
are exactly the nodes before it in the order, every node an edge leads into a node from stands
before that node. That is the topological property, read off the check, with no argument about
finishing times.
-/

namespace Recast

/-! ### Counting what the first pass has left -/

section Counting

variable {β : Type}

/-- Discovering a node moves the items keyed by it out of the count of undiscovered ones. -/
theorem countP_not_contains_cons (items : List β) (key : β → Nat) {node : Nat} {seen : List Nat}
    (fresh : node ∉ seen) :
    items.countP (fun item => !seen.contains (key item)) =
      items.countP (fun item => !(node :: seen).contains (key item)) +
        items.countP (fun item => key item == node) := by
  induction items with
  | nil => rfl
  | cons item rest inductionHypothesis =>
    rw [List.countP_cons, List.countP_cons, List.countP_cons, inductionHypothesis]
    by_cases keyed : key item = node
    · have was : (!seen.contains (key item)) = true := by simp [keyed, fresh]
      have now : (!(node :: seen).contains (key item)) = false := by simp [keyed]
      have matched : (key item == node) = true := by simp [keyed]
      simp only [was, now, matched, ↓reduceIte, Bool.false_eq_true]
      omega
    · have same : (!(node :: seen).contains (key item)) = (!seen.contains (key item)) := by
        simp [keyed]
      have differs : (key item == node) = false := by simp [keyed]
      simp only [same, differs, Bool.false_eq_true, ↓reduceIte]
      omega

end Counting

namespace Marks

variable {edges : List (Nat × Nat)} {count : Nat}

/-- What the marks of the first pass keep true between its steps: discovered nodes are nodes of
the graph without an edge to themselves, finished nodes are discovered, and the order lists the
finished nodes once each. -/
structure Sound (edges : List (Nat × Nat)) (count : Nat) (marks : Marks) : Prop where
  bounded : ∀ node ∈ marks.discovered, node < count
  noLoop : ∀ node ∈ marks.discovered, node ∉ outgoing edges node
  finishedDiscovered : ∀ node ∈ marks.finished, node ∈ marks.discovered
  listed : ∀ node, node ∈ marks.order ↔ node ∈ marks.finished
  once : marks.order.Nodup

/-- No node is marked at the start. -/
theorem sound_empty : ({} : Marks).Sound edges count :=
  ⟨by simp, by simp, by simp, by simp, List.nodup_nil⟩

/-- The measure of the first pass: entries on the stack, nodes not yet discovered, and edges
from nodes not yet discovered. -/
def potential (edges : List (Nat × Nat)) (count : Nat) (stack : List Nat) (marks : Marks) : Nat :=
  stack.length + (List.range count).countP (fun node => !marks.discovered.contains node) +
    edges.countP (fun edge => !marks.discovered.contains edge.1)

theorem Sound.discover {marks : Marks} (sound : marks.Sound edges count) {node : Nat}
    (bounded : node < count) (noLoop : node ∉ outgoing edges node) :
    ({ marks with discovered := node :: marks.discovered } : Marks).Sound edges count where
  bounded other member := by
    rcases List.mem_cons.mp member with rfl | member
    · exact bounded
    · exact sound.bounded other member
  noLoop other member := by
    rcases List.mem_cons.mp member with rfl | member
    · exact noLoop
    · exact sound.noLoop other member
  finishedDiscovered other member := List.mem_cons_of_mem _ (sound.finishedDiscovered other member)
  listed := sound.listed
  once := sound.once

theorem Sound.finish {marks : Marks} (sound : marks.Sound edges count) {node : Nat}
    (discovered : node ∈ marks.discovered) (unfinished : node ∉ marks.finished) :
    ({ marks with finished := node :: marks.finished, order := marks.order ++ [node] } :
      Marks).Sound
      edges count where
  bounded := sound.bounded
  noLoop := sound.noLoop
  finishedDiscovered other member := by
    rcases List.mem_cons.mp member with rfl | member
    · exact discovered
    · exact sound.finishedDiscovered other member
  listed other := by
    rw [List.mem_append, List.mem_singleton, sound.listed other, List.mem_cons, or_comm]
  once := by
    refine List.nodup_append.mpr ⟨sound.once, List.nodup_singleton node, ?_⟩
    intro other listed last member same
    rw [List.mem_singleton] at member
    subst member same
    exact unfinished ((sound.listed _).mp listed)

/-- Discovering a node lowers the measure, whatever it pushes of its outgoing edges. -/
theorem potential_discover {marks : Marks} {node : Nat} {below pushed : List Nat}
    (bounded : node < count) (fresh : node ∉ marks.discovered)
    (pushedOutgoing : pushed.length ≤ (outgoing edges node).length) :
    potential edges count (pushed.reverse ++ node :: below)
        { marks with discovered := node :: marks.discovered } + 1 ≤
      potential edges count (node :: below) marks := by
  have nodes := countP_not_contains_cons (List.range count) id fresh
  have fromNode := countP_not_contains_cons edges Prod.fst fresh
  have once : (List.range count).countP (fun other => id other == node) = 1 := by
    simpa [List.count] using List.count_eq_one_of_mem List.nodup_range (List.mem_range.mpr bounded)
  have outgoingLength :
      (outgoing edges node).length = edges.countP (fun edge => edge.1 == node) := by
    simp [outgoing, List.countP_eq_length_filter]
  simp only [id] at nodes once
  simp only [potential, List.length_append, List.length_reverse, List.length_cons]
  omega

/-- Finishing or dropping a node pops one entry and leaves the rest of the measure. -/
theorem potential_pop {marks other : Marks} {node : Nat} {below : List Nat}
    (same : other.discovered = marks.discovered) :
    potential edges count below other + 1 = potential edges count (node :: below) marks := by
  simp only [potential, same, List.length_cons]
  omega

/-- What the first pass returns from a stack and marks: sound marks with nothing pending, in which
every node of the stack and every node discovered before is discovered. -/
structure Completes (edges : List (Nat × Nat)) (count : Nat) (stack : List Nat)
    (marks result : Marks) : Prop where
  sound : result.Sound edges count
  finished : ∀ node ∈ result.discovered, node ∈ result.finished
  reached : ∀ node, node ∈ stack ∨ node ∈ marks.discovered → node ∈ result.discovered

/-- An empty stack returns the marks: nothing is pending in them. -/
theorem Completes.done {marks : Marks} (sound : marks.Sound edges count)
    (pending : ∀ node ∈ marks.discovered, node ∉ marks.finished → node ∈ ([] : List Nat)) :
    Completes edges count [] marks marks where
  sound := sound
  finished node discovered := by
    by_contra unfinished
    exact List.not_mem_nil (pending node discovered unfinished)
  reached node := by
    rintro (stacked | discovered)
    · cases stacked
    · exact discovered

/-- Popping a discovered node, finished before or now, discovers nothing new. -/
theorem Completes.pop {node : Nat} {below : List Nat} {marks next result : Marks}
    (discovered : node ∈ marks.discovered) (rest : Completes edges count below next result)
    (same : next.discovered = marks.discovered) :
    Completes edges count (node :: below) marks result where
  sound := rest.sound
  finished := rest.finished
  reached other := by
    rintro (stacked | member)
    · rcases List.mem_cons.mp stacked with rfl | later
      · exact rest.reached _ (Or.inr (same ▸ discovered))
      · exact rest.reached _ (Or.inl later)
    · exact rest.reached _ (Or.inr (same ▸ member))

/-- Discovering a node keeps it on the stack, under what it pushes. -/
theorem Completes.discover {node : Nat} {below pushed : List Nat} {marks result : Marks}
    (rest : Completes edges count (pushed.reverse ++ node :: below)
      { marks with discovered := node :: marks.discovered } result) :
    Completes edges count (node :: below) marks result where
  sound := rest.sound
  finished := rest.finished
  reached other := by
    rintro (stacked | member)
    · exact rest.reached _ (Or.inl (List.mem_append_right _ stacked))
    · exact rest.reached _ (Or.inr (List.mem_cons_of_mem _ member))

/-- One start followed by the others reaches what each of them reaches. -/
theorem Completes.cons {start : Nat} {starts : List Nat} {marks next result : Marks}
    (first : Completes edges count [start] marks next)
    (rest : Completes edges count starts next result) :
    Completes edges count (start :: starts) marks result where
  sound := rest.sound
  finished := rest.finished
  reached node := by
    rintro (listed | member)
    · rcases List.mem_cons.mp listed with rfl | later
      · exact rest.reached _ (Or.inr (first.reached _ (Or.inl List.mem_cons_self)))
      · exact rest.reached _ (Or.inl later)
    · exact rest.reached _ (Or.inr (first.reached _ (Or.inr member)))

/-- One step of the first pass, from the node on top of the stack: a node finished before is
dropped, a discovered one is finished, and an undiscovered one stops the pass when it has an edge
to itself and is discovered otherwise, its undiscovered successors pushed above it. -/
theorem finishAll_cons {fuel node : Nat} {below : List Nat} {marks : Marks}
    {result : Except Nat Marks} (run : finishAll edges (fuel + 1) (node :: below) marks = result) :
    (node ∈ marks.discovered ∧ node ∈ marks.finished ∧ finishAll edges fuel below marks = result) ∨
    (node ∈ marks.discovered ∧ node ∉ marks.finished ∧
      finishAll edges fuel below
        { marks with finished := node :: marks.finished, order := marks.order ++ [node] } =
          result) ∨
    (node ∉ marks.discovered ∧ node ∈ outgoing edges node ∧ result = .error node) ∨
    (node ∉ marks.discovered ∧ node ∉ outgoing edges node ∧
      finishAll edges fuel
        (((outgoing edges node).filter fun other => !marks.discovered.contains other).reverse ++
          node :: below)
        { marks with discovered := node :: marks.discovered } = result) := by
  simp only [finishAll] at run
  by_cases discovered : node ∈ marks.discovered
  · have seen : marks.discovered.contains node = true := by simpa using discovered
    by_cases finished : node ∈ marks.finished
    · have done : marks.finished.contains node = true := by simpa using finished
      simp only [seen, done, Bool.not_true, Bool.false_eq_true, ↓reduceIte] at run
      exact .inl ⟨discovered, finished, run⟩
    · have open_ : marks.finished.contains node = false := by simpa using finished
      simp only [seen, open_, Bool.not_true, Bool.not_false, Bool.false_eq_true,
        ↓reduceIte] at run
      exact .inr (.inl ⟨discovered, finished, run⟩)
  · have unseen : marks.discovered.contains node = false := by simpa using discovered
    by_cases looped : node ∈ outgoing edges node
    · have straight : (outgoing edges node).contains node = true := by simpa using looped
      simp only [unseen, straight, Bool.not_false, ↓reduceIte] at run
      exact .inr (.inr (.inl ⟨discovered, looped, run.symm⟩))
    · have straight : (outgoing edges node).contains node = false := by simpa using looped
      simp only [unseen, straight, Bool.not_false, Bool.false_eq_true, ↓reduceIte] at run
      exact .inr (.inr (.inr ⟨discovered, looped, run⟩))

/-- The first pass from a stack, given the fuel its measure asks for, completes: it returns marks
in which every node it discovered is finished, and it discovers every node on the stack. The
induction is on the fuel; the stack and the marks change at each step, and `Sound`, the bound on
stacked nodes, and "a discovered node not yet finished is on the stack" carry over; popping
lowers the measure by the entry it takes off. -/
theorem finishAll_eq_ok (bounded : ∀ edge ∈ edges, edge.2 < count) :
    ∀ {fuel : Nat} {stack : List Nat} {marks result : Marks},
      finishAll edges fuel stack marks = .ok result → marks.Sound edges count →
      (∀ node ∈ stack, node < count) →
      (∀ node ∈ marks.discovered, node ∉ marks.finished → node ∈ stack) →
      potential edges count stack marks ≤ fuel → Completes edges count stack marks result := by
  intro fuel
  induction fuel with
  | zero =>
    intro stack marks result run sound _ pending measured
    simp only [finishAll, Except.ok.injEq] at run
    subst run
    have empty : stack = [] := by
      simp only [potential] at measured
      exact List.eq_nil_of_length_eq_zero (by omega)
    subst empty
    exact Completes.done sound pending
  | succ fuel inductionHypothesis =>
    intro stack marks result run sound stackBounded pending measured
    cases stack with
    | nil =>
      simp only [finishAll, Except.ok.injEq] at run
      subst run
      exact Completes.done sound pending
    | cons node below =>
      have nodeBounded : node < count := stackBounded node List.mem_cons_self
      have belowBounded : ∀ other ∈ below, other < count :=
        fun other member => stackBounded other (List.mem_cons_of_mem _ member)
      have popped : ∀ (next : Marks), next.discovered = marks.discovered →
          potential edges count below next ≤ fuel := by
        intro next same
        have pop : potential edges count below next + 1 =
            potential edges count (node :: below) marks := potential_pop same
        omega
      rcases finishAll_cons run with ⟨discovered, finished, dropped⟩ |
          ⟨discovered, finished, finishedNow⟩ | ⟨-, -, failed⟩ | ⟨discovered, looped, pushedRun⟩
      · -- dropped: it was finished before
        have rest := inductionHypothesis dropped sound belowBounded
          (fun other member unfinished =>
            (List.mem_cons.mp (pending other member unfinished)).resolve_left
              (fun same => unfinished (same ▸ finished)))
          (popped marks rfl)
        exact Completes.pop discovered rest rfl
      · -- finished now
        have rest := inductionHypothesis finishedNow (sound.finish discovered finished) belowBounded
          (fun other member unfinished =>
            (List.mem_cons.mp (pending other member
              (fun was => unfinished (List.mem_cons_of_mem _ was)))).resolve_left
              (fun same => unfinished (same ▸ List.mem_cons_self)))
          (popped _ rfl)
        exact Completes.pop discovered rest rfl
      · cases failed
      · -- discovered: its undiscovered successors go on the stack above it
        set pushed := (outgoing edges node).filter fun other => !marks.discovered.contains other
        have pushedOutgoing : pushed.length ≤ (outgoing edges node).length :=
          List.length_filter_le _ _
        have measure : potential edges count (pushed.reverse ++ node :: below)
            { marks with discovered := node :: marks.discovered } + 1 ≤
              potential edges count (node :: below) marks :=
          potential_discover nodeBounded discovered pushedOutgoing
        have pushedBounded : ∀ other ∈ pushed, other < count := by
          intro other member
          have outgoingMember := (List.mem_filter.mp member).1
          simp only [outgoing, List.mem_reverse, List.mem_map, List.mem_filter] at outgoingMember
          obtain ⟨edge, ⟨listed, _⟩, rfl⟩ := outgoingMember
          exact bounded edge listed
        refine Completes.discover (inductionHypothesis pushedRun (sound.discover nodeBounded looped)
          ?_ ?_ (by omega))
        · intro other member
          rcases List.mem_append.mp member with fresh | stacked
          · exact pushedBounded other (List.mem_reverse.mp fresh)
          · exact stackBounded other stacked
        · intro other member unfinished
          rcases List.mem_cons.mp member with rfl | was
          · exact List.mem_append_right _ List.mem_cons_self
          · exact List.mem_append_right _ (pending other was unfinished)

/-- One start of the first pass, run with the fuel the pass gives it from sound marks with nothing
pending, completes. -/
theorem completes_start (bounded : ∀ edge ∈ edges, edge.2 < count) {fuel : Nat}
    (enough : 1 + count + edges.length ≤ fuel) {start : Nat} {marks next : Marks}
    (first : (if marks.discovered.contains start then .ok marks
      else finishAll edges fuel [start] marks) = .ok next)
    (sound : marks.Sound edges count) (allFinished : ∀ node ∈ marks.discovered, node ∈ marks.finished)
    (startBounded : start < count) : Completes edges count [start] marks next := by
  have noPending : ∀ node ∈ marks.discovered, node ∉ marks.finished → node ∈ ([] : List Nat) :=
    fun node member unfinished => absurd (allFinished node member) unfinished
  by_cases discovered : start ∈ marks.discovered
  · have seen : marks.discovered.contains start = true := by simpa using discovered
    simp only [seen, ↓reduceIte, Except.ok.injEq] at first
    subst first
    exact Completes.pop discovered (Completes.done sound noPending) rfl
  · have unseen : marks.discovered.contains start = false := by simpa using discovered
    simp only [unseen, Bool.false_eq_true, ↓reduceIte] at first
    have measured : potential edges count [start] marks ≤ fuel := by
      have nodes : (List.range count).countP (fun node => !marks.discovered.contains node) ≤
          (List.range count).length := List.countP_le_length
      rw [List.length_range] at nodes
      have fromNodes : edges.countP (fun edge => !marks.discovered.contains edge.1) ≤
          edges.length := List.countP_le_length
      simp only [potential, List.length_singleton]
      omega
    exact finishAll_eq_ok bounded first sound
      (fun node member => by
        rw [List.mem_singleton.mp member]
        exact startBounded)
      (fun node member unfinished => absurd (allFinished node member) unfinished) measured

/-- The starts of the first pass, each run with the given fuel from the marks the previous ones
left, complete together: they keep the marks sound with nothing pending, and discover every
start. The induction is on the starts, the first of which completes on its own. -/
theorem foldlM_finishAll_eq_ok (bounded : ∀ edge ∈ edges, edge.2 < count) {fuel : Nat}
    (enough : 1 + count + edges.length ≤ fuel) :
    ∀ {starts : List Nat} {marks result : Marks},
      starts.foldlM (fun marks start =>
        if marks.discovered.contains start then .ok marks
        else finishAll edges fuel [start] marks) marks = .ok result →
      marks.Sound edges count → (∀ node ∈ marks.discovered, node ∈ marks.finished) →
      (∀ start ∈ starts, start < count) → Completes edges count starts marks result := by
  intro starts
  induction starts with
  | nil =>
    intro marks result run sound allFinished _
    simp only [List.foldlM_nil, pure, Except.pure, Except.ok.injEq] at run
    subst run
    exact Completes.done sound fun node member unfinished => absurd (allFinished node member) unfinished
  | cons start rest inductionHypothesis =>
    intro marks result run sound allFinished startsBounded
    rw [List.foldlM_cons, Except.bind_eq_ok] at run
    obtain ⟨next, first, later⟩ := run
    have started : Completes edges count [start] marks next :=
      completes_start bounded enough first sound allFinished (startsBounded start List.mem_cons_self)
    exact started.cons (inductionHypothesis later started.sound started.finished
      (fun other member => startsBounded other (List.mem_cons_of_mem _ member)))

end Marks

/-! ### What the two passes establish -/

section Passes

variable {edges : List (Nat × Nat)} {count : Nat}

theorem mem_outgoing {node other : Nat} : other ∈ outgoing edges node ↔ (node, other) ∈ edges := by
  simp only [outgoing, List.mem_reverse, List.mem_map, List.mem_filter, beq_iff_eq]
  constructor
  · rintro ⟨edge, ⟨listed, rfl⟩, rfl⟩
    exact listed
  · intro listed
    exact ⟨_, ⟨listed, rfl⟩, rfl⟩

theorem mem_incoming {node other : Nat} : other ∈ incoming edges node ↔ (other, node) ∈ edges := by
  simp only [incoming, List.mem_reverse, List.mem_map, List.mem_filter, beq_iff_eq]
  constructor
  · rintro ⟨edge, ⟨listed, rfl⟩, rfl⟩
    exact listed
  · intro listed
    exact ⟨_, ⟨listed, rfl⟩, rfl⟩

/-- The first pass lists every node of the graph once, and none has an edge to itself. -/
theorem finishOrder_eq_ok (bounded : ∀ edge ∈ edges, edge.2 < count) {order : List Nat}
    (run : finishOrder edges count = .ok order) :
    (∀ node, node ∈ order ↔ node < count) ∧ order.Nodup ∧
      ∀ node < count, (node, node) ∉ edges := by
  simp only [finishOrder, Except.bind_eq_ok, Except.pure_eq_ok] at run
  obtain ⟨marks, folded, rfl⟩ := run
  obtain ⟨sound, allFinished, reached⟩ := Marks.foldlM_finishAll_eq_ok bounded (by omega) folded
    Marks.sound_empty (by simp) (fun start member => List.mem_range.mp member)
  have discovered : ∀ node < count, node ∈ marks.discovered :=
    fun node below => reached node (Or.inl (List.mem_range.mpr below))
  refine ⟨fun node => ?_, sound.once, fun node below looped => ?_⟩
  · rw [sound.listed]
    exact ⟨fun finished => sound.bounded node (sound.finishedDiscovered node finished),
      fun below => allFinished node (discovered node below)⟩
  · exact sound.noLoop node (discovered node below) (mem_outgoing.mpr looped)

/-- A walk over incoming edges that reaches no unmarked node has marked everything it held. -/
theorem nextIncoming_eq_none : ∀ {stack discovered : List Nat},
    nextIncoming edges stack discovered = none → ∀ node ∈ stack, node ∈ discovered := by
  intro stack
  induction stack with
  | nil => simp
  | cons node below inductionHypothesis =>
    intro discovered walked other member
    by_cases seen : node ∈ discovered
    · have marked : discovered.contains node = true := by simpa using seen
      simp only [nextIncoming, marked, ↓reduceIte] at walked
      rcases List.mem_cons.mp member with rfl | later
      · exact seen
      · exact inductionHypothesis walked other later
    · simp [nextIncoming, seen] at walked

/-- When the second pass finds no cycle, every node an edge comes into a node from is that node,
was marked before the pass, or stands before it in the order. The induction is on the order; the
marks at each start are the marks before the pass and the starts before it. -/
theorem secondReached_eq_none : ∀ {order discovered : List Nat},
    secondReached edges order discovered = none →
      ∀ pre node post, order = pre ++ node :: post → node ∉ discovered → node ∉ pre →
        ∀ other ∈ incoming edges node, other = node ∨ other ∈ discovered ∨ other ∈ pre := by
  intro order
  induction order with
  | nil =>
    intro discovered _ pre node post split
    exact absurd split.symm (by simp)
  | cons start rest inductionHypothesis =>
    intro discovered checked pre node post split unmarked fresh other incomingMember
    by_cases seen : start ∈ discovered
    · -- a start marked before adds nothing to the marks
      have marked : discovered.contains start = true := by simpa using seen
      simp only [secondReached, nextIncoming, marked, ↓reduceIte] at checked
      cases pre with
      | nil =>
        obtain ⟨rfl, -⟩ := List.cons.inj split
        exact absurd seen unmarked
      | cons first pre =>
        obtain ⟨rfl, later⟩ := List.cons.inj split
        rcases inductionHypothesis checked pre node post later unmarked
            (fun member => fresh (List.mem_cons_of_mem _ member)) other incomingMember with
          same | before | earlier
        · exact Or.inl same
        · exact Or.inr (Or.inl before)
        · exact Or.inr (Or.inr (List.mem_cons_of_mem _ earlier))
    · -- an unmarked start is marked; its unmarked inputs would be reached second
      have unmarkedStart : discovered.contains start = false := by simpa using seen
      set pushed := (incoming edges start).filter
        fun other => !discovered.contains other && other != start with pushedDef
      simp only [secondReached, nextIncoming, unmarkedStart, Bool.false_eq_true, ↓reduceIte,
        ← pushedDef] at checked
      split at checked
      · cases checked
      · next walked =>
        have nonePushed : ∀ input ∈ pushed, False := by
          intro input member
          have marked := nextIncoming_eq_none walked input
            (List.mem_append_left _ (List.mem_reverse.mpr member))
          have kept := (List.mem_filter.mp member).2
          simp only [Bool.and_eq_true, Bool.not_eq_eq_eq_not, Bool.not_true, bne_iff_ne, ne_eq,
            List.contains_eq_mem, decide_eq_false_iff_not] at kept
          rcases List.mem_cons.mp marked with same | before
          · exact kept.2 same
          · exact kept.1 before
        cases pre with
        | nil =>
          have first : start = node := (List.cons.inj split).1
          by_cases same : other = node
          · exact Or.inl same
          · by_cases before : other ∈ discovered
            · exact Or.inr (Or.inl before)
            · exfalso
              refine nonePushed other (List.mem_filter.mpr ⟨first ▸ incomingMember, ?_⟩)
              simp [before, same, first]
        | cons first pre =>
          obtain ⟨headEq, later⟩ := List.cons.inj split
          have notStart : node ≠ start := fun same => fresh (same ▸ headEq ▸ List.mem_cons_self)
          rcases inductionHypothesis checked pre node post later
              (fun member => (List.mem_cons.mp member).elim notStart unmarked)
              (fun member => fresh (List.mem_cons_of_mem _ member)) other incomingMember with
            same | before | earlier
          · exact Or.inl same
          · rcases List.mem_cons.mp before with isStart | before
            · exact Or.inr (Or.inr (isStart ▸ headEq ▸ List.mem_cons_self))
            · exact Or.inr (Or.inl before)
          · exact Or.inr (Or.inr (List.mem_cons_of_mem _ earlier))

/-- The order of a graph without cycles lists every node once, each after the nodes its incoming
edges come from. -/
theorem toposort_eq_ok (bounded : ∀ edge ∈ edges, edge.2 < count) {order : List Nat}
    (sorted : toposort edges count = .ok order) :
    (∀ node, node ∈ order ↔ node < count) ∧ order.Nodup ∧
      ∀ pre node post, order = pre ++ node :: post →
        ∀ other, (other, node) ∈ edges → other ∈ pre := by
  simp only [toposort, Except.bind_eq_ok] at sorted
  obtain ⟨finished, run, checked⟩ := sorted
  obtain ⟨listed, once, noLoop⟩ := finishOrder_eq_ok bounded run
  split at checked
  · simp [throw, throwThe, MonadExceptOf.throw] at checked
  · next unchecked =>
    simp only [Except.pure_eq_ok] at checked
    subst checked
    refine ⟨fun node => by rw [List.mem_reverse, listed], List.nodup_reverse.mpr once, ?_⟩
    intro pre node post split other edge
    have distinct : (pre ++ node :: post).Nodup := split ▸ List.nodup_reverse.mpr once
    have fresh : node ∉ pre := fun member =>
      (List.nodup_append.mp distinct).2.2 node member node List.mem_cons_self rfl
    have ordered : node < count := by
      rw [← listed, ← List.mem_reverse, split]
      exact List.mem_append_right _ List.mem_cons_self
    rcases secondReached_eq_none unchecked pre node post split List.not_mem_nil fresh other
        (mem_incoming.mpr edge) with same | before | earlier
    · subst same
      exact absurd edge (noLoop other ordered)
    · cases before
    · exact earlier

end Passes

/-! ### The graph of a workflow -/

/-- An entry of a list numbered by position is the item at its position. -/
theorem mem_zip_range {α : Type} {items : List α} {index : Nat} {item : α} :
    (index, item) ∈ (List.range items.length).zip items ↔ items[index]? = some item := by
  rw [← (List.mem_zipIdx_iff_getElem? : (item, index) ∈ items.zipIdx ↔ _),
    List.zipIdx_eq_zip_range', ← List.range_eq_range', ← List.zip_swap (List.range items.length),
    List.mem_map]
  constructor
  · intro member
    exact ⟨_, member, rfl⟩
  · rintro ⟨⟨first, second⟩, member, swapped⟩
    simp only [Prod.swap_prod_mk, Prod.mk.injEq] at swapped
    obtain ⟨rfl, rfl⟩ := swapped
    exact member

namespace StepGraph

/-- The edges of the steps are those from the node of each step's input to the step, and every
input names a step. -/
theorem edgesOf_eq_ok {names : List String} :
    ∀ {entries : List (Nat × String × Step)} {edges : List (Nat × Nat)},
      edgesOf names entries = .ok edges →
        (∀ producer consumer, (producer, consumer) ∈ edges ↔
          ∃ name step input, (consumer, name, step) ∈ entries ∧ step.input = some input ∧
            names.idxOf? input = some producer) ∧
        ∀ entry ∈ entries, ∀ input, entry.2.2.input = some input → input ∈ names := by
  intro entries
  induction entries with
  | nil =>
    intro edges linked
    simp only [edgesOf, Except.ok.injEq] at linked
    subst linked
    simp
  | cons entry rest inductionHypothesis =>
    obtain ⟨position, name, step⟩ := entry
    intro edges linked
    simp only [edgesOf] at linked
    cases fed : step.input with
    | none =>
      simp only [fed] at linked
      obtain ⟨listed, named⟩ := inductionHypothesis linked
      refine ⟨fun producer consumer => ?_, ?_⟩
      · rw [listed]
        constructor
        · rintro ⟨other, otherStep, input, member, otherFed, found⟩
          exact ⟨other, otherStep, input, List.mem_cons_of_mem _ member, otherFed, found⟩
        · rintro ⟨other, otherStep, input, member, otherFed, found⟩
          rcases List.mem_cons.mp member with same | member
          · simp only [Prod.mk.injEq] at same
            obtain ⟨-, -, rfl⟩ := same
            rw [fed] at otherFed
            cases otherFed
          · exact ⟨other, otherStep, input, member, otherFed, found⟩
      · intro other member input otherFed
        rcases List.mem_cons.mp member with rfl | member
        · rw [fed] at otherFed
          cases otherFed
        · exact named other member input otherFed
    | some input =>
      simp only [fed] at linked
      split at linked
      · cases linked
      · next producer found =>
        simp only [Except.bind_eq_ok, Except.pure_eq_ok] at linked
        obtain ⟨others, restLinked, rfl⟩ := linked
        obtain ⟨listed, named⟩ := inductionHypothesis restLinked
        refine ⟨fun source consumer => ?_, ?_⟩
        · rw [List.mem_cons, listed]
          constructor
          · rintro (same | ⟨other, otherStep, otherInput, member, otherFed, otherFound⟩)
            · simp only [Prod.mk.injEq] at same
              obtain ⟨rfl, rfl⟩ := same
              exact ⟨name, step, input, List.mem_cons_self, fed, found⟩
            · exact ⟨other, otherStep, otherInput, List.mem_cons_of_mem _ member, otherFed,
                otherFound⟩
          · rintro ⟨other, otherStep, otherInput, member, otherFed, otherFound⟩
            rcases List.mem_cons.mp member with same | member
            · simp only [Prod.mk.injEq] at same
              obtain ⟨rfl, -, rfl⟩ := same
              rw [fed, Option.some.injEq] at otherFed
              subst otherFed
              rw [found, Option.some.injEq] at otherFound
              exact Or.inl (by rw [otherFound])
            · exact Or.inr ⟨other, otherStep, otherInput, member, otherFed, otherFound⟩
        · intro other member otherInput otherFed
          rcases List.mem_cons.mp member with rfl | member
          · rw [fed, Option.some.injEq] at otherFed
            subst otherFed
            exact List.isSome_idxOf?.mp (by rw [found]; rfl)
          · exact named other member otherInput otherFed

/-- A built graph is read off the definition: its edges are those of the steps, its order is the
one the two passes find, and every artifact names a step. Each guard of building either throws,
which is no success, or lets the rest run. -/
theorem build_eq_ok {workflow : Workflow} {graph : StepGraph} (built : build workflow = .ok graph) :
    ∃ edges order, edgesOf (Table.keys workflow.steps)
        ((List.range (Table.keys workflow.steps).length).zip workflow.steps) = .ok edges ∧
      toposort edges (Table.keys workflow.steps).length = .ok order ∧
      (∀ artifact ∈ workflow.artifacts, artifact.2 ∈ Table.keys workflow.steps) ∧
      graph.names = Table.keys workflow.steps ∧ graph.edges = edges ∧ graph.order = order := by
  unfold build at built
  split at built
  · split at built <;> simp [throw, throwThe, MonadExceptOf.throw, bind, Except.bind] at built
  · split at built
    · simp [throw, throwThe, MonadExceptOf.throw, bind, Except.bind] at built
    · simp only [bind, Except.bind, pure, Except.pure] at built
      have numbered : ((List.range (Table.keys workflow.steps).length).zip workflow.steps).map
          (fun entry => (entry.1, entry.2.1, entry.2.2)) =
            (List.range (Table.keys workflow.steps).length).zip workflow.steps := by
        simp
      rw [numbered] at built
      split at built
      · cases built
      · next edges linked =>
        split at built
        · next order sorted =>
          refine ⟨edges, order, linked, sorted, ?_⟩
          split at built
          · simp [throw, throwThe, MonadExceptOf.throw] at built
          · split at built
            · simp [throw, throwThe, MonadExceptOf.throw] at built
            · next checked =>
              simp only [Except.ok.injEq] at built
              subst built
              refine ⟨?_, rfl, rfl, rfl⟩
              intro artifact member
              simpa using List.find?_eq_none.mp checked artifact member
          · simp [throw, throwThe, MonadExceptOf.throw] at built
        · simp [throw, throwThe, MonadExceptOf.throw] at built

/-- What a graph built from a workflow holds for the steps to run on it. -/
structure Faithful (workflow : Workflow) (graph : StepGraph) : Prop where
  names : graph.names = Table.keys workflow.steps
  covers : ∀ node, node ∈ graph.order ↔ node < workflow.steps.length
  once : graph.order.Nodup
  inputsFirst : ∀ pre node post, graph.order = pre ++ node :: post →
    ∀ producer, graph.input node = some producer → producer ∈ pre
  inputOfStep : ∀ node name step, workflow.steps[node]? = some (name, step) →
    (graph.input node).map graph.name = step.input
  artifacts : ∀ artifact ∈ workflow.artifacts, artifact.2 ∈ Table.keys workflow.steps

/-- A built graph is faithful to its workflow: its order lists every step once, each after its
input step, and the input of each node is the node of its step's input: an edge comes into a
node from the node of its step's input, so a node has at most one edge coming into it. -/
theorem build_faithful {workflow : Workflow} {graph : StepGraph}
    (built : build workflow = .ok graph) : Faithful workflow graph := by
  obtain ⟨edges, order, linked, sorted, artifacts, names, edgesEq, orderEq⟩ := build_eq_ok built
  have length : (Table.keys workflow.steps).length = workflow.steps.length := by
    simp [Table.keys]
  rw [length] at linked sorted
  obtain ⟨listed, named⟩ := edgesOf_eq_ok linked
  have edgeOf : ∀ producer consumer, (producer, consumer) ∈ edges ↔
      ∃ name step input, workflow.steps[consumer]? = some (name, step) ∧ step.input = some input ∧
        (Table.keys workflow.steps).idxOf? input = some producer := by
    intro producer consumer
    rw [listed]
    simp only [mem_zip_range]
  have bounded : ∀ edge ∈ edges, edge.2 < workflow.steps.length := by
    rintro ⟨producer, consumer⟩ member
    obtain ⟨name, step, input, found, -, -⟩ := (edgeOf producer consumer).mp member
    exact (List.getElem?_eq_some_iff.mp found).1
  obtain ⟨covers, once, ordered⟩ := toposort_eq_ok bounded sorted
  have inputEq : ∀ node, graph.input node = (incoming edges node).head? := by
    intro node
    simp only [StepGraph.input, edgesEq]
  have inputMember : ∀ node producer, graph.input node = some producer →
      (producer, node) ∈ edges := by
    intro node producer input
    rw [inputEq] at input
    exact mem_incoming.mp (List.mem_of_head? input)
  refine ⟨names, orderEq ▸ covers, orderEq ▸ once, ?_, ?_, artifacts⟩
  · intro pre node post split producer input
    exact ordered pre node post (orderEq ▸ split) producer (inputMember node producer input)
  · intro node name step found
    have into : ∀ other, (other, node) ∈ edges → ∃ input, step.input = some input ∧
        (Table.keys workflow.steps).idxOf? input = some other := by
      intro other member
      obtain ⟨otherName, otherStep, input, otherFound, otherFed, located⟩ :=
        (edgeOf other node).mp member
      rw [found, Option.some.injEq, Prod.mk.injEq] at otherFound
      obtain ⟨-, rfl⟩ := otherFound
      exact ⟨input, otherFed, located⟩
    cases fed : step.input with
    | none =>
      have noIncoming : incoming edges node = [] := by
        refine List.eq_nil_iff_forall_not_mem.mpr fun producer member => ?_
        obtain ⟨input, otherFed, -⟩ := into producer (mem_incoming.mp member)
        rw [fed] at otherFed
        cases otherFed
      simp [inputEq, noIncoming]
    | some input =>
      have declared : input ∈ Table.keys workflow.steps :=
        named (node, name, step) (mem_zip_range.mpr found) input fed
      obtain ⟨producer, located⟩ := Option.isSome_iff_exists.mp (List.isSome_idxOf?.mpr declared)
      have edge : (producer, node) ∈ edges :=
        (edgeOf producer node).mpr ⟨name, step, input, found, fed, located⟩
      have onlyEdge : ∀ other ∈ incoming edges node, other = producer := by
        intro other member
        obtain ⟨otherInput, otherFed, otherLocated⟩ := into other (mem_incoming.mp member)
        rw [fed, Option.some.injEq] at otherFed
        subst otherFed
        rw [located, Option.some.injEq] at otherLocated
        exact otherLocated.symm
      have headed : graph.input node = some producer := by
        cases listedInto : incoming edges node with
        | nil => exact absurd (mem_incoming.mpr edge) (by rw [listedInto]; simp)
        | cons first rest =>
          simp only [inputEq, listedInto, List.head?_cons, Option.some.injEq]
          exact onlyEdge first (by rw [listedInto]; exact List.mem_cons_self)
      obtain ⟨within, atProducer, -⟩ := List.idxOf?_eq_some_iff.mp located
      simp only [headed, Option.map_some, StepGraph.name, names, Option.some.injEq]
      rw [List.getD_eq_getElem?_getD, List.getElem?_eq_getElem within, atProducer]
      rfl

end StepGraph

end Recast
