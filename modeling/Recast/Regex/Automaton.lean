import Recast.Regex.Extended.Tree
import Recast.Unicode.Tables
/-!
Automata for the regular expressions without look-around, back-references or atomic groups.

A node becomes a set of states: a state reads one character of a set, chooses between two next
states (the first preferred), tests the position, or accepts. Groups add no states, and a
counted repetition is spelled out: `e{2,4}` is two copies of `e` followed by two optional ones.

Running an automaton follows all paths at once, a position at a time: the live states are kept in
the order of preference, and a state reached twice at one position is kept once, at its first,
most preferred, place. So a search costs at most the number of states for each character.
`matchesSomewhere` tells whether some part of a text matches; `preferredEnd` gives, for a match
that must start at a position, where the most preferred match ends: when a path accepts, the
paths less preferred than it are dropped and the more preferred ones go on, and may end later.
-/

namespace Recast.Regex

open Recast.Unicode

/-- A state of an automaton. -/
inductive Step where
  /-- Reads one character of the set and goes on. -/
  | read (chars : CodeTable) (next : Nat)
  /-- Goes on with both, the first preferred. -/
  | split (first second : Nat)
  /-- Goes on when the test holds at the position. -/
  | test (kind : Look) (next : Nat)
  /-- Accepts. -/
  | accept
  deriving Inhabited

/-- An automaton: its states and the state it starts in. -/
structure Automaton where
  steps : Array Step
  start : Nat
  deriving Inhabited

/-! ### Building -/

/-- Every character. -/
def anyTable : CodeTable := CodeSet.all.table

/-- Every character but the line feed. -/
def notNewlineTable : CodeTable := (CodeSet.single 10).complement.table

/-- The characters a literal matches. -/
def literalCodes (c : Char) (caseless : Bool) : CodeSet :=
  if caseless then CodeSet.ofRanges ((orbitOf c.toNat).map fun code => (code, code))
  else CodeSet.single c.toNat

/-- Adds a state, giving its number. -/
def addStep (steps : Array Step) (step : Step) : Array Step × Nat :=
  (steps.push step, steps.size)

/-- A state with each state it leads to renamed. -/
def Step.rename (place : Nat → Nat) : Step → Step
  | .read chars next => .read chars (place next)
  | .split first second => .split (place first) (place second)
  | .test kind next => .test kind (place next)
  | .accept => .accept

/-- Adds a copy of states built once after a placeholder state `0`, which stands for the state
the copy goes on to; gives the copy's start. Building a repeated body once and copying it gives
the same states as building it again for each copy. -/
def copyOf (template : Array Step × Nat) (steps : Array Step) (next : Nat) : Array Step × Nat :=
  let offset := steps.size
  let place := fun state => if state == 0 then next else offset + state - 1
  (steps ++ (template.1.extract 1 template.1.size).map (Step.rename place), place template.2)

mutual

/-- Adds the states of a node that go on to `next` when it has matched; gives the state to start
the node in. A repeated body is built once and copied. -/
def buildNode (steps : Array Step) (next : Nat) : Node → Array Step × Nat
  | .empty => (steps, next)
  | .any newline => addStep steps (.read (if newline then anyTable else notNewlineTable) next)
  | .literal c caseless => addStep steps (.read (literalCodes c caseless).table next)
  | .set chars => addStep steps (.read chars.table next)
  | .look kind => addStep steps (.test kind next)
  | .concat items => buildSequence steps next items
  | .alternation branches => buildBranches steps next branches
  | .group body => buildNode steps next body
  | .repetition body least most greedy =>
    let copy := copyOf (buildNode #[.accept] 0 body)
    let (steps, optionalStart) := match most with
      | none =>
        let (steps, loop) := addStep steps .accept
        let (steps, bodyStart) := copy steps loop
        let choice := if greedy then Step.split bodyStart next else Step.split next bodyStart
        (steps.setIfInBounds loop choice, loop)
      | some most =>
        (List.range (most - least)).foldl (fun (steps, after) _ =>
          let (steps, bodyStart) := copy steps after
          addStep steps (if greedy then .split bodyStart next else .split next bodyStart))
          (steps, next)
    (List.range least).foldl (fun (steps, after) _ => copy steps after) (steps, optionalStart)
  | .lookaround _ _ _ | .backref _ _ | .atomic _ | .keepOut | .searchStart => (steps, next)

/-- Adds the states of items matched one after another. -/
def buildSequence (steps : Array Step) (next : Nat) : List Node → Array Step × Nat
  | [] => (steps, next)
  | item :: rest =>
    let (steps, restStart) := buildSequence steps next rest
    buildNode steps restStart item

/-- Adds the states of alternatives, the earlier ones preferred. -/
def buildBranches (steps : Array Step) (next : Nat) : List Node → Array Step × Nat
  | [] => (steps, next)
  | [last] => buildNode steps next last
  | branch :: rest =>
    let (steps, branchStart) := buildNode steps next branch
    let (steps, restStart) := buildBranches steps next rest
    addStep steps (.split branchStart restStart)

end

/-- The automaton of a node. -/
def Automaton.ofNode (node : Node) : Automaton :=
  let (steps, accept) := addStep #[] .accept
  let (steps, start) := buildNode steps accept node
  ⟨steps, start⟩

/-! ### Running -/

/-- Whether a test holds at a position of a text. -/
def Look.holds (kind : Look) (text : Array Char) (pos : Nat) : Bool :=
  let before := match text[pos - 1]? with
    | some c => 0 < pos && isWordChar c
    | none => false
  let after := match text[pos]? with
    | some c => isWordChar c
    | none => false
  match kind with
  | .textStart => pos == 0
  | .textEnd => text.size ≤ pos
  | .lineStart => pos == 0 || text[pos - 1]? == some '\n'
  | .lineEnd => text.size ≤ pos || text[pos]? == some '\n'
  | .wordBoundary => before != after
  | .notWordBoundary => before == after
  | .wordStart => !before && after
  | .wordEnd => before && !after

/-- The live states at a position: the states that read or accept, in order of preference, and
for each state the last position it was reached at (plus one), so each is kept once. -/
structure Live where
  states : Array Nat
  seen : Array Nat

/-- Adds, in order of preference, the reading and accepting states reachable from the states of
a work list without reading, at a position. -/
def Automaton.close (automaton : Automaton) (text : Array Char) (pos : Nat) :
    Nat → List Nat → Live → Live
  | 0, _, live => live
  | _ + 1, [], live => live
  | fuel + 1, state :: work, live =>
    if live.seen.getD state 0 == pos + 1 then automaton.close text pos fuel work live
    else
      let live := { live with seen := live.seen.setIfInBounds state (pos + 1) }
      match automaton.steps.getD state .accept with
      | .read _ _ | .accept =>
        automaton.close text pos fuel work { live with states := live.states.push state }
      | .split first second => automaton.close text pos fuel (first :: second :: work) live
      | .test kind next =>
        if kind.holds text pos then automaton.close text pos fuel (next :: work) live
        else automaton.close text pos fuel work live

/-- The fuel a closure needs: each state is entered at most once and adds at most two. -/
def Automaton.closeFuel (automaton : Automaton) : Nat := 2 * automaton.steps.size + 2

/-- Moves the live states over the character at a position, in order of preference. Stops at
the first accepting state and tells whether there was one, dropping the states after it. -/
def Automaton.advance (automaton : Automaton) (text : Array Char) (pos : Nat) (states : List Nat)
    (next : Live) : Live × Bool :=
  match states with
  | [] => (next, false)
  | state :: rest =>
    match automaton.steps.getD state .accept with
    | .accept => (next, true)
    | .read chars target =>
      let next := match text[pos]? with
        | some c =>
          if chars.contains c.toNat then
            automaton.close text (pos + 1) automaton.closeFuel [target] next
          else next
        | none => next
      automaton.advance text pos rest next
    | _ => automaton.advance text pos rest next

/-- Whether some part of a text, from `pos` on, matches, with the states live at `pos`. -/
def Automaton.scan (automaton : Automaton) (text : Array Char) : Nat → Nat → Live → Bool
  | 0, _, _ => false
  | fuel + 1, pos, live =>
    let live := automaton.close text pos automaton.closeFuel [automaton.start] live
    let (next, accepted) := automaton.advance text pos live.states.toList ⟨#[], live.seen⟩
    if accepted then true
    else if text.size ≤ pos then false
    else automaton.scan text fuel (pos + 1) next

/-- Whether some part of a text matches. -/
def Automaton.matchesSomewhere (automaton : Automaton) (text : Array Char) : Bool :=
  automaton.scan text (text.size + 2) 0 ⟨#[], Array.replicate automaton.steps.size 0⟩

/-- Follows the live states from `pos` on for a match that started earlier; gives where the most
preferred match ends, given the best end found so far. -/
def Automaton.follow (automaton : Automaton) (text : Array Char) :
    Nat → Nat → Live → Option Nat → Option Nat
  | 0, _, _, found => found
  | fuel + 1, pos, live, found =>
    let (next, accepted) := automaton.advance text pos live.states.toList ⟨#[], live.seen⟩
    let found := if accepted then some pos else found
    if next.states.isEmpty || text.size ≤ pos then found
    else automaton.follow text fuel (pos + 1) next found

/-- Where the most preferred match that starts at a position ends, if one does. -/
def Automaton.preferredEnd (automaton : Automaton) (text : Array Char) (pos : Nat) : Option Nat :=
  let live := automaton.close text pos automaton.closeFuel [automaton.start]
    ⟨#[], Array.replicate automaton.steps.size 0⟩
  automaton.follow text (text.size + 2) pos live none

end Recast.Regex
