import Recast.Regex.Automaton
/-!
A backtracking machine for the regular expressions that need one: those with look-around,
back-references or atomic groups.

A program is a list of instructions. The machine runs it from the start at a position of the
text; an instruction that offers two ways on takes the first and pushes the second, with the
position, the saved slots and the marks of open atomic groups, onto a stack of choices; an
instruction that fails pops the last choice and goes on from there. The parts of a pattern that
need no backtracking run as automata (`Automaton.preferredEnd`), which the machine does not
backtrack into.

Each pop after a failure counts, and a search that counts more than `backtrackLimit` of them
gives up, as does one whose stack of choices grows past `stackLimit`: giving up is an outcome
of its own, not a failure to match.
-/

namespace Recast.Regex

open Recast.Unicode

/-- An instruction of the machine. -/
inductive Instruction where
  /-- The whole pattern has matched. -/
  | finish
  /-- Reads any character; a line feed only when `newline`. -/
  | any (newline : Bool)
  /-- Reads these characters. -/
  | text (chars : List Char)
  /-- Reads one character of a set. -/
  | read (chars : CodeTable)
  /-- Tests the position. -/
  | test (kind : Look)
  /-- Goes on at `first`, keeping `second` as a choice. -/
  | split (first second : Nat)
  | jump (target : Nat)
  /-- Saves the position in a slot. -/
  | save (slot : Nat)
  /-- Sets a slot to zero. -/
  | clear (slot : Nat)
  /-- Moves back to the position saved in a slot. -/
  | restore (slot : Nat)
  /-- Counts a repetition in a slot: leaves for `next` once `most` are done, and from `least`
  on keeps leaving as a choice (when greedy) or leaves and keeps going on as a choice (when
  lazy). -/
  | counted (least : Nat) (most : Option Nat) (next : Nat) (slot : Nat) (greedy : Bool)
  /-- The same for an unbounded repetition whose body may match nothing: a repetition beyond
  `least` that starts where the last one did fails. -/
  | unbounded (least : Nat) (next : Nat) (slot : Nat) (check : Nat) (greedy : Bool)
  /-- Moves back over some characters. -/
  | back (count : Nat)
  /-- A negative look-around's body has matched: drops the choices made inside it, the
  look-around's own included, and fails. -/
  | failNegative
  /-- Reads again what the group saved in a slot and the next one matched. -/
  | backref (slot : Nat) (caseless : Bool)
  /-- Opens an atomic group: marks how many choices there are. -/
  | beginAtomic
  /-- Closes an atomic group: drops the choices made since its mark. -/
  | endAtomic
  /-- Runs an automaton for a match that starts here and goes on where it ends. -/
  | delegate (automaton : Automaton)
  /-- Holds only where the search started. -/
  | searchStart
  deriving Inhabited

/-- A program: its instructions and the number of slots they use. -/
structure Program where
  instructions : Array Instruction
  slots : Nat
  deriving Inhabited

/-- The most choices that may be popped after failures in one search. -/
def backtrackLimit : Nat := 1000000

/-- The most choices that may wait on the stack. -/
def stackLimit : Nat := 1000000

/-- A choice: where to go on, the position, and the slots and marks to restore. -/
structure Choice where
  pc : Nat
  pos : Nat
  slots : Array (Option Nat)
  marks : List Nat

/-- The state of the machine. -/
structure Run where
  pc : Nat
  pos : Nat
  slots : Array (Option Nat)
  marks : List Nat
  choices : Array Choice
  backtracks : Nat

/-- How a search ends. -/
inductive Outcome where
  | matched
  | failed
  /-- It gave up, for the reason given. -/
  | gaveUp (reason : String)
  deriving Inhabited, BEq, Repr

/-- Keeps a choice. -/
def Run.push (run : Run) (pc pos : Nat) : Except Outcome Run :=
  if stackLimit ≤ run.choices.size then
    .error (.gaveUp "Max stack size exceeded for backtracking")
  else .ok { run with choices := run.choices.push ⟨pc, pos, run.slots, run.marks⟩ }

/-- Sets a slot. -/
def Run.store (run : Run) (slot : Nat) (value : Option Nat) : Run :=
  { run with slots := run.slots.setIfInBounds slot value }

/-- Reads a slot. -/
def Run.slot (run : Run) (slot : Nat) : Option Nat :=
  run.slots.getD slot none

/-- Whether a text has these characters from a position on. -/
def textAt (text : Array Char) (pos : Nat) : List Char → Bool
  | [] => true
  | c :: rest => text[pos]? == some c && textAt text (pos + 1) rest

/-- Whether a text has, from a position on, the characters it has from `start` to `stop`,
regardless of case when `caseless`. -/
def repeatsAt (text : Array Char) (caseless : Bool) (start stop pos : Nat) : Bool :=
  (List.range (stop - start)).all fun offset =>
    match text[start + offset]?, text[pos + offset]? with
    | some c, some d => if caseless then foldEqual c d else c == d
    | _, _ => false

/-- Pops choices up to and including the one that goes on at `target`. -/
def Run.dropTo (run : Run) (target : Nat) : Nat → Run
  | 0 => run
  | fuel + 1 =>
    match run.choices.back? with
    | none => run
    | some choice =>
      let run := { run with
        choices := run.choices.pop, slots := choice.slots, marks := choice.marks,
        pc := choice.pc, pos := choice.pos }
      if choice.pc == target then run else run.dropTo target fuel

/-- What a step gives: the next state, or the end of the search. -/
abbrev StepResult := Except Outcome Run

/-- After a failure: the last choice, counted, or the end of the search. -/
def Run.fail (run : Run) : StepResult :=
  match run.choices.back? with
  | none => .error .failed
  | some choice =>
    if backtrackLimit ≤ run.backtracks then
      .error (.gaveUp "Max limit for backtracking count exceeded")
    else
      .ok { run with
        choices := run.choices.pop, pc := choice.pc, pos := choice.pos,
        slots := choice.slots, marks := choice.marks, backtracks := run.backtracks + 1 }

/-- One step of the machine. -/
def Program.step (program : Program) (text : Array Char) (run : Run) : StepResult :=
  let next (run : Run) : StepResult := .ok { run with pc := run.pc + 1 }
  match program.instructions.getD run.pc .finish with
  | .finish => .error .matched
  | .any newline =>
    match text[run.pos]? with
    | some c => if newline || c != '\n' then next { run with pos := run.pos + 1 } else run.fail
    | none => run.fail
  | .text chars =>
    if textAt text run.pos chars then next { run with pos := run.pos + chars.length } else run.fail
  | .read chars =>
    match text[run.pos]? with
    | some c => if chars.contains c.toNat then next { run with pos := run.pos + 1 } else run.fail
    | none => run.fail
  | .test kind => if kind.holds text run.pos then next run else run.fail
  | .split first second => do
    let run ← run.push second run.pos
    pure { run with pc := first }
  | .jump target => .ok { run with pc := target }
  | .save slot => next (run.store slot (some run.pos))
  | .clear slot => next (run.store slot (some 0))
  | .restore slot => next { run with pos := (run.slot slot).getD run.pos }
  | .counted least most after slot greedy =>
    let count := (run.slot slot).getD 0
    if most == some count then .ok { run with pc := after }
    else
      let run := run.store slot (some (count + 1))
      if least ≤ count then
        if greedy then do
          let run ← run.push after run.pos
          next run
        else do
          let run ← run.push (run.pc + 1) run.pos
          pure { run with pc := after }
      else next run
  | .unbounded least after slot check greedy =>
    let count := (run.slot slot).getD 0
    if least < count && run.slot check == some run.pos then run.fail
    else
      let run := run.store slot (some (count + 1))
      if least ≤ count then
        let run := run.store check (some run.pos)
        if greedy then do
          let run ← run.push after run.pos
          next run
        else do
          let run ← run.push (run.pc + 1) run.pos
          pure { run with pc := after }
      else next run
  | .back count => if count ≤ run.pos then next { run with pos := run.pos - count } else run.fail
  | .failNegative => (run.dropTo (run.pc + 1) (run.choices.size + 1)).fail
  | .backref slot caseless =>
    match run.slot slot, run.slot (slot + 1) with
    | some start, some stop =>
      if start ≤ stop && run.pos + (stop - start) ≤ text.size &&
          repeatsAt text caseless start stop run.pos then
        next { run with pos := run.pos + (stop - start) }
      else run.fail
    | _, _ => run.fail
  | .beginAtomic => next { run with marks := run.choices.size :: run.marks }
  | .endAtomic =>
    match run.marks with
    | mark :: rest => next { run with marks := rest, choices := run.choices.extract 0 mark }
    | [] => next run
  | .delegate automaton =>
    match automaton.preferredEnd text run.pos with
    | some stop => next { run with pos := stop }
    | none => run.fail
  | .searchStart => if run.pos == 0 then next run else run.fail

/-- Runs the machine for at most `fuel` steps. -/
def Program.loop (program : Program) (text : Array Char) : Nat → Run → Outcome
  | 0, _ => .gaveUp "Max limit for backtracking count exceeded"
  | fuel + 1, run =>
    match program.step text run with
    | .ok run => program.loop text fuel run
    | .error outcome => outcome

/-- Runs a program on a text from its start. -/
def Program.search (program : Program) (text : Array Char) : Outcome :=
  let fuel := (backtrackLimit + stackLimit + text.size + 2) * (program.instructions.size + 2)
  program.loop text fuel ⟨0, 0, Array.replicate program.slots none, [], #[], 0⟩

end Recast.Regex
