import Recast.Regex.Machine
import Recast.Regex.Footprint
import Recast.Regex.Extended.Parse
/-!
Compiling a pattern in the extended syntax, and searching with it.

A pattern is hard when it has look-around, a back-reference, an atomic group, `\K` or `\G`, or
a group that a back-reference names. A pattern that is not hard becomes one automaton, and a
search with it never gives up. A hard pattern becomes a program for the backtracking machine,
laid out as follows.

* The pattern is wrapped as group 0 after a lazy `(?s:.)*?`, which tries each starting position
  in turn; a search runs the program once from the start of the text.
* In a concatenation whose parts need backtracking, the leading parts of constant width that are
  not hard, and the trailing parts that are not hard (of constant width only when the
  concatenation itself must backtrack), are run as one automaton each; the parts between them are
  compiled for the machine, whatever they are.
* A look-around's body, and an atomic group's, is compiled as if nothing outside needed
  backtracking: when it is not hard it runs as one automaton. A look-behind must have a constant
  width; the machine steps back that many characters and matches the body forwards.
* `e?` is a choice; `e*` and `e+` are loops of choices; a repetition with counts, or an
  unbounded one whose body can match nothing, keeps its count in a slot.

Automata whose states would pass the engine's `sizeLimit` are refused, as are counted
repetitions whose least count exceeds their most in a part that runs as an automaton.
-/

namespace Recast.Regex

open Recast.Unicode

/-! ### Measures -/

mutual

/-- The number of capture groups a node opens. -/
def Node.groupCount : Node → Nat
  | .group body => 1 + body.groupCount
  | .concat items => groupCountAll items
  | .alternation items => groupCountAll items
  | .lookaround body _ _ => body.groupCount
  | .repetition body _ _ _ => body.groupCount
  | .atomic body => body.groupCount
  | _ => 0

/-- The number of capture groups a list of nodes opens. -/
def groupCountAll : List Node → Nat
  | [] => 0
  | item :: rest => item.groupCount + groupCountAll rest

end

mutual

/-- The fewest characters a node matches; look-arounds count as none. -/
def Node.minSize : Node → Nat
  | .any _ | .literal _ _ | .set _ => 1
  | .concat items => minSizeSum items
  | .alternation [] => 0
  | .alternation (first :: rest) => minSizeLeast first.minSize rest
  | .group body => body.minSize
  | .repetition body least _ _ => body.minSize * least
  | .atomic body => body.minSize
  | _ => 0

/-- The fewest characters nodes matched one after another match. -/
def minSizeSum : List Node → Nat
  | [] => 0
  | item :: rest => item.minSize + minSizeSum rest

/-- The fewest characters one of some alternatives matches, given the fewest of the others. -/
def minSizeLeast (least : Nat) : List Node → Nat
  | [] => least
  | branch :: rest => minSizeLeast (min least branch.minSize) rest

end

mutual

/-- Whether every match of a node has the same number of characters. -/
def Node.constSize : Node → Bool
  | .concat items => constSizeAll items
  | .alternation [] => true
  | .alternation (first :: rest) => first.constSize && constSizeAs first.minSize rest
  | .group body => body.constSize
  | .repetition body least most _ => body.constSize && most == some least
  | .atomic body => body.constSize
  | .backref _ _ => false
  | _ => true

/-- Whether every node of a list has a constant width. -/
def constSizeAll : List Node → Bool
  | [] => true
  | item :: rest => item.constSize && constSizeAll rest

/-- Whether every node of a list has the same constant width `size`. -/
def constSizeAs (size : Nat) : List Node → Bool
  | [] => true
  | item :: rest => item.constSize && item.minSize == size && constSizeAs size rest

end

/-- Pairs the items of a list with the number the first group among them gets, starting from
`base`. -/
def withBases (base : Nat) : List Node → List (Node × Nat)
  | [] => []
  | item :: rest => (item, base) :: withBases (base + item.groupCount) rest

mutual

/-- Whether a node is hard, the first group in it getting number `base`: whether it has
look-around, a back-reference, an atomic group, `\K`, `\G`, or a group one of `backrefs` names. -/
def Node.isHard (backrefs : List Nat) : Node → Nat → Bool
  | .lookaround _ _ _, _ | .backref _ _, _ | .atomic _, _ | .keepOut, _ | .searchStart, _ => true
  | .group body, base => backrefs.contains base || body.isHard backrefs (base + 1)
  | .concat items, base => anyHard backrefs base items
  | .alternation items, base => anyHard backrefs base items
  | .repetition body _ _ _, base => body.isHard backrefs base
  | _, _ => false

/-- Whether some item of a list is hard, the first group in it getting number `base`. -/
def anyHard (backrefs : List Nat) (base : Nat) : List Node → Bool
  | [] => false
  | item :: rest => item.isHard backrefs base || anyHard backrefs (base + item.groupCount) rest

end

mutual

/-- The characters of a node made of literals for which case counts, if it is one. -/
def Node.literalText : Node → Option (List Char)
  | .literal c false => some [c]
  | .concat items => literalTextAll items
  | _ => none

/-- The characters of nodes made of literals for which case counts, if they are. -/
def literalTextAll : List Node → Option (List Char)
  | [] => some []
  | item :: rest => do
    let first ← item.literalText
    let others ← literalTextAll rest
    pure (first ++ others)

end

mutual

/-- Whether every counted repetition in a node has its least count at most its most. -/
def Node.countsInOrder : Node → Bool
  | .concat items => countsInOrderAll items
  | .alternation items => countsInOrderAll items
  | .group body => body.countsInOrder
  | .repetition body least most _ => most.all (least ≤ ·) && body.countsInOrder
  | .lookaround body _ _ => body.countsInOrder
  | .atomic body => body.countsInOrder
  | _ => true

/-- Whether every counted repetition in a list of nodes has its counts in order. -/
def countsInOrderAll : List Node → Bool
  | [] => true
  | item :: rest => item.countsInOrder && countsInOrderAll rest

end

/-- The automaton of a node that needs no backtracking, if it may be built; `anchored` when it
only ever runs from the start of the text. -/
def automatonOf (node : Node) (anchored : Bool) : Except String Automaton :=
  if !node.countsInOrder then .error "repetition counts out of order"
  else if !fitsSizeLimit node anchored then .error "compiled regex exceeds size limit"
  else .ok (Automaton.ofNode node)

/-! ### Programs -/

/-- A program being laid out: its instructions so far and the number of slots in use. -/
structure Layout where
  code : Array Instruction
  slots : Nat

/-- A step of laying out a program. -/
abbrev LayoutM := StateT Layout (Except String)

/-- Adds an instruction, giving its place. -/
def emit (instruction : Instruction) : LayoutM Nat := do
  let layout ← get
  set { layout with code := layout.code.push instruction }
  pure layout.code.size

/-- The place the next instruction gets. -/
def nextPlace : LayoutM Nat := do
  pure (← get).code.size

/-- Replaces the instruction at a place. -/
def patch (place : Nat) (instruction : Instruction) : LayoutM Unit :=
  modify fun layout => { layout with code := layout.code.setIfInBounds place instruction }

/-- A slot not used yet. -/
def freshSlot : LayoutM Nat := do
  let layout ← get
  set { layout with slots := layout.slots + 1 }
  pure layout.slots

/-- Lays out parts that need no backtracking, one after another: literals as text, one
character as a read, anything else as an automaton. -/
def emitPlain (items : List Node) : LayoutM Unit := do
  if items.isEmpty then return
  match (Node.concat items).literalText with
  | some chars =>
    let _ ← emit (.text chars)
    return
  | none => pure ()
  let single : Option Instruction := match items with
    | [.literal c true] => some (.read (literalCodes c true).table)
    | [.set chars] => some (.read chars.table)
    | [.any newline] => some (.any newline)
    | [.look kind] => some (.test kind)
    | _ => none
  match single with
  | some instruction =>
    let _ ← emit instruction
  | none =>
    let node := match items with
      | [only] => only
      | _ => .concat items
    match automatonOf node true with
    | .ok automaton =>
      let _ ← emit (.delegate automaton)
    | .error what => throw what

/-- A choice whose preferred way is the one after it when `greedy`, and `other` otherwise. -/
def preferring (greedy : Bool) (here other : Nat) : Instruction :=
  if greedy then .split here other else .split other here

/-- Lays out a node, the first group in it getting number `base`; `hard` when what encloses it
needs backtracking. -/
def layoutNode (backrefs : List Nat) : Nat → Node → Nat → Bool → LayoutM Unit
  | 0, _, _, _ => throw "pattern too deep"
  | fuel + 1, node, base, hard => do
    if !hard && !node.isHard backrefs base then return ← emitPlain [node]
    match node with
    | .empty | .keepOut => pure ()
    | .literal c false =>
      let _ ← emit (.text [c])
    | .any newline =>
      let _ ← emit (.any newline)
    | .literal _ true | .set _ | .look _ => emitPlain [node]
    | .concat items =>
      let parts := withBases base items
      let plain (part : Node × Nat) : Bool := part.1.constSize && !part.1.isHard backrefs part.2
      let leading := parts.takeWhile plain
      let rest := parts.drop leading.length
      let trailingCount := (rest.reverse.takeWhile fun part =>
        !part.1.isHard backrefs part.2 && (!hard || part.1.constSize)).length
      let middle := rest.take (rest.length - trailingCount)
      let trailing := rest.drop (rest.length - trailingCount)
      emitPlain (leading.map Prod.fst)
      for (item, itemBase) in middle do
        layoutNode backrefs fuel item itemBase true
      emitPlain (trailing.map Prod.fst)
    | .alternation branches =>
      let parts := withBases base branches
      let mut jumps : List Nat := []
      let mut lastSplit : Option Nat := none
      let mut index := 0
      for (branch, branchBase) in parts do
        let place ← nextPlace
        match lastSplit with
        | some split => patch split (.split (split + 1) place)
        | none => pure ()
        let isLast := index + 1 == parts.length
        if !isLast then
          lastSplit := some (← emit (.split (place + 1) place))
        layoutNode backrefs fuel branch branchBase hard
        if !isLast then
          jumps := (← emit (.jump 0)) :: jumps
        index := index + 1
      let stop ← nextPlace
      for jump in jumps do
        patch jump (.jump stop)
    | .group body =>
      let _ ← emit (.save (2 * base))
      layoutNode backrefs fuel body (base + 1) hard
      let _ ← emit (.save (2 * base + 1))
    | .repetition body least most greedy =>
      if least == 0 && most == some 1 then
        let split ← emit (.split 0 0)
        layoutNode backrefs fuel body base hard
        patch split (preferring greedy (split + 1) (← nextPlace))
      else
        let hard := hard || body.isHard backrefs base
        if most.isNone && body.minSize == 0 then
          let slot ← freshSlot
          let check ← freshSlot
          let _ ← emit (.clear slot)
          let loop ← emit (.unbounded least 0 slot check greedy)
          layoutNode backrefs fuel body base hard
          let _ ← emit (.jump loop)
          patch loop (.unbounded least (← nextPlace) slot check greedy)
        else if least == 0 && most.isNone then
          let loop ← emit (.split 0 0)
          layoutNode backrefs fuel body base hard
          let _ ← emit (.jump loop)
          patch loop (preferring greedy (loop + 1) (← nextPlace))
        else if least == 1 && most.isNone then
          let start ← nextPlace
          layoutNode backrefs fuel body base hard
          let after := (← nextPlace) + 1
          let _ ← emit (preferring greedy start after)
        else
          let slot ← freshSlot
          let _ ← emit (.clear slot)
          let loop ← emit (.counted least most 0 slot greedy)
          layoutNode backrefs fuel body base hard
          let _ ← emit (.jump loop)
          patch loop (.counted least most (← nextPlace) slot greedy)
    | .lookaround body behind negated =>
      if behind && !body.constSize then throw "look-behind is not of constant size"
      if negated then
        let split ← emit (.split 0 0)
        if behind then
          let _ ← emit (.back body.minSize)
        layoutNode backrefs fuel body base false
        let _ ← emit .failNegative
        patch split (.split (split + 1) (← nextPlace))
      else
        let slot ← freshSlot
        let _ ← emit (.save slot)
        if behind then
          let _ ← emit (.back body.minSize)
        layoutNode backrefs fuel body base false
        let _ ← emit (.restore slot)
    | .backref group caseless =>
      let _ ← emit (.backref (2 * group) caseless)
    | .atomic body =>
      let _ ← emit .beginAtomic
      layoutNode backrefs fuel body base false
      let _ ← emit .endAtomic
    | .searchStart =>
      let _ ← emit .searchStart

/-! ### Compiled patterns -/

/-- A compiled pattern: an automaton, or a program for the backtracking machine. -/
inductive Compiled where
  | automaton (automaton : Automaton)
  | program (program : Program)
  deriving Inhabited

/-- The depth of nesting a layout follows at most. -/
def layoutFuel (pattern : String) : Nat := 2 * pattern.length + 16

/-- Compiles a pattern in the extended syntax. -/
def compile (pattern : String) : Except String Compiled := do
  let parsed ← Extended.parse pattern
  if parsed.backrefs.any (parsed.groups < ·) then throw "invalid back-reference"
  let root := parsed.root
  if !root.isHard parsed.backrefs 1 then
    return .automaton (← automatonOf root false)
  let wrapper := Node.concat [.repetition (.any true) 0 none false, .group root]
  let layout : LayoutM Unit := do
    layoutNode parsed.backrefs (layoutFuel pattern) wrapper 0 false
    let _ ← emit .finish
  let (_, done) ← layout.run ⟨#[], 2 * (parsed.groups + 1)⟩
  pure (.program ⟨done.code, done.slots⟩)

/-- Searches a text for a match of a compiled pattern anywhere in it. -/
def Compiled.search (compiled : Compiled) (text : String) : Outcome :=
  let chars := text.toList.toArray
  match compiled with
  | .automaton states => if states.matchesSomewhere chars then .matched else .failed
  | .program code => code.search chars

end Recast.Regex
