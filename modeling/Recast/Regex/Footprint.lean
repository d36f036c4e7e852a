import Std.Data.HashMap
import Recast.Regex.Automaton
/-!
The memory the matching engine's automata take, which decides whether a pattern is too large.

A pattern that runs as one automaton is compiled by the engine twice, into an automaton that
reads forwards and one that reads backwards, and each is refused once the states laid out so far
take more than `sizeLimit` bytes. The count here follows that layout state by state.

* The pattern is first simplified the way the engine's syntax tree is (`Shape`): adjacent
  literal characters join, empty parts of a concatenation vanish, an alternation of single
  characters or of sets becomes one set, an alternation of concatenations with a common start
  keeps that start once, a set of one character is a literal, and a repetition of something that
  only matches the empty text repeats at most once.
* Every state takes 32 bytes; a sparse state takes 8 more for each byte range it tests, and a
  union 4 more for each alternative it offers.
* The forward automaton starts with a lazy loop over any byte unless every match starts at the
  start of the text, wraps the pattern in the states of capture group 0, and ends in a match
  state; the backward one has no capture states and drops the loop when every match ends at the
  end of the text.
* A literal is one state per UTF-8 byte. A set of ASCII characters is one sparse state and an
  empty one. A larger set is split into runs of UTF-8 byte ranges: forwards they are laid out as
  a trie whose equal nodes are shared through a cache of 10000 slots, backwards as chains from
  the last byte whose equal links are shared through a cache of 1000 slots; either cache keeps
  one entry a slot, found by an FNV-1a hash of state numbers, so colliding entries are not
  shared.
* An alternation of literals is laid out as a trie of their bytes; any other alternation is a
  union of its branches. Repetitions are copies of their body joined by unions.
-/

namespace Recast.Regex

open Recast.Unicode

/-- The most bytes the states of one automaton may take: ten mebibytes. -/
def sizeLimit : Nat := 10 * 1048576

/-! ### Shapes -/

/-- A pattern as the engine's simplified syntax tree has it. -/
inductive Shape where
  | empty
  /-- Matches nothing: an empty set. -/
  | fail
  /-- Characters in a row, as code points; never empty. -/
  | literal (codes : List Nat)
  /-- One character of a set of at least two, as sorted, merged ranges. -/
  | chars (ranges : List (Nat × Nat))
  | look (kind : Look)
  | capture (body : Shape)
  | concat (items : List Shape)
  | alternation (branches : List Shape)
  | repetition (body : Shape) (least : Nat) (most : Option Nat) (greedy : Bool)
  deriving BEq, Inhabited

/-- The bytes of a code point in UTF-8. -/
def utf8Bytes (code : Nat) : List Nat :=
  if code < 0x80 then [code]
  else if code < 0x800 then [0xC0 + code / 64, 0x80 + code % 64]
  else if code < 0x10000 then [0xE0 + code / 4096, 0x80 + code / 64 % 64, 0x80 + code % 64]
  else [0xF0 + code / 262144, 0x80 + code / 4096 % 64, 0x80 + code / 64 % 64, 0x80 + code % 64]

/-- The fewest UTF-8 bytes a character of a set of ranges takes. -/
def narrowestBytes (ranges : List (Nat × Nat)) : Nat :=
  match ranges with
  | [] => 0
  | (low, _) :: _ => (utf8Bytes low).length

mutual

/-- Whether a shape matches only the empty text: its longest match has length zero. -/
def Shape.onlyEmpty : Shape → Bool
  | .empty | .look _ => true
  | .capture body => body.onlyEmpty
  | .concat items => allOnlyEmpty items
  | .alternation branches => allOnlyEmpty branches
  | .repetition body _ most _ => most == some 0 || body.onlyEmpty
  | _ => false

/-- Whether every shape of a list matches only the empty text. -/
def allOnlyEmpty : List Shape → Bool
  | [] => true
  | item :: rest => item.onlyEmpty && allOnlyEmpty rest

end

mutual

/-- The length in bytes of a shape's shortest match, or none when it matches nothing. -/
def Shape.shortest : Shape → Option Nat
  | .empty | .look _ => some 0
  | .fail => none
  | .literal codes => some (codes.foldr (fun code total => (utf8Bytes code).length + total) 0)
  | .chars ranges => some (narrowestBytes ranges)
  | .capture body => body.shortest
  | .concat items => shortestSum items
  | .alternation branches => shortestLeast branches
  | .repetition body least _ _ => body.shortest.map (· * least)

/-- The shortest matches of shapes in a row, added up. -/
def shortestSum : List Shape → Option Nat
  | [] => some 0
  | item :: rest => do
    let first ← item.shortest
    let others ← shortestSum rest
    pure (first + others)

/-- The shortest of the shortest matches of some branches; none when one of them matches
nothing. -/
def shortestLeast : List Shape → Option Nat
  | [] => none
  | [only] => only.shortest
  | branch :: rest => do
    let first ← branch.shortest
    let others ← shortestLeast rest
    pure (min first others)

end

mutual

/-- Whether every match of a shape starts at the start of the text. -/
def Shape.startAnchored : Shape → Bool
  | .look kind => kind == .textStart
  | .capture body => body.startAnchored
  | .concat items => leadAnchored items
  | .alternation branches => !branches.isEmpty && allStartAnchored branches
  | .repetition body least _ _ => 0 < least && body.startAnchored
  | _ => false

/-- Whether shapes in a row start at the start of the text: one of them does, and those before
it match only the empty text. -/
def leadAnchored : List Shape → Bool
  | [] => false
  | item :: rest => item.startAnchored || (item.onlyEmpty && leadAnchored rest)

/-- Whether every shape of a list starts at the start of the text. -/
def allStartAnchored : List Shape → Bool
  | [] => true
  | item :: rest => item.startAnchored && allStartAnchored rest

end

mutual

/-- Whether every match of a shape ends at the end of the text. -/
def Shape.endAnchored : Shape → Bool
  | .look kind => kind == .textEnd
  | .capture body => body.endAnchored
  | .concat items => trailAnchored items
  | .alternation branches => !branches.isEmpty && allEndAnchored branches
  | .repetition body least _ _ => 0 < least && body.endAnchored
  | _ => false

/-- Whether shapes in a row end at the end of the text: one of them does, and those after it
match only the empty text. -/
def trailAnchored : List Shape → Bool
  | [] => false
  | item :: rest => trailAnchored rest || (allOnlyEmpty rest && item.endAnchored)

/-- Whether every shape of a list ends at the end of the text. -/
def allEndAnchored : List Shape → Bool
  | [] => true
  | item :: rest => item.endAnchored && allEndAnchored rest

end

/-- One character of a set: nothing for an empty set, a literal for a set of one. -/
def Shape.ofRanges (ranges : List (Nat × Nat)) : Shape :=
  match ranges with
  | [] => .fail
  | [(low, high)] => if low == high then .literal [low] else .chars ranges
  | _ => .chars ranges

/-- Shapes in a row: nested rows are flattened, adjacent literals joined and empty parts
dropped. -/
def Shape.row (items : List Shape) : Shape :=
  let flat := items.flatMap fun item =>
    match item with
    | .concat inner => inner
    | .empty => []
    | other => [other]
  let joined := flat.foldr (fun item acc =>
    match item, acc with
    | .literal first, .literal second :: rest => .literal (first ++ second) :: rest
    | _, _ => item :: acc) []
  match joined with
  | [] => .empty
  | [only] => only
  | _ => .concat joined

/-- The code point of a literal of exactly one character. -/
def Shape.singleChar? : Shape → Option Nat
  | .literal [code] => some code
  | _ => none

/-- The ranges of a set. -/
def Shape.ranges? : Shape → Option (List (Nat × Nat))
  | .chars ranges => some ranges
  | _ => none

/-- The items of a concatenation. -/
def Shape.items? : Shape → Option (List Shape)
  | .concat items => some items
  | _ => none

/-- The longest run of items that starts every list. -/
def commonStart : List Shape → List (List Shape) → List Shape
  | lead, [] => lead
  | lead, items :: rest =>
    commonStart ((lead.zip items).takeWhile (fun (a, b) => a == b) |>.map Prod.fst) rest

/-- Branches of a choice: nested choices are flattened; single characters, or sets, become one
set; concatenations with a common start keep it once, before a choice of what follows it
(`depth` bounds how often that is done). -/
def Shape.choice : Nat → List Shape → Shape
  | depth, branches =>
    let flat := branches.flatMap fun branch =>
      match branch with
      | .alternation inner => inner
      | other => [other]
    match flat with
    | [] => .fail
    | [only] => only
    | _ =>
      match flat.mapM Shape.singleChar? with
      | some codes => Shape.ofRanges (CodeSet.ofRanges (codes.map fun code => (code, code))).ranges
      | none =>
        match flat.mapM Shape.ranges? with
        | some sets => Shape.ofRanges (CodeSet.ofRanges sets.flatten).ranges
        | none =>
          match depth, flat.mapM Shape.items? with
          | depth + 1, some (first :: rest) =>
            let shared := commonStart first rest
            if shared.isEmpty then .alternation flat
            else
              let tails := (first :: rest).map fun items => Shape.row (items.drop shared.length)
              Shape.row (shared ++ [Shape.choice depth tails])
          | _, _ => .alternation flat

/-- A repetition: a body that matches only the empty text repeats at most once, no repetition
at all is empty, and exactly one is the body. -/
def Shape.repeated (body : Shape) (least : Nat) (most : Option Nat) (greedy : Bool) : Shape :=
  let (least, most) :=
    if body.onlyEmpty then (min least 1, some ((most.map (min · 1)).getD 1)) else (least, most)
  if least == 0 && most == some 0 then .empty
  else if least == 1 && most == some 1 then body
  else .repetition body least most greedy

/-- How deep a choice is simplified at most. -/
def choiceDepth : Nat := 8

/-- The characters a dot stands for: all, or all but the line feed. -/
def dotRanges (newline : Bool) : List (Nat × Nat) :=
  if newline then [(0, maxCode)] else [(0, 9), (11, maxCode)]

/-- The shape of a node that runs as an automaton. -/
def Node.shape : Node → Shape
  | .empty => .empty
  | .any newline => Shape.ofRanges (dotRanges newline)
  | .literal c caseless => Shape.ofRanges (literalCodes c caseless).ranges
  | .set chars => Shape.ofRanges chars.ranges
  | .look kind => .look kind
  | .concat items => Shape.row (items.map Node.shape)
  | .alternation branches => Shape.choice choiceDepth (branches.map Node.shape)
  | .group body => .capture body.shape
  | .repetition body least most greedy => Shape.repeated body.shape least most greedy
  | _ => .empty

/-! ### Counting states -/

/-- The states laid out so far and the bytes they take. -/
structure Tally where
  states : Nat
  bytes : Nat

/-- A step of laying out states, which fails once the bytes pass the limit. -/
abbrev TallyM := ExceptT Unit (StateM Tally)

/-- Adds a state that takes `extra` bytes beyond the 32 of every state, giving its number. -/
def addState (extra : Nat) : TallyM Nat := do
  let tally ← get
  set { states := tally.states + 1, bytes := tally.bytes + 32 + extra : Tally }
  if sizeLimit < tally.bytes + 32 + extra then throw () else pure tally.states

/-- Adds an alternative to a union: 4 bytes. -/
def grow : TallyM Unit := do
  let tally ← get
  set { tally with bytes := tally.bytes + 4 }
  if sizeLimit < tally.bytes + 4 then throw () else pure ()

/-- A laid-out part: its first and last state, and whether the last is a union, which grows
when it is linked onwards. -/
structure Piece where
  start : Nat
  finish : Nat
  finishUnion : Bool

/-- Links the last state of a piece to a state that follows. -/
def Piece.link (piece : Piece) : TallyM Unit :=
  if piece.finishUnion then grow else pure ()

/-- A piece of one state. -/
def Piece.single (state : Nat) : Piece := ⟨state, state, false⟩

/-! ### Hashing -/

/-- The FNV-1a offset basis. -/
def fnvBasis : UInt64 := 14695981039346656037

/-- The FNV-1a prime. -/
def fnvPrime : UInt64 := 1099511628211

/-- One step of FNV-1a over a value. -/
def fnvStep (hash : UInt64) (value : Nat) : UInt64 :=
  (hash ^^^ value.toUInt64) * fnvPrime

/-- The cache slot of a node of byte ranges, each with the state it leads to. -/
def nodeSlot (node : Array (Nat × Nat × Nat)) : Nat :=
  (node.foldl (fun hash (low, high, next) => fnvStep (fnvStep (fnvStep hash low) high) next)
    fnvBasis).toNat % 10000

/-- The cache slot of a link from a state by a byte range. -/
def linkSlot (source low high : Nat) : Nat :=
  (fnvStep (fnvStep (fnvStep fnvBasis source) low) high).toNat % 1000

/-! ### UTF-8 runs -/

/-- Where a range crosses from one UTF-8 length to the next, the last value of the shorter. -/
def widthBreak (low high : Nat) : Option Nat :=
  [0x7F, 0x7FF, 0xFFFF].find? fun most => low ≤ most && most < high

/-- Where a range must be cut so that every byte but the first spans its whole continuation
range: the two parts. -/
def alignBreak (low high : Nat) : Option ((Nat × Nat) × (Nat × Nat)) :=
  [64, 4096, 262144].findSome? fun block =>
    if low / block == high / block then none
    else if low % block != 0 then
      some ((low, low / block * block + block - 1), (low / block * block + block, high))
    else if high % block != block - 1 then
      some ((low, high / block * block - 1), (high / block * block, high))
    else none

/-- The runs of UTF-8 byte ranges that encode the scalar values of the ranges on a stack, in
increasing order; surrogates are left out. -/
def utf8Runs : Nat → List (Nat × Nat) → List (List (Nat × Nat))
  | 0, _ => []
  | _, [] => []
  | fuel + 1, (low, high) :: stack =>
    if low < 0xE000 && 0xD7FF < high then
      utf8Runs fuel ((low, 0xD7FF) :: (0xE000, high) :: stack)
    else if high < low then utf8Runs fuel stack
    else
      match widthBreak low high with
      | some most => utf8Runs fuel ((low, most) :: (most + 1, high) :: stack)
      | none =>
        if high ≤ 0x7F then [(low, high)] :: utf8Runs fuel stack
        else
          match alignBreak low high with
          | some (first, second) => utf8Runs fuel (first :: second :: stack)
          | none => ((utf8Bytes low).zip (utf8Bytes high)) :: utf8Runs fuel stack

/-- The UTF-8 runs of a set, range by range. -/
def setRuns (ranges : List (Nat × Nat)) : List (List (Nat × Nat)) :=
  ranges.flatMap fun range => utf8Runs 128 [range]

/-! ### Sets read forwards -/

/-- A node of the forward trie still open: its finished byte ranges with their targets, and the
range whose target is not known yet. -/
structure OpenNode where
  done : Array (Nat × Nat × Nat)
  pending : Option (Nat × Nat)

/-- Closes a node's pending range onto a target. -/
def OpenNode.close (node : OpenNode) (next : Nat) : OpenNode :=
  match node.pending with
  | some (low, high) => { done := node.done.push (low, high, next), pending := none }
  | none => node

/-- The forward trie being laid out: the state every run ends in, the open nodes from the
root, and the cache of laid-out nodes by slot. -/
structure Trie where
  target : Nat
  stack : Array OpenNode
  cache : Std.HashMap Nat (Array (Nat × Nat × Nat) × Nat)

/-- Lays out a finished node, or finds an equal one in the cache. -/
def Trie.seal (trie : Trie) (node : Array (Nat × Nat × Nat)) : TallyM (Trie × Nat) := do
  let slot := nodeSlot node
  match trie.cache.get? slot with
  | some (key, state) => if key == node then return (trie, state) else pure ()
  | none => pure ()
  let state ← addState (8 * node.size)
  pure ({ trie with cache := trie.cache.insert slot (node, state) }, state)

/-- Closes the open nodes deeper than `depth`, the deepest first, each onto the state of the one
below it. -/
def Trie.closeFrom (depth : Nat) : Nat → Trie → Nat → TallyM Trie
  | 0, trie, next => pure { trie with stack := trie.stack.modify (trie.stack.size - 1) (·.close next) }
  | fuel + 1, trie, next =>
    if depth + 1 < trie.stack.size then do
      let node := (trie.stack.back?.getD ⟨#[], none⟩).close next
      let (trie, state) ← { trie with stack := trie.stack.pop }.seal node.done
      Trie.closeFrom depth fuel trie state
    else pure { trie with stack := trie.stack.modify (trie.stack.size - 1) (·.close next) }

/-- Adds a run to the trie: the open nodes it shares are kept, the others closed. -/
def Trie.add (trie : Trie) (run : List (Nat × Nat)) : TallyM Trie := do
  let shared := ((run.zip trie.stack.toList).takeWhile fun (range, node) =>
    node.pending == some range).length
  let trie ← Trie.closeFrom shared trie.stack.size trie trie.target
  match run.drop shared with
  | [] => pure trie
  | first :: rest =>
    let stack := trie.stack.modify (trie.stack.size - 1) fun node => { node with pending := some first }
    pure { trie with stack := rest.foldl (fun acc range => acc.push ⟨#[], some range⟩) stack }

/-- Lays out a set of characters beyond ASCII for reading forwards. -/
def forwardSet (ranges : List (Nat × Nat)) : TallyM Piece := do
  let target ← addState 0
  let trie : Trie := ⟨target, #[⟨#[], none⟩], {}⟩
  let trie ← (setRuns ranges).foldlM Trie.add trie
  let trie ← Trie.closeFrom 0 trie.stack.size trie trie.target
  let root := (trie.stack.back?.getD ⟨#[], none⟩).done
  let (_, start) ← trie.seal root
  pure ⟨start, target, false⟩

/-! ### Sets read backwards -/

/-- Lays out a set of characters beyond ASCII for reading backwards: a union of chains, each
from the last byte of a run to its first, equal links shared through the cache. -/
def backwardSet (ranges : List (Nat × Nat)) : TallyM Piece := do
  let union ← addState 0
  let finish ← addState 0
  let step (cache : Std.HashMap Nat ((Nat × Nat × Nat) × Nat)) (run : List (Nat × Nat)) :
      TallyM (Std.HashMap Nat ((Nat × Nat × Nat) × Nat)) := do
    let (cache, _) ← run.foldlM (fun (cache, source) (low, high) => do
      let slot := linkSlot source low high
      match cache.get? slot with
      | some (key, state) => if key == (source, low, high) then return (cache, state) else pure ()
      | none => pure ()
      let state ← addState 0
      pure (cache.insert slot ((source, low, high), state), state)) (cache, finish)
    grow
    pure cache
  let _ ← (setRuns ranges).foldlM step {}
  pure ⟨union, finish, false⟩

/-! ### Alternations of literals -/

/-- A state of a trie of literals: its transitions by byte, and the ends of the runs of
transitions recorded before each match it holds. -/
structure WordState where
  moves : Array (Nat × Nat)
  chunks : Array (Nat × Nat)
  deriving Inhabited

/-- Where the transitions after the last recorded match start. -/
def WordState.activeStart (state : WordState) : Nat :=
  (state.chunks.back?.map Prod.snd).getD 0

/-- Records a match at a state, unless it is already one with no transitions. -/
def WordState.addMatch (state : WordState) : WordState :=
  if state.moves.isEmpty && !state.chunks.isEmpty then state
  else { state with chunks := state.chunks.push (state.activeStart, state.moves.size) }

/-- Adds a literal's bytes to a trie of literals, from the state `at`. -/
def addWord (states : Array WordState) (node : Nat) : List Nat → Array WordState
  | [] => states.modify node WordState.addMatch
  | byte :: rest =>
    let state := states[node]!
    let start := state.activeStart
    let active := (state.moves.toList.drop start).zipIdx
    match active.find? (fun ((b, _), _) => b == byte) with
    | some ((_, next), _) => addWord states next rest
    | none =>
      let place := start + ((active.find? fun ((b, _), _) => byte < b).map Prod.snd).getD
        (state.moves.size - start)
      let next := states.size
      let states := states.modify node fun state =>
        { state with moves := state.moves.insertIdxIfInBounds place (byte, next) }
      addWord (states.push default) next rest

/-- Lays out the state `at` of a trie of literals and those below it, giving its first state;
`final` is where every literal ends. -/
def layWord (states : Array WordState) (final : Nat) : Nat → Nat → TallyM Nat
  | 0, _ => pure final
  | fuel + 1, node => do
    let state := states[node]!
    let chunks := (state.chunks.toList.map fun (low, high) => (state.moves.extract low high).toList) ++
      [(state.moves.extract state.activeStart state.moves.size).toList]
    let (union, _) ← chunks.foldlM (fun (union, later) chunk => do
      let union := if later then union.push final else union
      let count ← chunk.foldlM (fun count (_, next) => do
        if states[next]!.moves.isEmpty then pure (count + 1)
        else do
          let _ ← layWord states final fuel next
          pure (count + 1)) 0
      if count == 0 then pure (union, true)
      else do
        let piece ← addState (if count == 1 then 0 else 8 * count)
        pure (union.push piece, true)) ((#[] : Array Nat), false)
    if union.size == 1 then pure union[0]! else addState (4 * union.size)

/-- Lays out an alternation of literals as a trie of their bytes, read from the end when
`reverse`. -/
def wordChoice (reverse : Bool) (words : List (List Nat)) : TallyM Piece := do
  let final ← addState 0
  let states := words.foldl (fun states codes =>
    let bytes := codes.flatMap utf8Bytes
    addWord states 0 (if reverse then bytes.reverse else bytes)) #[default]
  let start ← layWord states final (states.size + 1) 0
  pure ⟨start, final, false⟩

/-! ### Laying out shapes -/

/-- Lays out `count` copies of a part one after another; none is one empty state. -/
def copies (part : TallyM Piece) : Nat → TallyM Piece
  | 0 => do pure (Piece.single (← addState 0))
  | count + 1 => do
    let first ← part
    let rec more : Nat → Piece → TallyM Piece
      | 0, piece => pure piece
      | left + 1, piece => do
        let next ← part
        piece.link
        more left ⟨piece.start, next.finish, next.finishUnion⟩
    more count first

/-- Lays out a repetition of a part whose shortest match is `shortest`. -/
def repetition (part : TallyM Piece) (shortest : Option Nat) (least : Nat) (most : Option Nat) :
    TallyM Piece :=
  match least, most with
  | 0, some 1 => do
    let union ← addState 0
    let body ← part
    let empty ← addState 0
    grow
    grow
    body.link
    pure ⟨union, empty, false⟩
  | 0, none =>
    if shortest.any (fun least => decide (0 < least)) then do
      let union ← addState 0
      let body ← part
      grow
      body.link
      pure ⟨union, union, true⟩
    else do
      let body ← part
      let _ ← addState 0
      body.link
      grow
      let question ← addState 0
      let empty ← addState 0
      grow
      grow
      grow
      pure ⟨question, empty, false⟩
  | 1, none => do
    let body ← part
    let union ← addState 0
    body.link
    grow
    pure ⟨body.start, union, true⟩
  | least + 2, none => do
    let head ← copies part (least + 1)
    let last ← part
    let union ← addState 0
    head.link
    last.link
    grow
    pure ⟨head.start, union, true⟩
  | least, some most =>
    if most ≤ least then copies part least
    else do
      let head ← copies part least
      let empty ← addState 0
      let rec optional : Nat → Piece → TallyM Piece
        | 0, previous => pure previous
        | left + 1, previous => do
          let _ ← addState 0
          let body ← part
          previous.link
          grow
          grow
          optional left body
      let last ← optional (most - least) head
      last.link
      pure ⟨head.start, empty, false⟩

mutual

/-- Lays out a shape, reading backwards when `reverse`. -/
def Shape.lay (reverse : Bool) : Shape → TallyM Piece
  | .empty | .fail | .look _ => do pure (Piece.single (← addState 0))
  | .literal codes =>
    let bytes := codes.flatMap utf8Bytes
    copies (do pure (Piece.single (← addState 0))) bytes.length
  | .chars ranges =>
    if ranges.all (fun (_, high) => high ≤ 0x7F) then do
      let finish ← addState 0
      let start ← addState (8 * ranges.length)
      pure ⟨start, finish, false⟩
    else if reverse then backwardSet ranges
    else forwardSet ranges
  | .capture body =>
    if reverse then body.lay reverse
    else do
      let start ← addState 0
      let inner ← body.lay reverse
      let finish ← addState 0
      inner.link
      pure ⟨start, finish, false⟩
  | .concat items => if reverse then layRowBack items else layRow reverse items
  | .alternation branches =>
    match branches.mapM fun branch => match branch with
      | .literal codes => some codes
      | _ => none with
    | some words => if 2 ≤ words.length then wordChoice reverse words else layChoice reverse branches
    | none => layChoice reverse branches
  | .repetition body least most _ =>
    repetition (body.lay reverse) body.shortest least most

/-- Lays out shapes in a row. -/
def layRow (reverse : Bool) : List Shape → TallyM Piece
  | [] => do pure (Piece.single (← addState 0))
  | first :: rest => do
    let head ← first.lay reverse
    layRowAfter reverse head rest

/-- Lays out shapes in a row after a piece already laid out. -/
def layRowAfter (reverse : Bool) (head : Piece) : List Shape → TallyM Piece
  | [] => pure head
  | item :: rest => do
    let next ← item.lay reverse
    head.link
    layRowAfter reverse ⟨head.start, next.finish, next.finishUnion⟩ rest

/-- Lays out shapes in a row for reading backwards: the last first. -/
def layRowBack : List Shape → TallyM Piece
  | [] => do pure (Piece.single (← addState 0))
  | [only] => only.lay true
  | item :: rest => do
    let tail ← layRowBack rest
    let next ← item.lay true
    tail.link
    pure ⟨tail.start, next.finish, next.finishUnion⟩

/-- Lays out a choice of branches as a union of them. -/
def layChoice (reverse : Bool) : List Shape → TallyM Piece
  | [] => do pure (Piece.single (← addState 0))
  | [only] => only.lay reverse
  | first :: second :: rest => do
    let one ← first.lay reverse
    let two ← second.lay reverse
    let union ← addState 0
    let finish ← addState 0
    grow
    one.link
    grow
    two.link
    layChoiceRest reverse rest
    pure ⟨union, finish, false⟩

/-- Lays out the branches of a choice after its second. -/
def layChoiceRest (reverse : Bool) : List Shape → TallyM Unit
  | [] => pure ()
  | branch :: rest => do
    let piece ← branch.lay reverse
    grow
    piece.link
    layChoiceRest reverse rest

end

/-- Lays out one automaton for a shape: the loop over any byte unless `anchored`, the shape
(in capture group 0 when reading forwards) and the match state. -/
def layAutomaton (reverse anchored : Bool) (shape : Shape) : TallyM Unit := do
  let loop ← if anchored then do pure (Piece.single (← addState 0))
    else do
      let union ← addState 0
      let _ ← addState 0
      let _ ← addState 8
      grow
      pure ⟨union, union, true⟩
  let body ← if reverse then shape.lay true
    else do
      let start ← addState 0
      let inner ← shape.lay false
      let finish ← addState 0
      inner.link
      pure ⟨start, finish, false⟩
  let _ ← addState 0
  body.link
  loop.link

/-- Whether laying out an automaton stays within the limit. -/
def fits (reverse anchored : Bool) (shape : Shape) : Bool :=
  match ((layAutomaton reverse anchored shape).run).run ⟨0, 0⟩ with
  | (.ok (), _) => true
  | (.error (), _) => false

/-- Whether a node that runs as one automaton fits the size limit in both directions;
`anchored` when the automaton is only ever run from the start of the text. -/
def fitsSizeLimit (node : Node) (anchored : Bool) : Bool :=
  let shape := node.shape
  let shape := if anchored then Shape.row [.look .textStart, shape] else shape
  fits false shape.startAnchored shape && fits true shape.endAnchored shape

end Recast.Regex
