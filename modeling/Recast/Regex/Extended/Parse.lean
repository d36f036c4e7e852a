import Recast.Regex.Extended.Tree
import Recast.Regex.Standard.Parse
import Recast.Regex.Standard.Classes
/-!
Reading a pattern in the extended syntax.

The reading is by descent: a pattern is alternatives of branches, a branch is pieces, a piece is
an atom with at most one quantifier (`?`, `*`, `+` or a counted `{n}`, `{n,}`, `{,m}`, `{n,m}`),
then an optional `?` for a lazy one and `+` for a possessive one. Its rules differ from the
standard syntax in places, and those differences are kept:

* a `{` that does not start a well-formed count is a literal, so `a{1}{2}` is `a` once followed
  by the text `{2}`; there are no blanks inside a count unless `(?x)` is on;
* a quantifier cannot follow another one or apply to nothing, a look-around or an anchor;
* `\a`, `\b{`, and a backslash before any other letter or digit it does not know are faults;
  `\e` is the escape character and `\h` a hexadecimal digit; `\K`, `\G`, `\k<name>` and numbered
  back-references are known;
* flags set by `(?i)` and the like hold until the end of the pattern, not of the group; only
  `(?flags:...)` limits them;
* groups nest at most 63 deep; group names are letters, digits and `_`; a pattern cannot have
  both numbered back-references and named groups unless its top level is an alternation.

A class, `\d`, `\s`, `\w` and `\p{..}` are read in the standard syntax and resolved to their sets
at once (with Unicode meanings), so a class the standard syntax refuses is a fault here too.
-/

namespace Recast.Regex.Extended

open Recast.Unicode

/-- The flags in force. -/
structure Flags where
  caseless : Bool
  multiline : Bool
  dotNewline : Bool
  swapGreed : Bool
  ignoreSpace : Bool
  deriving Inhabited

/-- The state of a reading: the pattern, the position, the flags, the number of capture groups
opened, the named groups with their numbers, the groups back-references name, and whether a
numbered back-reference was seen. -/
structure State where
  text : Array Char
  pos : Nat
  flags : Flags
  groups : Nat
  names : List (String × Nat)
  backrefs : List Nat
  numbered : Bool

/-- A step of a reading; a fault is described in words. -/
abbrev ParseM := StateT State (Except String)

/-- Ends the reading with a fault. -/
def fault {α : Type} (what : String) : ParseM α := throw what

/-- The character `offset` places after the current one. -/
def peek (offset : Nat) : ParseM (Option Char) := do
  let state ← get
  pure state.text[state.pos + offset]?

/-- Whether the pattern is used up. -/
def atEnd : ParseM Bool := do
  let state ← get
  pure (state.text.size ≤ state.pos)

/-- Moves forward. -/
def advance (count : Nat) : ParseM Unit :=
  modify fun state => { state with pos := state.pos + count }

/-- Whether the characters from the current position on start with a word. -/
def startsWith (word : String) : ParseM Bool := do
  let state ← get
  pure (Standard.matchesAt state.text state.pos word.toList)

/-- Where blanks and comments end, from a position, when `(?x)` is on. -/
def skipSpaceFrom (text : Array Char) (on : Bool) : Nat → Nat → Nat
  | 0, pos => pos
  | fuel + 1, pos =>
    if !on then pos
    else
      match text[pos]? with
      | some '#' =>
        let rec toLineEnd : Nat → Nat → Nat
          | 0, pos => pos
          | fuel + 1, pos =>
            match text[pos]? with
            | none => pos
            | some '\n' => pos + 1
            | some _ => toLineEnd fuel (pos + 1)
        skipSpaceFrom text on fuel (toLineEnd text.size pos)
      | some ' ' | some '\r' | some '\n' | some '\t' => skipSpaceFrom text on fuel (pos + 1)
      | _ => pos

/-- Moves past blanks and comments when `(?x)` is on. -/
def optionalSpace : ParseM Unit :=
  modify fun state =>
    { state with pos := skipSpaceFrom state.text state.flags.ignoreSpace (state.text.size + 1) state.pos }

/-! ### Counts and numbers -/

/-- The digits from a position on, with the position after them. -/
def digitsFrom (text : Array Char) : Nat → Nat → List Char → Nat × List Char
  | 0, pos, digits => (pos, digits)
  | fuel + 1, pos, digits =>
    match text[pos]? with
    | some c => if '0' ≤ c && c ≤ '9' then digitsFrom text fuel (pos + 1) (digits ++ [c])
      else (pos, digits)
    | none => (pos, digits)

/-- A decimal number at a position, with the position after it; none when no digit is there or
the number does not fit 64 bits. -/
def decimalAt (text : Array Char) (pos : Nat) : Option (Nat × Nat) :=
  let (stop, digits) := digitsFrom text text.size pos []
  if digits.isEmpty then none
  else
    let value := digits.foldl (fun value c => value * 10 + (c.toNat - '0'.toNat)) 0
    if value < Nat.pow 2 64 then some (stop, value) else none

/-- A count at a `{`: the position after its `}`, the least and the most (none for no limit),
or none when the text is not a count. -/
def countAt (text : Array Char) (space : Bool) (pos : Nat) : Option (Nat × Nat × Option Nat) := do
  let skip := skipSpaceFrom text space (text.size + 1)
  let pos := skip (pos + 1)
  let first ← text[pos]?
  let (afterLeast, least) ← if first == ',' then some (pos, 0) else decimalAt text pos
  let pos := skip afterLeast
  let next ← text[pos]?
  let (afterMost, most) ←
    if next == '}' then some (pos, some least)
    else if next == ',' then
      let pos := skip (pos + 1)
      match decimalAt text pos with
      | some (stop, most) => some (stop, some most)
      | none => some (pos, none)
    else none
  let pos := skip afterMost
  if text[pos]? == some '}' then some (pos + 1, least, most) else none

/-! ### Names and back-references -/

/-- Whether a character may stand in a group name. -/
def isIdChar (c : Char) : Bool := c == '_' || isAlphanumeric c

/-- The characters of a name from a position on, with the position after them. -/
def idFrom (text : Array Char) : Nat → Nat → List Char → Nat × List Char
  | 0, pos, name => (pos, name)
  | fuel + 1, pos, name =>
    match text[pos]? with
    | some c => if isIdChar c then idFrom text fuel (pos + 1) (name ++ [c]) else (pos, name)
    | none => (pos, name)

/-- A name between `opening` and `closing` at a position, with the position after `closing`;
with `relative`, the name may start with a sign. -/
def idAt (text : Array Char) (pos : Nat) (opening closing : String) (relative : Bool) :
    Option (String × Nat) :=
  if !Standard.matchesAt text pos opening.toList then none
  else
    let start := pos + opening.length
    let signed := relative && (text[start]? == some '-' || text[start]? == some '+')
    let (stop, body) := idFrom text text.size (if signed then start + 1 else start) []
    if body.isEmpty then none
    else if !Standard.matchesAt text stop closing.toList then none
    else
      let sign := if signed then (text[start]?).toList else []
      some (String.ofList (sign ++ body), stop + closing.length)

/-- Notes a back-reference to a group. -/
def noteBackref (group : Nat) : ParseM Unit :=
  modify fun state => { state with backrefs := group :: state.backrefs }

/-- A back-reference by name, or by a number, possibly relative to the groups opened so far. -/
def namedBackref (pos : Nat) (opening closing : String) (relative : Bool) : ParseM Node := do
  let state ← get
  match idAt state.text pos opening closing relative with
  | none => fault "invalid back-reference"
  | some (name, stop) =>
    let group : Option Nat :=
      match state.names.lookup name with
      | some group => some group
      | none =>
        match name.toList with
        | '-' :: digits =>
          (String.ofList digits).toNat?.bind fun back =>
            if back ≤ state.groups + 1 && 0 < back then some (state.groups + 1 - back) else none
        | '+' :: digits => (String.ofList digits).toNat?
        | _ => name.toNat?
    match group with
    | some group =>
      noteBackref group
      set { (← get) with pos := stop }
      pure (.backref group state.flags.caseless)
    | none => fault "back-reference to an unknown group"

/-! ### Escapes and classes -/

/-- What an escape stands for: a node, or the text of a class it stands for inside brackets. -/
inductive Escaped where
  | node (node : Node)
  | classText (text : List Char)
  | char (c : Char)

/-- The set a delegated text stands for, read in the standard syntax. -/
def delegateSet (caseless : Bool) (text : List Char) : ParseM CodeSet :=
  match Standard.parse (String.ofList text) with
  | .ok (.bracket negated body) =>
    match Standard.bracketSet caseless negated body with
    | .ok set => pure set
    | .error _ => fault "unknown Unicode class"
  | .ok (.property cls) =>
    match cls.set caseless with
    | .ok set => pure set
    | .error _ => fault "unknown Unicode class"
  | .ok (.perl cls) => pure (Standard.foldIf caseless cls.set)
  | _ => fault "invalid class"

/-- Reads a hexadecimal escape after its letter: `count` digits, or one to eight in braces. -/
def hexEscape (count : Nat) : ParseM Char := do
  let state ← get
  let text := state.text
  let pos := state.pos
  let fixed := (List.range count).map fun i => text[pos + i]?
  let (stop, digits) ←
    if fixed.all fun c => (c.bind hexDigitValue?).isSome then
      pure (pos + count, fixed.filterMap id)
    else if text[pos]? == some '{' then
      let (stop, digits) := idFrom text text.size (pos + 1) []
      if digits.isEmpty || digits.length > 8 || !digits.all (fun c => (hexDigitValue? c).isSome) then
        fault "invalid hexadecimal escape"
      if text[stop]? != some '}' then fault "invalid hexadecimal escape"
      pure (stop + 1, digits)
    else fault "invalid hexadecimal escape"
  let value := Standard.hexOf digits
  if !Standard.isScalar value then fault "invalid code point"
  set { state with pos := stop }
  pure (Char.ofNat value)

/-- The text of a Unicode class escape from its backslash, `\pL` or `\p{...}`. -/
def propertyText : ParseM (List Char) := do
  let state ← get
  let text := state.text
  let start := state.pos
  match text[start + 2]? with
  | none => fault "invalid escape"
  | some '{' =>
    let rec close : Nat → Nat → Option Nat
      | 0, _ => none
      | fuel + 1, pos =>
        match text[pos]? with
        | none => none
        | some '}' => some (pos + 1)
        | some _ => close fuel (pos + 1)
    match close text.size (start + 3) with
    | none => fault "unclosed Unicode class name"
    | some stop =>
      set { state with pos := stop }
      pure (text.extract start stop).toList
  | some _ =>
    set { state with pos := start + 3 }
    pure (text.extract start (start + 3)).toList

/-- Reads an escape at its backslash, inside a class or not. -/
def escape (inClass : Bool) : ParseM Escaped := do
  let state ← get
  let caseless := state.flags.caseless
  let some b := state.text[state.pos + 1]? | fault "trailing backslash"
  if '0' ≤ b && b ≤ '9' then
    let some (stop, group) := decimalAt state.text (state.pos + 1) | fault "invalid back-reference"
    modify fun state => { state with pos := stop, numbered := true }
    noteBackref group
    return .node (.backref group caseless)
  if b == 'k' && !inClass then
    if state.text[state.pos + 2]? == some '\'' then
      return .node (← namedBackref (state.pos + 2) "'" "'" true)
    return .node (← namedBackref (state.pos + 2) "<" ">" true)
  let simple (node : Node) : ParseM Escaped := do
    advance 2
    pure (.node node)
  if !inClass then
    match b with
    | 'A' => return ← simple (.look .textStart)
    | 'z' => return ← simple (.look .textEnd)
    | 'b' =>
      if state.text[state.pos + 2]? == some '{' then fault "invalid escape"
      return ← simple (.look .wordBoundary)
    | 'B' =>
      if state.text[state.pos + 2]? == some '{' then fault "invalid escape"
      return ← simple (.look .notWordBoundary)
    | '<' => return ← simple (.look .wordStart)
    | '>' => return ← simple (.look .wordEnd)
    | _ => pure ()
  if ['d', 's', 'w', 'D', 'S', 'W'].contains b then
    advance 2
    return .classText ['\\', b]
  if b == 'h' then
    advance 2
    return .classText "[0-9A-Fa-f]".toList
  if b == 'H' then
    advance 2
    return .classText "[^0-9A-Fa-f]".toList
  if b == 'x' || b == 'u' || b == 'U' then
    advance 2
    return .char (← hexEscape (if b == 'x' then 2 else if b == 'u' then 4 else 8))
  if (b == 'p' || b == 'P') && state.text[state.pos + 2]?.isSome then
    return .classText (← propertyText)
  if !inClass then
    if b == 'K' then return ← simple .keepOut
    if b == 'G' then return ← simple .searchStart
  advance 2
  if ' ' ≤ b && b ≤ '~' && !b.isAlphanum then return .char b
  match b with
  | 'e' => pure (.char '\x1B')
  | 'f' => pure (.char '\x0C')
  | 'n' => pure (.char '\n')
  | 'r' => pure (.char '\r')
  | 't' => pure (.char '\t')
  | 'v' => pure (.char '\x0B')
  | _ => fault "invalid escape"

/-- Writes a character into the text of a class so that it stands for itself. -/
def quoted (c : Char) : List Char :=
  if Standard.isMetaChar c then ['\\', c] else [c]

/-- Collects the text of a class up to the `]` that closes it, counting nested brackets. -/
def classBody : Nat → Nat → List Char → ParseM (List Char)
  | 0, _, _ => fault "invalid class"
  | fuel + 1, depth, body => do
    let some c ← peek 0 | fault "invalid class"
    if c == '\\' then
      match ← escape true with
      | .char c => classBody fuel depth (body ++ quoted c)
      | .classText text => classBody fuel depth (body ++ text)
      | .node _ => fault "invalid class"
    else if c == '[' then
      advance 1
      classBody fuel (depth + 1) (body ++ ['['])
    else if c == ']' then
      advance 1
      if depth == 1 then pure (body ++ [']'])
      else classBody fuel (depth - 1) (body ++ [']'])
    else
      advance 1
      classBody fuel depth (body ++ [c])

/-- Reads a class at its `[` and resolves it to its set. -/
def bracketClass : ParseM Node := do
  advance 1
  let mut opening := ['[']
  if (← peek 0) == some '^' then
    opening := opening ++ ['^']
    advance 1
  if (← peek 0) == some ']' then
    opening := opening ++ [']']
    advance 1
  let text ← classBody ((← get).text.size + 1) 1 opening
  pure (.set (← delegateSet (← get).flags.caseless text))

/-! ### Groups, pieces and patterns -/

/-- The deepest nesting of groups, plus one. -/
def nestingLimit : Nat := 64

/-- Whether a quantifier may apply to a node. -/
def repeatable : Node → Bool
  | .empty | .lookaround _ _ _ | .look _ => false
  | _ => true

/-- The flag a letter of `(?...)` sets, given whether it is negated. -/
def setFlag (flags : Flags) (letter : Char) (on : Bool) : Option Flags :=
  match letter with
  | 'i' => some { flags with caseless := on }
  | 'm' => some { flags with multiline := on }
  | 's' => some { flags with dotNewline := on }
  | 'U' => some { flags with swapGreed := on }
  | 'x' => some { flags with ignoreSpace := on }
  | _ => none

mutual

/-- Reads alternatives up to a `)` or the end. -/
def alternatives (depth : Nat) : Nat → ParseM Node
  | 0 => fault "pattern too deep"
  | fuel + 1 => do
    let first ← branch depth fuel
    optionalSpace
    if (← peek 0) == some '|' then
      let branches ← moreBranches depth fuel [first]
      return .alternation branches
    let state ← get
    if state.numbered && !state.names.isEmpty then
      fault "numbered back-references with named groups"
    pure first

/-- Reads the alternatives after the first, each after its `|`. -/
def moreBranches (depth : Nat) : Nat → List Node → ParseM (List Node)
  | 0, _ => fault "pattern too deep"
  | fuel + 1, branches => do
    if (← peek 0) != some '|' then return branches
    advance 1
    let next ← branch depth fuel
    optionalSpace
    moreBranches depth fuel (branches ++ [next])

/-- Reads one branch: pieces up to a `|`, a `)` or the end. -/
def branch (depth : Nat) : Nat → ParseM Node
  | 0 => fault "pattern too deep"
  | fuel + 1 => do
    let items ← pieces depth fuel []
    pure (match items with
      | [] => .empty
      | [only] => only
      | _ => .concat items)

/-- Reads pieces while they move the position. -/
def pieces (depth : Nat) : Nat → List Node → ParseM (List Node)
  | 0, _ => fault "pattern too deep"
  | fuel + 1, items => do
    if ← atEnd then return items
    let start := (← get).pos
    let item ← piece depth fuel
    if (← get).pos == start then return items
    match item with
    | .empty => pieces depth fuel items
    | _ => pieces depth fuel (items ++ [item])

/-- Reads an atom with its quantifier, if one follows. -/
def piece (depth : Nat) : Nat → ParseM Node
  | 0 => fault "pattern too deep"
  | fuel + 1 => do
    let child ← atom depth fuel
    optionalSpace
    let state ← get
    let some c := state.text[state.pos]? | return child
    let (least, most) ←
      if c == '?' then pure (0, some 1)
      else if c == '*' then pure (0, none)
      else if c == '+' then pure (1, none)
      else if c == '{' then
        match countAt state.text state.flags.ignoreSpace state.pos with
        | some (stop, least, most) =>
          set { state with pos := stop - 1 }
          pure (least, most)
        | none => return child
      else return child
    if !repeatable child then fault "target not repeatable"
    advance 1
    optionalSpace
    let mut greedy := true
    if (← peek 0) == some '?' then
      greedy := false
      advance 1
    let node := Node.repetition child least most (greedy != (← get).flags.swapGreed)
    if (← peek 0) == some '+' then
      advance 1
      return .atomic node
    pure node

/-- Reads an atom. -/
def atom (depth : Nat) : Nat → ParseM Node
  | 0 => fault "pattern too deep"
  | fuel + 1 => do
    optionalSpace
    let state ← get
    let some c := state.text[state.pos]? | return .empty
    let flags := state.flags
    match c with
    | '.' =>
      advance 1
      pure (.any flags.dotNewline)
    | '^' =>
      advance 1
      pure (.look (if flags.multiline then .lineStart else .textStart))
    | '$' =>
      advance 1
      pure (.look (if flags.multiline then .lineEnd else .textEnd))
    | '(' => paren depth fuel
    | '[' => bracketClass
    | '\\' =>
      match ← escape false with
      | .node node => pure node
      | .char c => pure (.literal c flags.caseless)
      | .classText text => pure (.set (← delegateSet flags.caseless text))
    | '+' | '*' | '?' | '|' | ')' => pure .empty
    | _ =>
      advance 1
      pure (.literal c flags.caseless)

/-- Reads flags after `(?`: alone they change the flags in force; before `:` they hold for the
group they open. -/
def flagGroup (depth : Nat) : Nat → Nat → Bool → Flags → ParseM Node
  | 0, _, _, _ => fault "pattern too deep"
  | fuel + 1, start, negated, outer => do
    optionalSpace
    let state ← get
    let some c := state.text[state.pos]? | fault "unclosed group"
    if c == '-' then
      if negated then fault "unknown flag"
      advance 1
      flagGroup depth fuel start true outer
    else if c == ')' then
      if state.pos == start || (negated && state.pos == start + 1) then fault "unknown flag"
      advance 1
      pure .empty
    else if c == ':' then
      if negated && state.pos == start + 1 then fault "unknown flag"
      advance 1
      let body ← alternatives depth fuel
      if (← peek 0) != some ')' then fault "unclosed group"
      advance 1
      modify fun state => { state with flags := outer }
      pure body
    else if c == 'u' then
      if negated then fault "non-Unicode matching is not supported"
      advance 1
      flagGroup depth fuel start negated outer
    else
      match setFlag state.flags c !negated with
      | some flags =>
        set { state with flags, pos := state.pos + 1 }
        flagGroup depth fuel start negated outer
      | none => fault "unknown flag"

/-- Reads a group at its `(`. -/
def paren (depth : Nat) : Nat → ParseM Node
  | 0 => fault "pattern too deep"
  | fuel + 1 => do
    let depth := depth + 1
    if nestingLimit ≤ depth then fault "groups nest too deep"
    advance 1
    let lookaround (behind negated : Bool) (skip : Nat) : ParseM Node := do
      advance skip
      let body ← alternatives depth fuel
      optionalSpace
      if (← peek 0) != some ')' then fault "unclosed group"
      advance 1
      pure (.lookaround body behind negated)
    if ← startsWith "?=" then return ← lookaround false false 2
    if ← startsWith "?!" then return ← lookaround false true 2
    if ← startsWith "?<=" then return ← lookaround true false 3
    if ← startsWith "?<!" then return ← lookaround true true 3
    let named (skip : Nat) : ParseM Node := do
      let state ← get
      let group := state.groups + 1
      match idAt state.text (state.pos + skip) "<" ">" false with
      | none => fault "invalid group name"
      | some (name, stop) =>
        set { state with groups := group, names := (name, group) :: state.names, pos := stop }
        let body ← alternatives depth fuel
        optionalSpace
        if (← peek 0) != some ')' then fault "unclosed group"
        advance 1
        pure (.group body)
    if ← startsWith "?<" then return ← named 1
    if ← startsWith "?P<" then return ← named 2
    if ← startsWith "?P=" then
      let node ← namedBackref ((← get).pos + 3) "" ")" false
      return node
    if ← startsWith "?>" then
      advance 2
      let body ← alternatives depth fuel
      optionalSpace
      if (← peek 0) != some ')' then fault "unclosed group"
      advance 1
      return .atomic body
    if ← startsWith "?(" then fault "conditionals are not supported"
    if ← startsWith "?" then
      let state ← get
      advance 1
      return ← flagGroup depth fuel (state.pos + 1) false state.flags
    modify fun state => { state with groups := state.groups + 1 }
    let body ← alternatives depth fuel
    optionalSpace
    if (← peek 0) != some ')' then fault "unclosed group"
    advance 1
    pure (.group body)

end

/-- A pattern read in the extended syntax: its tree, its number of capture groups, and the
groups its back-references name. -/
structure Parsed where
  root : Node
  groups : Nat
  backrefs : List Nat

/-- Reads a pattern in the extended syntax. -/
def parse (pattern : String) : Except String Parsed :=
  let text := pattern.toList.toArray
  let start : State := ⟨text, 0, ⟨false, false, false, false, false⟩, 0, [], [], false⟩
  match (alternatives 0 (2 * text.size + 8)).run start with
  | .error what => .error what
  | .ok (root, state) =>
    if state.pos < text.size then .error "unbalanced parenthesis"
    else .ok ⟨root, state.groups, state.backrefs⟩

end Recast.Regex.Extended
