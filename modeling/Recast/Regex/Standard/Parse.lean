import Recast.Regex.Standard.Tree
import Recast.Unicode.Tables
/-!
Reading a pattern in the standard syntax.

The reader goes through the pattern once, left to right, keeping the open groups and, inside a
bracketed class, the open classes and set operations on stacks; the first thing that does not
fit is the fault. A look-around or a back-reference (`\0` to `\9`) is a fault of its own kind,
`unsupported`, because the extended syntax has them: a caller can then read the pattern in that
syntax instead. Anything else that does not fit is `invalid`, among them an unclosed or unopened
group, an unclosed class, a repetition with nothing to repeat, a reversed range, an unknown
escape or flag, and a bad or repeated group name.

Some rules of the syntax, kept here: `(?x)` makes blanks and `#` comments insignificant; a
counted repetition may have blanks around its numbers; `{,n}` is not a repetition; inside a
class, `[` opens an ASCII class `[:name:]` when one follows and a nested class otherwise, `-` is
literal first, last or before another `-`, and `&&`, `--`, `~~` are set operations; `]` right
after the opening bracket is literal.
-/

namespace Recast.Regex.Standard

/-- Why a pattern is not in the standard syntax. -/
inductive Fault where
  /-- A look-around or a back-reference, which the extended syntax has. -/
  | unsupported (what : String)
  /-- Anything else that does not fit. -/
  | invalid (what : String)
  deriving Inhabited, BEq, Repr

/-- The state of a reading: the pattern, the position, whether blanks are insignificant, the
number of capture groups so far and the names given to them. -/
structure Reader where
  text : Array Char
  pos : Nat
  ignoreSpace : Bool
  captures : Nat
  names : List String

/-- A step of a reading. -/
abbrev ReadM := StateT Reader (Except Fault)

/-- Ends the reading with an `invalid` fault. -/
def fail {α : Type} (what : String) : ReadM α := throw (.invalid what)

/-- The character `offset` places after the current one. -/
def peekAt (offset : Nat) : ReadM (Option Char) := do
  let reader ← get
  pure reader.text[reader.pos + offset]?

/-- Whether the pattern is used up. -/
def atEnd : ReadM Bool := do
  let reader ← get
  pure (reader.text.size ≤ reader.pos)

/-- The current character; only read when the pattern is not used up. -/
def current : ReadM Char := do
  pure ((← peekAt 0).getD '\x00')

/-- The current position. -/
def position : ReadM Nat := do
  pure (← get).pos

/-- Moves to a position. -/
def moveTo (pos : Nat) : ReadM Unit :=
  modify fun reader => { reader with pos }

/-- Moves past the current character; tells whether a character follows. -/
def bump : ReadM Bool := do
  let reader ← get
  if reader.text.size ≤ reader.pos then pure false
  else
    set { reader with pos := reader.pos + 1 }
    pure (reader.pos + 1 < reader.text.size)

/-- Moves past the rest of a comment, through its line feed. -/
def skipComment : Nat → ReadM Unit
  | 0 => pure ()
  | fuel + 1 => do
    match ← peekAt 0 with
    | none => pure ()
    | some c =>
      let _ ← bump
      if c == '\n' then pure () else skipComment fuel

/-- Moves past blanks and comments. -/
def skipBlanks : Nat → ReadM Unit
  | 0 => pure ()
  | fuel + 1 => do
    match ← peekAt 0 with
    | none => pure ()
    | some c =>
      if Unicode.isWhiteSpace c then
        let _ ← bump
        skipBlanks fuel
      else if c == '#' then
        let _ ← bump
        skipComment (← get).text.size
        skipBlanks fuel
      else pure ()

/-- Moves past blanks and comments when they are insignificant. -/
def bumpSpace : ReadM Unit := do
  let reader ← get
  if reader.ignoreSpace then skipBlanks (reader.text.size + 1)

/-- Moves past the current character and then any insignificant blanks; tells whether a
character follows. -/
def bumpAndSpace : ReadM Bool := do
  if !(← bump) then return false
  bumpSpace
  pure !(← atEnd)

/-- The first character from `index` on that is not a blank, a `#` opening a comment counting as
a blank; `fallback` when the pattern ends first. -/
def peekPast (text : Array Char) (fallback : Option Char) : Nat → Nat → Bool → Option Char
  | 0, _, _ => fallback
  | fuel + 1, index, inComment =>
    match text[index]? with
    | none => fallback
    | some c =>
      if Unicode.isWhiteSpace c then peekPast text fallback fuel (index + 1) inComment
      else if !inComment && c == '#' then peekPast text fallback fuel (index + 1) true
      else if inComment && c == '\n' then peekPast text fallback fuel (index + 1) false
      else some c

/-- The next character after the current one, past insignificant blanks. -/
def peekSpace : ReadM (Option Char) := do
  let reader ← get
  if !reader.ignoreSpace then pure reader.text[reader.pos + 1]?
  else if reader.text.size ≤ reader.pos then pure none
  else
    pure (peekPast reader.text reader.text[reader.pos + 1]? reader.text.size (reader.pos + 1) false)

/-- Whether the characters from a position on start with a word. -/
def matchesAt (text : Array Char) (pos : Nat) : List Char → Bool
  | [] => true
  | c :: rest => text[pos]? == some c && matchesAt text (pos + 1) rest

/-- Moves past a word when it comes next; tells whether it did. -/
def bumpIf (word : String) : ReadM Bool := do
  let reader ← get
  if matchesAt reader.text reader.pos word.toList then
    set { reader with pos := reader.pos + word.length }
    pure true
  else pure false

/-! ### Escapes -/

/-- An atom before it takes its place in the tree. -/
inductive Primitive where
  | literal (lit : Literal)
  | assertion (kind : Assertion)
  | dot
  | perl (cls : PerlClass)
  | property (cls : PropertyClass)
  deriving Inhabited

/-- An atom as a tree. -/
def Primitive.toNode : Primitive → Node
  | .literal lit => .literal lit
  | .assertion kind => .assertion kind
  | .dot => .dot
  | .perl cls => .perl cls
  | .property cls => .property cls

/-- The characters with a meaning of their own, which a backslash makes literal. -/
def isMetaChar (c : Char) : Bool :=
  ['\\', '.', '+', '*', '?', '(', ')', '|', '[', ']', '{', '}', '^', '$', '#', '&', '-', '~'].contains c

/-- The characters a backslash may precede to stand for themselves: the meta characters, and
ASCII characters that are neither letters, digits, `<` nor `>`. -/
def isEscapable (c : Char) : Bool :=
  isMetaChar c || (c.toNat < 128 && !c.isAlphanum && c != '<' && c != '>')

/-- Whether a number is a Unicode scalar value. -/
def isScalar (value : Nat) : Bool :=
  value ≤ 0x10FFFF && !(0xD800 ≤ value && value ≤ 0xDFFF)

/-- The value of hexadecimal digits. -/
def hexOf (digits : List Char) : Nat :=
  digits.foldl (fun value c => value * 16 + (Unicode.hexDigitValue? c).getD 0) 0

/-- Reads `count` hexadecimal digits, the first at the current position. -/
def hexDigits : Nat → Bool → Nat → ReadM Nat
  | 0, _, value => pure value
  | count + 1, first, value => do
    if !first then
      if !(← bumpAndSpace) then fail "escape ends early"
    match Unicode.hexDigitValue? (← current) with
    | none => fail "invalid hexadecimal digit"
    | some digit => hexDigits count false (value * 16 + digit)

/-- Reads the hexadecimal digits of a braced escape up to the closing brace. -/
def bracedDigits : Nat → List Char → ReadM (List Char)
  | 0, digits => pure digits
  | fuel + 1, digits => do
    if !(← bumpAndSpace) then return digits
    let c ← current
    if c == '}' then return digits
    if (Unicode.hexDigitValue? c).isNone then fail "invalid hexadecimal digit"
    bracedDigits fuel (digits ++ [c])

/-- Reads a hexadecimal escape, the current character being its letter `x`, `u` or `U`. -/
def hexLiteral (letter : Char) : ReadM Literal := do
  let width := if letter == 'x' then 2 else if letter == 'u' then 4 else 8
  if !(← bumpAndSpace) then fail "escape ends early"
  if (← current) == '{' then
    let digits ← bracedDigits (← get).text.size []
    if ← atEnd then fail "escape ends early"
    let _ ← bumpAndSpace
    if digits.isEmpty then fail "empty hexadecimal escape"
    let value := hexOf digits
    if value > 0xFFFFFFFF || !isScalar value then fail "invalid hexadecimal escape"
    pure ⟨Char.ofNat value, .braced letter⟩
  else
    let value ← hexDigits width true 0
    let _ ← bumpAndSpace
    if !isScalar value then fail "invalid hexadecimal escape"
    pure ⟨Char.ofNat value, .hex letter width⟩

/-- Splits a text at the first occurrence of a separator. -/
def splitFirst (text : List Char) (separator : List Char) : Option (List Char × List Char) :=
  let rec go (before : List Char) : List Char → Option (List Char × List Char)
    | [] => none
    | rest@(c :: more) =>
      if separator.isPrefixOf rest then some (before.reverse, rest.drop separator.length)
      else go (c :: before) more
  go [] text

/-- What the braces of a Unicode class name: a property and a value when `!=`, `:` or `=`
separates them, else one name. -/
def propertyQuery (name : List Char) : PropertyQuery :=
  let split (separator : String) : Option PropertyQuery :=
    (splitFirst name separator.toList).map fun (left, right) =>
      .valued (String.ofList left) separator (String.ofList right)
  ((split "!=").orElse fun _ => (split ":").orElse fun _ => split "=").getD
    (.named (String.ofList name))

/-- Reads the name of a Unicode class up to the closing brace. -/
def bracedName : Nat → List Char → ReadM (List Char)
  | 0, name => pure name
  | fuel + 1, name => do
    if !(← bumpAndSpace) then return name
    let c ← current
    if c == '}' then return name
    bracedName fuel (name ++ [c])

/-- Reads a Unicode class, the current character being its `p` or `P`. -/
def propertyClass : ReadM PropertyClass := do
  let negated := (← current) == 'P'
  if !(← bumpAndSpace) then fail "escape ends early"
  if (← current) == '{' then
    let name ← bracedName (← get).text.size []
    if ← atEnd then fail "escape ends early"
    let _ ← bump
    pure ⟨negated, propertyQuery name⟩
  else
    let c ← current
    if c == '\\' then fail "invalid Unicode class"
    let _ ← bumpAndSpace
    pure ⟨negated, .letter c⟩

/-- Reads the letters of a special word boundary up to its closing brace. -/
def boundaryName : Nat → List Char → ReadM (List Char)
  | 0, name => pure name
  | fuel + 1, name => do
    if ← atEnd then return name
    let c ← current
    if ('A' ≤ c && c ≤ 'Z') || ('a' ≤ c && c ≤ 'z') || c == '-' then
      let _ ← bumpAndSpace
      boundaryName fuel (name ++ [c])
    else pure name

/-- After `\b`, at a `{`: reads a special word boundary such as `\b{start}`, or leaves the brace
to a counted repetition when no letter follows it. -/
def specialBoundary : ReadM (Option Assertion) := do
  let start ← position
  if !(← bumpAndSpace) then fail "special word boundary or repetition ends early"
  let c ← current
  if !(('A' ≤ c && c ≤ 'Z') || ('a' ≤ c && c ≤ 'z') || c == '-') then
    moveTo start
    return none
  let name ← boundaryName (← get).text.size []
  if (← atEnd) then fail "unclosed special word boundary"
  if (← current) != '}' then fail "unclosed special word boundary"
  let _ ← bump
  match String.ofList name with
  | "start" => pure (some .wordStart)
  | "end" => pure (some .wordEnd)
  | "start-half" => pure (some .wordStartHalf)
  | "end-half" => pure (some .wordEndHalf)
  | _ => fail "unknown special word boundary"

/-- Reads an escape, the current character being its backslash. -/
def escape : ReadM Primitive := do
  if !(← bump) then fail "escape ends early"
  let c ← current
  if '0' ≤ c && c ≤ '9' then throw (.unsupported "back-reference")
  if c == 'x' || c == 'u' || c == 'U' then return .literal (← hexLiteral c)
  if c == 'p' || c == 'P' then return .property (← propertyClass)
  if ['d', 's', 'w', 'D', 'S', 'W'].contains c then
    let _ ← bump
    let kind : PerlKind := if c == 'd' || c == 'D' then .digit
      else if c == 's' || c == 'S' then .space else .word
    return .perl ⟨kind, c.isUpper⟩
  let _ ← bump
  if isEscapable c then return .literal ⟨c, .escaped⟩
  match c with
  | 'a' => pure (.literal ⟨'\x07', .control 'a'⟩)
  | 'f' => pure (.literal ⟨'\x0C', .control 'f'⟩)
  | 't' => pure (.literal ⟨'\t', .control 't'⟩)
  | 'n' => pure (.literal ⟨'\n', .control 'n'⟩)
  | 'r' => pure (.literal ⟨'\r', .control 'r'⟩)
  | 'v' => pure (.literal ⟨'\x0B', .control 'v'⟩)
  | 'A' => pure (.assertion .textStart)
  | 'z' => pure (.assertion .textEnd)
  | 'b' =>
    if (← atEnd) then return .assertion .wordBoundary
    if (← current) != '{' then return .assertion .wordBoundary
    match ← specialBoundary with
    | some kind => pure (.assertion kind)
    | none => pure (.assertion .wordBoundary)
  | 'B' => pure (.assertion .notWordBoundary)
  | '<' => pure (.assertion .wordStartAngle)
  | '>' => pure (.assertion .wordEndAngle)
  | _ => fail "unrecognized escape"

/-- Reads an atom outside a class. -/
def primitive : ReadM Primitive := do
  let c ← current
  if c == '\\' then escape
  else
    let _ ← bump
    match c with
    | '.' => pure .dot
    | '^' => pure (.assertion .lineStart)
    | '$' => pure (.assertion .lineEnd)
    | _ => pure (.literal ⟨c, .plain⟩)

/-! ### Classes -/

/-- An atom as a member of a class: escapes that are assertions have no place there. -/
def Primitive.toClassSet : Primitive → ReadM ClassSet
  | .literal lit => pure (.literal lit)
  | .perl cls => pure (.perl cls)
  | .property cls => pure (.property cls)
  | _ => fail "invalid escape in a class"

/-- An atom as an end of a range, which must be a literal. -/
def Primitive.toLiteral : Primitive → ReadM Literal
  | .literal lit => pure lit
  | _ => fail "range end is not a literal"

/-- The names of the ASCII classes. -/
def asciiClassNames : List String :=
  ["alnum", "alpha", "ascii", "blank", "cntrl", "digit", "graph", "lower", "print", "punct",
    "space", "upper", "word", "xdigit"]

/-- Moves to the next `:` or to the end. -/
def scanToColon : Nat → ReadM Unit
  | 0 => pure ()
  | fuel + 1 => do
    if (← current) == ':' then return
    if ← bump then scanToColon fuel

/-- At a `[` inside a class: reads an ASCII class `[:name:]` or `[:^name:]`, or moves nowhere and
gives nothing when none is there. -/
def asciiClass : ReadM (Option ClassSet) := do
  let start ← position
  if !(← bump) then
    moveTo start
    return none
  if (← current) != ':' then
    moveTo start
    return none
  if !(← bump) then
    moveTo start
    return none
  let mut negated := false
  if (← current) == '^' then
    negated := true
    if !(← bump) then
      moveTo start
      return none
  let nameStart ← position
  scanToColon (← get).text.size
  if ← atEnd then
    moveTo start
    return none
  let name := String.ofList ((← get).text.extract nameStart (← position)).toList
  if !(← bumpIf ":]") then
    moveTo start
    return none
  if asciiClassNames.contains name then pure (some (.ascii name negated))
  else
    moveTo start
    pure none

/-- Reads the `-` that stand first in a class, as literals. -/
def leadingDashes : Nat → List ClassSet → ReadM (List ClassSet)
  | 0, items => pure items
  | fuel + 1, items => do
    if (← current) != '-' then return items
    let items := .literal ⟨'-', .plain⟩ :: items
    if !(← bumpAndSpace) then fail "unclosed class"
    leadingDashes fuel items

/-- Reads the opening of a class at its `[`: whether it is negated, and the members that
opening makes literal (leading `-`, and a `]` right after the bracket), in reverse order. -/
def classOpening : ReadM (Bool × List ClassSet) := do
  if !(← bumpAndSpace) then fail "unclosed class"
  let mut negated := false
  if (← current) == '^' then
    negated := true
    if !(← bumpAndSpace) then fail "unclosed class"
  let items ← leadingDashes (← get).text.size []
  if items.isEmpty && (← current) == ']' then
    if !(← bumpAndSpace) then fail "unclosed class"
    return (negated, [.literal ⟨']', .plain⟩])
  pure (negated, items)

/-- Reads one member of a class that is not a set operation. -/
def classAtom : ReadM Primitive := do
  let c ← current
  if c == '\\' then escape
  else
    let _ ← bump
    pure (.literal ⟨c, .plain⟩)

/-- Reads a member of a class: an atom, or a range of two literals. -/
def classRange : ReadM ClassSet := do
  let first ← classAtom
  bumpSpace
  if ← atEnd then fail "unclosed class"
  let next ← peekSpace
  if (← current) != '-' || next == some ']' || next == some '-' then
    return ← first.toClassSet
  if !(← bumpAndSpace) then fail "unclosed class"
  let second ← classAtom
  let low ← first.toLiteral
  let high ← second.toLiteral
  if high.char < low.char then fail "invalid class range"
  pure (.range low high)

/-- What is open while a class is read: a class, with the members read before it in the
enclosing one, or a set operation with its left side. -/
inductive ClassFrame where
  | opened (before : List ClassSet) (negated : Bool)
  | operation (kind : SetOperation) (left : ClassSet)

/-- The members read so far, in order, as one member. -/
def sealUnion (items : List ClassSet) : ClassSet :=
  match items.reverse with
  | [only] => only
  | all => .union all

/-- Completes the set operation waiting for its right side, if there is one. -/
def closeOperation (stack : List ClassFrame) (right : ClassSet) : ClassSet × List ClassFrame :=
  match stack with
  | .operation kind left :: rest => (.operation kind left right, rest)
  | _ => (right, stack)

/-- Reads a bracketed class, from its opening `[` to its closing `]`. -/
def classLoop : Nat → List ClassSet → List ClassFrame → ReadM ClassSet
  | 0, _, _ => fail "class too long"
  | fuel + 1, items, stack => do
    bumpSpace
    if ← atEnd then fail "unclosed class"
    let c ← current
    let next ← peekAt 1
    if c == '[' then
      if !stack.isEmpty then
        match ← asciiClass with
        | some item => return ← classLoop fuel (item :: items) stack
        | none => pure ()
      let (negated, opening) ← classOpening
      classLoop fuel opening (.opened items negated :: stack)
    else if c == ']' then
      let (set, stack) := closeOperation stack (sealUnion items)
      match stack with
      | .opened before negated :: rest =>
        let _ ← bump
        let cls := ClassSet.bracket negated set
        if rest.isEmpty then pure cls else classLoop fuel (cls :: before) rest
      | _ => fail "unclosed class"
    else
      let operation : Option SetOperation :=
        if c == '&' && next == some '&' then some .intersection
        else if c == '-' && next == some '-' then some .difference
        else if c == '~' && next == some '~' then some .symmetricDifference
        else none
      match operation with
      | some kind =>
        let _ ← bump
        let _ ← bump
        let (left, stack) := closeOperation stack (sealUnion items)
        classLoop fuel [] (.operation kind left :: stack)
      | none => classLoop fuel ((← classRange) :: items) stack

/-! ### Groups and repetitions -/

/-- Whether a character may stand in a group name, first or later. -/
def isNameChar (c : Char) (first : Bool) : Bool :=
  if first then c == '_' || Unicode.isAlphabetic c
  else c == '_' || c == '.' || c == '[' || c == ']' || Unicode.isAlphanumeric c

/-- Moves past the characters of a group name, up to its `>`. -/
def scanName (start : Nat) : Nat → ReadM Unit
  | 0 => pure ()
  | fuel + 1 => do
    let c ← current
    if c == '>' then return
    if !isNameChar c ((← position) == start) then fail "invalid group name"
    if ← bump then scanName start fuel

/-- Reads the name of a named group, after its `(?<` or `(?P<`. -/
def captureName (pythonStyle : Bool) : ReadM GroupKind := do
  modify fun reader => { reader with captures := reader.captures + 1 }
  if ← atEnd then fail "group name ends early"
  let start ← position
  scanName start (← get).text.size
  let stop ← position
  if ← atEnd then fail "group name ends early"
  let _ ← bump
  let name := String.ofList ((← get).text.extract start stop).toList
  if name.isEmpty then fail "empty group name"
  if (← get).names.contains name then fail "duplicate group name"
  modify fun reader => { reader with names := name :: reader.names }
  pure (.named name pythonStyle)

/-- Reads flags up to the `:` or `)` that ends them. -/
def flagList : Nat → List FlagItem → Bool → ReadM (List FlagItem)
  | 0, items, _ => pure items
  | fuel + 1, items, afterNegation => do
    let c ← current
    if c == ':' || c == ')' then
      if afterNegation then fail "dangling flag negation"
      return items
    let item ←
      if c == '-' then
        if items.contains .negation then fail "repeated flag negation"
        pure FlagItem.negation
      else
        if !((['i', 'm', 's', 'U', 'u', 'R', 'x'] : List Char).contains c) then fail "unrecognized flag"
        if items.contains (.flag c) then fail "duplicate flag"
        pure (FlagItem.flag c)
    if !(← bump) then fail "flags end early"
    flagList fuel (items ++ [item]) (c == '-')

/-- Whether a look-around opens here, past the `(`. -/
def opensLookaround : ReadM Bool := do
  if ← bumpIf "?=" then return true
  if ← bumpIf "?!" then return true
  if ← bumpIf "?<=" then return true
  bumpIf "?<!"

/-- Reads the opening of a group at its `(`: inline flags that stand alone, or the kind of the
group that opens. -/
def groupOpening : ReadM (Sum (List FlagItem) GroupKind) := do
  let _ ← bump
  bumpSpace
  if ← opensLookaround then throw (.unsupported "look-around")
  if ← bumpIf "?P<" then return .inr (← captureName true)
  if ← bumpIf "?<" then return .inr (← captureName false)
  if ← bumpIf "?" then
    if ← atEnd then fail "unclosed group"
    let flags ← flagList (← get).text.size [] false
    let closing ← current
    let _ ← bump
    if closing == ')' then
      if flags.isEmpty then fail "repetition missing"
      return .inl flags
    return .inr (.plain flags)
  modify fun reader => { reader with captures := reader.captures + 1 }
  pure (.inr .capture)

/-- The item a repetition operator applies to, taken from the items read so far (in reverse
order): there must be one, and not inline flags. -/
def repetitionTarget (items : List Node) : ReadM (Node × List Node) :=
  match items with
  | [] => fail "repetition missing"
  | .flags _ :: _ => fail "repetition missing"
  | .empty :: _ => fail "repetition missing"
  | item :: rest => pure (item, rest)

/-- Reads `?`, `*` or `+` with the `?` that makes it lazy. -/
def uncountedRepetition (op : Repeat) (items : List Node) : ReadM (List Node) := do
  let (item, rest) ← repetitionTarget items
  let mut greedy := true
  if ← bump then
    if (← current) == '?' then
      greedy := false
      let _ ← bump
  pure (.repetition item op greedy :: rest)

/-- Moves past blanks with `step`. -/
def skipWhiteWith (step : ReadM Bool) : Nat → ReadM Unit
  | 0 => pure ()
  | fuel + 1 => do
    if ← atEnd then return
    if !Unicode.isWhiteSpace (← current) then return
    let _ ← step
    skipWhiteWith step fuel

/-- Reads decimal digits. -/
def decimalDigits : Nat → List Char → ReadM (List Char)
  | 0, digits => pure digits
  | fuel + 1, digits => do
    if ← atEnd then return digits
    let c ← current
    if !('0' ≤ c && c ≤ '9') then return digits
    let _ ← bumpAndSpace
    decimalDigits fuel (digits ++ [c])

/-- Reads a count of a counted repetition, with blanks around it; a missing or too large count
is a fault the caller raises when it needs the count. -/
def decimal : ReadM (Except Fault Nat) := do
  let size := (← get).text.size
  skipWhiteWith bump size
  let digits ← decimalDigits size []
  skipWhiteWith bumpAndSpace size
  if digits.isEmpty then return .error (.invalid "empty count")
  let value := digits.foldl (fun value c => value * 10 + (c.toNat - '0'.toNat)) 0
  if value > 0xFFFFFFFF then return .error (.invalid "invalid count")
  pure (.ok value)

/-- Raises a deferred fault. -/
def deferred {α : Type} : Except Fault α → ReadM α
  | .ok value => pure value
  | .error fault => throw fault

/-- Reads a counted repetition `{n}`, `{n,}` or `{n,m}` with the `?` that makes it lazy. -/
def countedRepetition (items : List Node) : ReadM (List Node) := do
  let (item, rest) ← repetitionTarget items
  if !(← bumpAndSpace) then fail "unclosed counted repetition"
  let first ← decimal
  if ← atEnd then fail "unclosed counted repetition"
  let op ←
    if (← current) == ',' then
      if !(← bumpAndSpace) then fail "unclosed counted repetition"
      if (← current) != '}' then
        let least ← deferred first
        let most ← deferred (← decimal)
        pure (Repeat.between least most)
      else pure (Repeat.atLeast (← deferred first))
    else pure (Repeat.exactly (← deferred first))
  if ← atEnd then fail "unclosed counted repetition"
  if (← current) != '}' then fail "unclosed counted repetition"
  let mut greedy := true
  if ← bumpAndSpace then
    if (← current) == '?' then
      greedy := false
      let _ ← bump
  match op with
  | .between least most => if most < least then fail "invalid repetition range"
  | _ => pure ()
  pure (.repetition item op greedy :: rest)

/-! ### Patterns -/

/-- An open group: the items before it (in reverse order), its finished alternatives (in reverse
order), its kind, and whether blanks are insignificant outside it. -/
structure OpenGroup where
  before : List Node
  branches : List Node
  kind : GroupKind
  outerSpace : Bool

/-- Where the reading stands: the items of the current concatenation (in reverse order), the
open groups, innermost first, and the finished alternatives of the whole pattern (in reverse
order). -/
structure Progress where
  items : List Node
  groups : List OpenGroup
  branches : List Node

/-- Items read in reverse order, as one concatenation. -/
def sealConcat (items : List Node) : Node :=
  match items.reverse with
  | [] => .empty
  | [only] => only
  | all => .concat all

/-- The current concatenation as the last alternative of finished ones. -/
def sealBranches (branches : List Node) (items : List Node) : Node :=
  if branches.isEmpty then sealConcat items
  else .alternation (sealConcat items :: branches).reverse

/-- Reads a pattern from the current position to its end. -/
def patternLoop : Nat → Progress → ReadM Node
  | 0, _ => fail "pattern too long"
  | fuel + 1, progress => do
    bumpSpace
    if ← atEnd then
      if !progress.groups.isEmpty then fail "unclosed group"
      return sealBranches progress.branches progress.items
    match ← current with
    | '(' =>
      match ← groupOpening with
      | .inl flags =>
        match flagState flags 'x' with
        | some on => modify fun reader => { reader with ignoreSpace := on }
        | none => pure ()
        patternLoop fuel { progress with items := .flags flags :: progress.items }
      | .inr kind =>
        let outer := (← get).ignoreSpace
        let inner := match kind with
          | .plain flags => (flagState flags 'x').getD outer
          | _ => outer
        modify fun reader => { reader with ignoreSpace := inner }
        patternLoop fuel
          { progress with items := [], groups := ⟨progress.items, [], kind, outer⟩ :: progress.groups }
    | ')' =>
      match progress.groups with
      | [] => fail "unopened group"
      | group :: rest =>
        modify fun reader => { reader with ignoreSpace := group.outerSpace }
        let _ ← bump
        let body := sealBranches group.branches progress.items
        patternLoop fuel
          { progress with items := .group group.kind body :: group.before, groups := rest }
    | '|' =>
      let _ ← bump
      let finished := sealConcat progress.items
      match progress.groups with
      | [] => patternLoop fuel { progress with items := [], branches := finished :: progress.branches }
      | group :: rest =>
        patternLoop fuel
          { progress with items := [], groups := { group with branches := finished :: group.branches } :: rest }
    | '[' =>
      match ← classLoop (← get).text.size [] [] with
      | .bracket negated body =>
        patternLoop fuel { progress with items := .bracket negated body :: progress.items }
      | _ => fail "unclosed class"
    | '?' => patternLoop fuel { progress with items := ← uncountedRepetition .zeroOrOne progress.items }
    | '*' => patternLoop fuel { progress with items := ← uncountedRepetition .zeroOrMore progress.items }
    | '+' => patternLoop fuel { progress with items := ← uncountedRepetition .oneOrMore progress.items }
    | '{' => patternLoop fuel { progress with items := ← countedRepetition progress.items }
    | _ => patternLoop fuel { progress with items := (← primitive).toNode :: progress.items }

/-- Reads a pattern in the standard syntax. -/
def parse (pattern : String) : Except Fault Node :=
  let text := pattern.toList.toArray
  (patternLoop (text.size + 2) ⟨[], [], []⟩).run' ⟨text, 0, false, 0, []⟩

end Recast.Regex.Standard
