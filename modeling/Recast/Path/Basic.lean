import Recast.Text.Blank
import Recast.Path.Pattern
/-!
Relation paths: chains of hops between classes.

A path such as `Dataset(files)>File<(sample)Sample` starts at a class and takes hops. An active
hop `S(r)>T` follows the relation `r` that `S` declares towards `T`; a passive hop `S<(r)T`
follows the relation `r` that `T` declares towards `S`, backwards. Class and relation names are
made of ASCII letters, digits, `_` and `-`.

Reading a path first drops every blank (`Text.isBlank`) from the text; what is left is the path's
canonical text. Nothing left is the error `empty`. Then two passes of regular expressions read
the rest (`Pattern`): the path pattern must match it as a whole, or the error is `invalidSyntax`,
which quotes the text as given; then the class at its start is found, and the hop pattern is
searched for hop after hop in what follows. Two paths are equal when their canonical texts are.
-/

namespace Recast

/-- Which way a hop follows its relation. -/
inductive Direction where
  /-- The source class holds the relation and points at the target. -/
  | active
  /-- The target class holds the relation and points back at the source. -/
  | passive
  deriving DecidableEq, Inhabited, Repr

/-- One hop of a relation path. -/
structure Hop where
  direction : Direction
  source : String
  target : String
  /-- The relation followed, declared by `source` (active) or `target` (passive). -/
  property : String
  deriving DecidableEq, Inhabited, Repr

namespace Hop

/-- The class that declares the relation. -/
def holder (hop : Hop) : String :=
  match hop.direction with
  | .active => hop.source
  | .passive => hop.target

/-- The class the relation points at. -/
def referenced (hop : Hop) : String :=
  match hop.direction with
  | .active => hop.target
  | .passive => hop.source

/-- The part of a path's text that a hop adds after its source. -/
def step (hop : Hop) : String :=
  match hop.direction with
  | .active => "(" ++ hop.property ++ ")>" ++ hop.target
  | .passive => "<(" ++ hop.property ++ ")" ++ hop.target

/-- A hop written alone, with its source. -/
def text (hop : Hop) : String :=
  hop.source ++ hop.step

/-- The same hop walked the other way. -/
def reverse (hop : Hop) : Hop :=
  { direction := match hop.direction with
      | .active => .passive
      | .passive => .active
    source := hop.target, target := hop.source, property := hop.property }

end Hop

/-- A relation path: its hops in order and its canonical text, the text it was read from with
its blanks dropped. Two paths are equal when their canonical texts are. -/
structure RelationPath where
  elements : List Hop
  canonical : String
  deriving Inhabited, Repr

instance : BEq RelationPath := ⟨fun path other => path.canonical == other.canonical⟩

namespace RelationPath

/-- The class the path starts at: the source of its first hop. -/
def source (path : RelationPath) : String :=
  path.elements[0]!.source

/-- The class the path ends at: the target of its last hop. -/
def target (path : RelationPath) : String :=
  path.elements[path.elements.length - 1]!.target

/-- The number of hops. -/
def length (path : RelationPath) : Nat :=
  path.elements.length

end RelationPath

/-- Why a text is not a relation path. -/
inductive PathError where
  /-- Only blanks. -/
  | empty
  /-- The text as given, and what is wrong with it. -/
  | invalidSyntax (path reason : String)
  deriving DecidableEq, Inhabited, Repr

/-- The text of a path error. -/
def PathError.message : PathError → String
  | .empty => "Relation path is empty"
  | .invalidSyntax path reason => "Invalid relation path '" ++ path ++ "': " ++ reason

namespace RelationPath

/-- Whether a character may appear in a class or relation name: `[A-Za-z0-9_\-]`. -/
def isNameChar (c : Char) : Bool :=
  ('A' ≤ c && c ≤ 'Z') || ('a' ≤ c && c ≤ 'z') || ('0' ≤ c && c ≤ '9') || c == '_' || c == '-'

/-- `NAME`: one or more name characters. -/
def namePattern : Pattern :=
  .plus (.set isNameChar)

/-- `(?:\(NAME\)>|<\(NAME\))NAME`: one hop as the path pattern repeats it, a bracketed
relation and a class. -/
def pathHop : Pattern :=
  .seq
    (.alt (.seq (.char '(') (.seq namePattern (.seq (.char ')') (.char '>'))))
      (.seq (.char '<') (.seq (.char '(') (.seq namePattern (.char ')')))))
    namePattern

/-- `^NAME(?:(?:\(NAME\)>|<\(NAME\))NAME)+$`, matched against the whole text: a class, then
one or more hops. -/
def pathPattern : Pattern :=
  .seq namePattern (.plus pathHop)

/-- `(?:\((NAME)\)>|<\((NAME)\))(NAME)`: one hop, capturing a forward relation in group 1, a
backward one in group 2 and the class it goes to in group 3. -/
def hopPattern : Pattern :=
  .seq
    (.alt (.seq (.char '(') (.seq (.group 1 namePattern) (.seq (.char ')') (.char '>'))))
      (.seq (.char '<') (.seq (.char '(') (.seq (.group 2 namePattern) (.char ')')))))
    (.group 3 namePattern)

/-- The hops the captures of successive hop matches give, the first starting at `source` and
each next one where the last ended. A match without a forward relation is read as a backward
one; taking its relation or its class when the group is unset fails as the engine's index does. -/
def hopsOf (source : String) : List Captures → List Hop
  | [] => []
  | captured :: rest =>
    let (direction, property) : Direction × List Char :=
      match captured.get 1 with
      | some active => (.active, active)
      | none => (.passive, (captured.get 2).get!)
    let target := String.ofList (captured.get 3).get!
    { direction, source, target, property := String.ofList property } :: hopsOf target rest

/-- The characters of a text that are not blank: the canonical text of the path it spells. -/
def compact (text : String) : List Char :=
  text.toList.filter fun c => !Text.isBlank c

/-- The reason given when the text is not a class followed by hops. -/
def hopsExpected : String :=
  "expected '<class>(<relation>)><class>' or '<class><(<relation>)<class>' hops"

/-- The reason given when no class starts the text. -/
def sourceMissing : String :=
  "missing source class"

/-- Reads a path. The blanks are dropped; nothing left is `empty`, and a rest that the path
pattern does not match as a whole is `invalidSyntax`. Then the class at the start is found, and
the hop pattern is searched for again and again in what follows it, each hop starting where the
last one ended. The canonical text is the text without its blanks. -/
def parse (text : String) : Except PathError RelationPath :=
  let chars := compact text
  if chars.isEmpty then .error .empty
  else if !pathPattern.matchesWhole chars then .error (.invalidSyntax text hopsExpected)
  else
    match namePattern.findAtStart chars with
    | none => .error (.invalidSyntax text sourceMissing)
    | some leading =>
      .ok { elements := hopsOf (String.ofList (chars.take (chars.length - leading.2.length)))
              (hopPattern.capturesIter leading.2),
            canonical := String.ofList chars }

end RelationPath

end Recast
