/-!
The tree of a regular expression in the standard syntax, and how it is written back.

The standard syntax has alternation, concatenation, repetition (`?`, `*`, `+` and counted, each
greedy or lazy), capturing, named and non-capturing groups with flags, inline flags, the
anchors and word boundaries, `.`, escapes, the Perl classes `\d \s \w`, Unicode classes
`\p{..}`, and bracketed classes with ranges, ASCII classes `[:name:]`, nested classes and the
set operations `&&`, `--` and `~~`. It has no look-around and no back-references.

The tree keeps how each literal and assertion was written, so that writing it back gives the
same spelling, and `Printer` chooses how the Perl classes are written out: a dialect that gives
`\d \s \w` other meanings replaces them there.
-/

namespace Recast.Regex.Standard

/-- How a literal character was written. -/
inductive Spelling where
  /-- The character itself. -/
  | plain
  /-- A backslash and the character. -/
  | escaped
  /-- A backslash, a letter and a fixed number of hexadecimal digits, as `\x41`. -/
  | hex (letter : Char) (width : Nat)
  /-- A backslash, a letter and hexadecimal digits in braces, as `\x{41}`. -/
  | braced (letter : Char)
  /-- A backslash and a letter naming a control character, as `\n`. -/
  | control (letter : Char)
  deriving Inhabited, BEq, Repr

/-- A literal character with its spelling. -/
structure Literal where
  char : Char
  spelling : Spelling
  deriving Inhabited, BEq, Repr

/-- The anchors and word boundaries, as written. -/
inductive Assertion where
  | lineStart
  | lineEnd
  | textStart
  | textEnd
  | wordBoundary
  | notWordBoundary
  | wordStart
  | wordEnd
  | wordStartHalf
  | wordEndHalf
  | wordStartAngle
  | wordEndAngle
  deriving Inhabited, BEq, Repr

/-- The Perl classes: decimal digits, blanks and word characters. -/
inductive PerlKind where
  | digit
  | space
  | word
  deriving Inhabited, BEq, Repr

/-- A Perl class, or its negation (`\D \S \W`). -/
structure PerlClass where
  kind : PerlKind
  negated : Bool
  deriving Inhabited, BEq, Repr

/-- What a Unicode class names: a one-letter name (`\pN`), a name (`\p{Greek}`), or a property
with a value (`\p{sc=Greek}`, with `=`, `:` or `!=` between them). -/
inductive PropertyQuery where
  | letter (c : Char)
  | named (name : String)
  | valued (name : String) (operator : String) (value : String)
  deriving Inhabited, BEq, Repr

/-- A Unicode class; `negated` is set for `\P`. -/
structure PropertyClass where
  negated : Bool
  query : PropertyQuery
  deriving Inhabited, BEq, Repr

/-- The set operations of bracketed classes. -/
inductive SetOperation where
  | intersection
  | difference
  | symmetricDifference
  deriving Inhabited, BEq, Repr

/-- The inside of a bracketed class. -/
inductive ClassSet where
  | literal (lit : Literal)
  | range (low high : Literal)
  | ascii (name : String) (negated : Bool)
  | property (cls : PropertyClass)
  | perl (cls : PerlClass)
  | bracket (negated : Bool) (body : ClassSet)
  | union (items : List ClassSet)
  | operation (kind : SetOperation) (left right : ClassSet)
  deriving Inhabited, BEq, Repr

/-- The repetition operators. -/
inductive Repeat where
  | zeroOrOne
  | zeroOrMore
  | oneOrMore
  | exactly (count : Nat)
  | atLeast (count : Nat)
  | between (least most : Nat)
  deriving Inhabited, BEq, Repr

/-- One item of a flag list: a flag letter, or the `-` that negates the letters after it. -/
inductive FlagItem where
  | negation
  | flag (letter : Char)
  deriving Inhabited, BEq, Repr

/-- The kinds of groups. -/
inductive GroupKind where
  | capture
  | named (name : String) (pythonStyle : Bool)
  | plain (flags : List FlagItem)
  deriving Inhabited, BEq, Repr

/-- A regular expression in the standard syntax. -/
inductive Node where
  | empty
  | literal (lit : Literal)
  | dot
  | assertion (kind : Assertion)
  | perl (cls : PerlClass)
  | property (cls : PropertyClass)
  | bracket (negated : Bool) (body : ClassSet)
  | repetition (body : Node) (op : Repeat) (greedy : Bool)
  | group (kind : GroupKind) (body : Node)
  | flags (items : List FlagItem)
  | alternation (branches : List Node)
  | concat (items : List Node)
  deriving Inhabited, BEq, Repr

/-- Whether a flag list turns a flag on (`some true`), off (`some false`), or does not name it. -/
def flagState (items : List FlagItem) (letter : Char) : Option Bool :=
  let rec go (negated : Bool) : List FlagItem → Option Bool
    | [] => none
    | .negation :: rest => go true rest
    | .flag other :: rest => if other == letter then some !negated else go negated rest
  go false items

/-! ### Writing back -/

/-- The hexadecimal digits of a number in upper case, padded with zeros to `width`. -/
def upperHex (value width : Nat) : String :=
  let digits := Nat.toDigits 16 value |>.map Char.toUpper
  String.ofList (List.replicate (width - digits.length) '0' ++ digits)

/-- A literal as it was written. -/
def Literal.print (lit : Literal) : String :=
  match lit.spelling with
  | .plain => String.singleton lit.char
  | .escaped => "\\" ++ String.singleton lit.char
  | .hex letter width => "\\" ++ String.singleton letter ++ upperHex lit.char.toNat width
  | .braced letter =>
    "\\" ++ String.singleton letter ++ "\x7b" ++ upperHex lit.char.toNat 0 ++ "\x7d"
  | .control letter => "\\" ++ String.singleton letter

/-- An assertion as it was written. -/
def Assertion.print : Assertion → String
  | .lineStart => "^"
  | .lineEnd => "$"
  | .textStart => "\\A"
  | .textEnd => "\\z"
  | .wordBoundary => "\\b"
  | .notWordBoundary => "\\B"
  | .wordStart => "\\b\x7bstart\x7d"
  | .wordEnd => "\\b\x7bend\x7d"
  | .wordStartHalf => "\\b\x7bstart-half\x7d"
  | .wordEndHalf => "\\b\x7bend-half\x7d"
  | .wordStartAngle => "\\<"
  | .wordEndAngle => "\\>"

/-- A Perl class in its usual spelling. -/
def PerlClass.print (cls : PerlClass) : String :=
  let letter := match cls.kind with
    | .digit => 'd'
    | .space => 's'
    | .word => 'w'
  "\\" ++ String.singleton (if cls.negated then letter.toUpper else letter)

/-- A Unicode class as it was written. -/
def PropertyClass.print (cls : PropertyClass) : String :=
  let head := if cls.negated then "\\P" else "\\p"
  match cls.query with
  | .letter c => head ++ String.singleton c
  | .named name => head ++ "\x7b" ++ name ++ "\x7d"
  | .valued name operator value => head ++ "\x7b" ++ name ++ operator ++ value ++ "\x7d"

/-- A repetition operator, with the `?` of a lazy one. -/
def Repeat.print (op : Repeat) (greedy : Bool) : String :=
  let text := match op with
    | .zeroOrOne => "?"
    | .zeroOrMore => "*"
    | .oneOrMore => "+"
    | .exactly count => "\x7b" ++ toString count ++ "\x7d"
    | .atLeast count => "\x7b" ++ toString count ++ ",\x7d"
    | .between least most => "\x7b" ++ toString least ++ "," ++ toString most ++ "\x7d"
  if greedy then text else text ++ "?"

/-- A flag list. -/
def printFlags (items : List FlagItem) : String :=
  String.ofList (items.map fun
    | .negation => '-'
    | .flag letter => letter)

/-- How Perl classes are written out: inside a bracketed class (`true`) or outside it. -/
structure Printer where
  perl : PerlClass → Bool → String

/-- The printer that writes every Perl class as `\d \s \w` or their negations. -/
def Printer.usual : Printer := ⟨fun cls _ => cls.print⟩

mutual

/-- The inside of a bracketed class, written out. -/
def Printer.classSet (printer : Printer) : ClassSet → String
  | .literal lit => lit.print
  | .range low high => low.print ++ "-" ++ high.print
  | .ascii name negated => "[:" ++ (if negated then "^" else "") ++ name ++ ":]"
  | .property cls => cls.print
  | .perl cls => printer.perl cls true
  | .bracket negated body => "[" ++ (if negated then "^" else "") ++ printer.classSet body ++ "]"
  | .union items => printer.classItems items
  | .operation kind left right =>
    let symbol := match kind with
      | .intersection => "&&"
      | .difference => "--"
      | .symmetricDifference => "~~"
    printer.classSet left ++ symbol ++ printer.classSet right

/-- The items of a class union, written out one after another. -/
def Printer.classItems (printer : Printer) : List ClassSet → String
  | [] => ""
  | item :: rest => printer.classSet item ++ printer.classItems rest

end

mutual

/-- A regular expression, written out. -/
def Printer.node (printer : Printer) : Node → String
  | .empty => ""
  | .literal lit => lit.print
  | .dot => "."
  | .assertion kind => kind.print
  | .perl cls => printer.perl cls false
  | .property cls => cls.print
  | .bracket negated body => "[" ++ (if negated then "^" else "") ++ printer.classSet body ++ "]"
  | .repetition body op greedy => printer.node body ++ op.print greedy
  | .group kind body =>
    let head := match kind with
      | .capture => "("
      | .named name true => "(?P<" ++ name ++ ">"
      | .named name false => "(?<" ++ name ++ ">"
      | .plain flags => "(?" ++ printFlags flags ++ ":"
    head ++ printer.node body ++ ")"
  | .flags items => "(?" ++ printFlags items ++ ")"
  | .alternation branches => printer.branches branches
  | .concat items => printer.sequence items

/-- Alternatives, written out with `|` between them. -/
def Printer.branches (printer : Printer) : List Node → String
  | [] => ""
  | [last] => printer.node last
  | branch :: rest => printer.node branch ++ "|" ++ printer.branches rest

/-- Items of a concatenation, written out one after another. -/
def Printer.sequence (printer : Printer) : List Node → String
  | [] => ""
  | item :: rest => printer.node item ++ printer.sequence rest

end

mutual

/-- Whether some literal of a class satisfies a test. -/
def ClassSet.anyLiteral (test : Literal → Bool) : ClassSet → Bool
  | .literal lit => test lit
  | .range low high => test low || test high
  | .ascii _ _ | .property _ | .perl _ => false
  | .bracket _ body => body.anyLiteral test
  | .union items => ClassSet.anyLiteralIn test items
  | .operation _ left right => left.anyLiteral test || right.anyLiteral test

/-- Whether some literal of a list of classes satisfies a test. -/
def ClassSet.anyLiteralIn (test : Literal → Bool) : List ClassSet → Bool
  | [] => false
  | item :: rest => item.anyLiteral test || ClassSet.anyLiteralIn test rest

end

mutual

/-- Whether some literal of a regular expression, inside classes too, satisfies a test. -/
def Node.anyLiteral (test : Literal → Bool) : Node → Bool
  | .literal lit => test lit
  | .bracket _ body => body.anyLiteral test
  | .repetition body _ _ | .group _ body => body.anyLiteral test
  | .alternation items | .concat items => Node.anyLiteralIn test items
  | .empty | .dot | .assertion _ | .perl _ | .property _ | .flags _ => false

/-- Whether some literal of a list of regular expressions satisfies a test. -/
def Node.anyLiteralIn (test : Literal → Bool) : List Node → Bool
  | [] => false
  | item :: rest => item.anyLiteral test || Node.anyLiteralIn test rest

end

end Recast.Regex.Standard
