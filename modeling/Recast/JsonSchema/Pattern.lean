import Recast.Regex.Compile
import Recast.Regex.Standard.Parse
/-!
Regular expressions of JSON Schema's `pattern` and `patternProperties` keywords and of the
`regex` format.

A pattern is ECMA-262 flavoured; it is brought into the extended syntax of `Recast.Regex` in
three steps.

* `\cX`, for an ASCII letter `X`, becomes the control character whose code is that of `X`
  modulo 32; an escaped backslash before `cX` keeps it literal.
* The pattern is read in the standard syntax. If it reads, it is written back with each Perl
  class spelled as the ASCII set ECMA-262 gives it: `\d` as `[0-9]`, `\w` as `[a-zA-Z0-9_]`, `\s`
  as the blanks listed in `blankSpelling`, and their negations as the complements. If it does
  not read only because it has look-around or a back-reference, it is taken as it stands, and
  its Perl classes keep their Unicode meaning. If it does not read for any other reason, or if it
  holds the bell escape `\a`, which ECMA-262 does not have, it is no regular expression.
* The text is compiled in the extended syntax; if that fails, it is no regular expression either.

The `regex` format asks only for the first two steps to succeed.
-/

namespace Recast.JsonSchema.Pattern

open Recast.Regex

/-- Replaces `\cX`, for an ASCII letter `X`, with the control character that the letter stands
for. The scan reads escapes as pairs, so an escaped backslash followed by `cX` is left alone. -/
def replaceControls : List Char → List Char
  | '\\' :: 'c' :: tail@(letter :: after) =>
    if letter.isAlpha then Char.ofNat (letter.toNat % 32) :: replaceControls after
    else '\\' :: 'c' :: replaceControls tail
  | '\\' :: escaped :: rest => '\\' :: escaped :: replaceControls rest
  | c :: rest => c :: replaceControls rest
  | [] => []

/-- The members of the ASCII set a Perl class stands for, as they are written inside brackets. -/
def asciiMembers : Standard.PerlKind → String
  | .digit => "0-9"
  | .word => "a-zA-Z0-9_"
  | .space => blankSpelling
where
  /-- The blanks: space, tab, line feed, carriage return, vertical tab, form feed, no-break
  space, em space, the byte order mark and the paragraph separator. -/
  blankSpelling : String := "\\x20\\t\\n\\r\\x0B\\x0C\\u00A0\\u2003\\uFEFF\\u2029"

/-- The printer that spells each Perl class as its ASCII set: bracketed outside a class, and
inside one as bare members, or as a nested negated class for a negation. -/
def asciiPrinter : Standard.Printer where
  perl cls inside :=
    let members := asciiMembers cls.kind
    if inside && !cls.negated then members
    else "[" ++ (if cls.negated then "^" else "") ++ members ++ "]"

/-- The text of a pattern in the extended syntax, if the pattern is read at all. -/
def translate (pattern : String) : Option String :=
  let pattern := String.ofList (replaceControls pattern.toList)
  match Standard.parse pattern with
  | .ok tree =>
    if tree.anyLiteral (·.spelling == .control 'a') then none else some (asciiPrinter.node tree)
  | .error (.unsupported _) => some pattern
  | .error (.invalid _) => none

/-- Whether a string is a regular expression in the sense of the `regex` format: it reads and
can be brought into the extended syntax, whether or not that text then compiles. -/
def isRegex (pattern : String) : Bool :=
  (translate pattern).isSome

/-- The compiled form of a pattern, if it is a regular expression. -/
def compile? (pattern : String) : Option Compiled :=
  (translate pattern).bind fun text => (Regex.compile text).toOption

/-- Whether a pattern compiles. -/
def isValid (pattern : String) : Bool :=
  (compile? pattern).isSome

end Recast.JsonSchema.Pattern
