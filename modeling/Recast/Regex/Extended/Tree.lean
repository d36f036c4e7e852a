import Recast.Unicode.CodeSet
/-!
The tree of a regular expression in the extended syntax, the one that is matched.

Beyond the standard syntax it has look-ahead and look-behind, positive and negative,
back-references to capture groups, atomic groups and possessive repetitions, `\K` (which keeps
the match going but moves its start, and so does not change whether a text matches) and `\G`
(the position where the search started). Classes of every kind are already resolved to the set
of characters they stand for, closed under case folding where case does not count; a literal
keeps its character and whether case counts for it.
-/

namespace Recast.Regex

open Recast.Unicode

/-- The zero-width tests on the position. -/
inductive Look where
  /-- The start of the text. -/
  | textStart
  /-- The end of the text. -/
  | textEnd
  /-- The start of the text or just after a line feed. -/
  | lineStart
  /-- The end of the text or just before a line feed. -/
  | lineEnd
  /-- A word character on exactly one side. -/
  | wordBoundary
  /-- Word characters on both sides or on neither. -/
  | notWordBoundary
  /-- A word character after the position and none before it. -/
  | wordStart
  /-- A word character before the position and none after it. -/
  | wordEnd
  deriving Inhabited, BEq, Repr

/-- A regular expression in the extended syntax. -/
inductive Node where
  | empty
  /-- Any character; a line feed only when `newline`. -/
  | any (newline : Bool)
  /-- One character; when `caseless`, any character of its case-folding orbit. -/
  | literal (c : Char) (caseless : Bool)
  /-- One character of a set. -/
  | set (chars : CodeSet)
  | look (kind : Look)
  | concat (items : List Node)
  | alternation (branches : List Node)
  /-- A capture group; groups are numbered from 1 in the order they open. -/
  | group (body : Node)
  | lookaround (body : Node) (behind : Bool) (negated : Bool)
  /-- At least `least` and at most `most` (no limit when none) repetitions. -/
  | repetition (body : Node) (least : Nat) (most : Option Nat) (greedy : Bool)
  | backref (group : Nat) (caseless : Bool)
  | atomic (body : Node)
  | keepOut
  | searchStart
  deriving Inhabited, Repr

end Recast.Regex
