/-!
Sets of code points, written as their maximal runs.

A `CodeSet` lists inclusive ranges of code points in increasing order, each separated from the
next by at least one code point outside the set, so a set has one representation and two sets
are equal exactly when their lists are. `ofRanges` brings arbitrary ranges to that shape by
sorting and merging, and the set operations keep it: union merges the two lists, complement
takes the gaps between runs up to `maxCode`, and intersection and difference follow from those
two. For lookup a set is laid out as an array and searched by halving (`CodeTable`).

Large tables are stored as text and read here: hexadecimal numbers separated by blanks, with
`a-b` for the run from `a` to `b`, or, for maps over all code points, each code point where the
value changes followed by the value that holds from there on.
-/

namespace Recast.Unicode

/-- The largest code point. -/
def maxCode : Nat := 0x10FFFF

/-- A set of code points, as increasing, disjoint and non-adjacent inclusive ranges. -/
structure CodeSet where
  ranges : List (Nat × Nat)
  deriving Inhabited, BEq, Repr

namespace CodeSet

/-- The empty set. -/
def empty : CodeSet := ⟨[]⟩

/-- Every code point. -/
def all : CodeSet := ⟨[(0, maxCode)]⟩

/-- One code point. -/
def single (code : Nat) : CodeSet := ⟨[(code, code)]⟩

/-- Merges ranges sorted by their starts, joining those that overlap or touch. -/
def mergeSorted : List (Nat × Nat) → List (Nat × Nat)
  | [] => []
  | [run] => [run]
  | (low, high) :: (next, last) :: rest =>
    if next ≤ high + 1 then mergeSorted ((low, max high last) :: rest)
    else (low, high) :: mergeSorted ((next, last) :: rest)
termination_by ranges => ranges.length

/-- The set of code points that some range holds; a range whose start lies after its end holds
nothing. -/
def ofRanges (ranges : List (Nat × Nat)) : CodeSet :=
  ⟨mergeSorted ((ranges.filter fun (low, high) => low ≤ high).mergeSort fun x y => x.1 ≤ y.1)⟩

/-- The code points from `low` to `high`. -/
def span (low high : Nat) : CodeSet := ofRanges [(low, high)]

/-- The code points of either set. -/
def union (s t : CodeSet) : CodeSet := ofRanges (s.ranges ++ t.ranges)

/-- The code points from `next` up to `maxCode` that no run of a list holds. -/
def gaps (next : Nat) : List (Nat × Nat) → List (Nat × Nat)
  | [] => if next ≤ maxCode then [(next, maxCode)] else []
  | (low, high) :: rest => (if next < low then [(next, low - 1)] else []) ++ gaps (high + 1) rest

/-- The code points outside a set. -/
def complement (s : CodeSet) : CodeSet := ⟨gaps 0 s.ranges⟩

/-- The code points of both sets. -/
def inter (s t : CodeSet) : CodeSet := complement (union (complement s) (complement t))

/-- The code points of the first set that the second lacks. -/
def diff (s t : CodeSet) : CodeSet := inter s (complement t)

/-- The code points of exactly one of the sets. -/
def symmDiff (s t : CodeSet) : CodeSet := diff (union s t) (inter s t)

/-- The union of a list of sets. -/
def unionAll (sets : List CodeSet) : CodeSet := ofRanges (sets.flatMap CodeSet.ranges)

/-- Whether a set holds a code point. -/
def contains (s : CodeSet) (code : Nat) : Bool :=
  s.ranges.any fun (low, high) => low ≤ code && code ≤ high

end CodeSet

/-- A set of code points laid out for lookup by halving. -/
structure CodeTable where
  runs : Array (Nat × Nat)
  deriving Inhabited

namespace CodeTable

/-- Whether a run among `runs[low, high)` holds `code`; each step halves the window, so a fuel
of 64 is never the limit. -/
def search (runs : Array (Nat × Nat)) (code : Nat) : Nat → Nat → Nat → Bool
  | 0, _, _ => false
  | fuel + 1, low, high =>
    if low < high then
      let middle := (low + high) / 2
      let (first, last) := runs.getD middle (0, 0)
      if code < first then search runs code fuel low middle
      else if last < code then search runs code fuel (middle + 1) high
      else true
    else false

/-- Whether the table holds a code point. -/
def contains (table : CodeTable) (code : Nat) : Bool :=
  search table.runs code 64 0 table.runs.size

end CodeTable

/-- A set laid out for lookup. -/
def CodeSet.table (s : CodeSet) : CodeTable := ⟨s.ranges.toArray⟩

/-! ### Reading tables -/

/-- The value of a hexadecimal digit. -/
def hexDigitValue? (c : Char) : Option Nat :=
  if '0' ≤ c && c ≤ '9' then some (c.toNat - '0'.toNat)
  else if 'a' ≤ c && c ≤ 'f' then some (c.toNat - 'a'.toNat + 10)
  else if 'A' ≤ c && c ≤ 'F' then some (c.toNat - 'A'.toNat + 10)
  else none

/-- The value of a non-empty hexadecimal numeral. -/
def hexValue? (text : String) : Option Nat :=
  if text.isEmpty then none
  else text.foldl (fun value c => value.bind fun n => (hexDigitValue? c).map (n * 16 + ·)) (some 0)

/-- The words of a text, split at blanks. -/
def words (text : String) : List String :=
  (text.splitOn " ").filter (!·.isEmpty)

/-- Ranges written as hexadecimal numbers, `a-b` for a run, separated by blanks. -/
def parseRanges (text : String) : List (Nat × Nat) :=
  (words text).filterMap fun word =>
    match word.splitOn "-" with
    | [code] => (hexValue? code).map fun code => (code, code)
    | [low, high] => (hexValue? low).bind fun low => (hexValue? high).map fun high => (low, high)
    | _ => none

/-- The set of code points a text of ranges names. -/
def parseSet (text : String) : CodeSet := CodeSet.ofRanges (parseRanges text)

/-- Pairs each hexadecimal code point of a word list with the word after it. -/
def pairUp : List String → List (Nat × String)
  | key :: value :: rest =>
    match hexValue? key with
    | some code => (code, value) :: pairUp rest
    | none => pairUp rest
  | _ => []

/-- Turns the starts of a map into spans: each value holds from its start to the code point
before the next start, and the last up to `maxCode`. -/
def spansOf : List (Nat × String) → List (Nat × Nat × String)
  | [] => []
  | [(start, value)] => [(start, maxCode, value)]
  | (start, value) :: (next, other) :: rest =>
    (start, next - 1, value) :: spansOf ((next, other) :: rest)

/-- The spans of a map written as code points where the value changes, each followed by the
value. -/
def parseSpans (text : String) : List (Nat × Nat × String) :=
  spansOf (pairUp (words text))

end Recast.Unicode
