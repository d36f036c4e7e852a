import Recast.Unicode.CodeSet
import Recast.Unicode.Data.Category
import Recast.Unicode.Data.Script
import Recast.Unicode.Data.PropertyA
import Recast.Unicode.Data.PropertyB
import Recast.Unicode.Data.Folding
import Recast.Unicode.Data.Age
import Recast.Unicode.Data.Segment
import Recast.Unicode.Data.Recent
/-!
The Unicode tables read into sets: general categories, scripts and script extensions, binary
properties, simple case folding, and the classes built from them that patterns use.

Simple case folding is kept as orbits, the sets of code points that fold to one code point;
matching without regard to case lets a code point stand for every member of its orbit, so a set
is closed under folding by adding the orbits of its members. The word characters are those that
are alphabetic, marks, decimal digits, connector punctuation or joining controls; the digits are
the decimal digits; the blanks are the white space.
-/

namespace Recast.Unicode

/-! ### General categories -/

/-- The general category of every code point, as spans with the category's short name. -/
def categorySpans : List (Nat × Nat × String) := parseSpans Data.categoryStarts

/-- The short names of the thirty general categories. -/
def categoryShortNames : List String :=
  ["Cc", "Cf", "Cn", "Co", "Cs", "Ll", "Lm", "Lo", "Lt", "Lu", "Mc", "Me", "Mn", "Nd", "Nl", "No",
    "Pc", "Pd", "Pe", "Pf", "Pi", "Po", "Ps", "Sc", "Sk", "Sm", "So", "Zl", "Zp", "Zs"]

/-- Each general category, by short name, with its code points; read from the spans once. -/
def categoryTable : List (String × CodeSet) :=
  categoryShortNames.map fun short =>
    (short, CodeSet.ofRanges (categorySpans.filterMap fun (low, high, name) =>
      if name == short then some (low, high) else none))

/-- The code points whose general category is one of those named (by short names). -/
def categorySet (names : List String) : CodeSet :=
  CodeSet.unionAll ((categoryTable.filter fun (name, _) => names.contains name).map Prod.snd)

/-- The short names of the categories a category or a group of categories stands for. -/
def categoryMembers (short : String) : List String :=
  match short with
  | "C" => ["Cc", "Cf", "Cn", "Co", "Cs"]
  | "L" => ["Ll", "Lm", "Lo", "Lt", "Lu"]
  | "LC" => ["Ll", "Lt", "Lu"]
  | "M" => ["Mc", "Me", "Mn"]
  | "N" => ["Nd", "Nl", "No"]
  | "P" => ["Pc", "Pd", "Pe", "Pf", "Pi", "Po", "Ps"]
  | "S" => ["Sc", "Sk", "Sm", "So"]
  | "Z" => ["Zl", "Zp", "Zs"]
  | other => [other]

/-! ### Scripts -/

/-- The script of every code point, as spans with the script's code. -/
def scriptSpans : List (Nat × Nat × String) := parseSpans Data.scriptStarts

/-- The script extensions of every code point, as spans with the scripts' codes joined by `+`. -/
def extensionSpans : List (Nat × Nat × String) := parseSpans Data.extensionStarts

/-- The code points of a script, by its code. -/
def scriptSet (code : String) : CodeSet :=
  CodeSet.ofRanges (scriptSpans.filterMap fun (low, high, name) =>
    if name == code then some (low, high) else none)

/-- The code points whose script extensions include a script, by its code. -/
def extensionSet (code : String) : CodeSet :=
  CodeSet.ofRanges (extensionSpans.filterMap fun (low, high, names) =>
    if (names.splitOn "+").contains code then some (low, high) else none)

/-! ### Versions and break properties -/

/-- The version in which every code point was assigned, as spans with the version (`NA` for
points not assigned yet). -/
def ageSpans : List (Nat × Nat × String) := parseSpans Data.ageStarts

/-- A version number as its major and minor parts, if it is one. -/
def versionParts (version : String) : Option (Nat × Nat) :=
  match version.splitOn "." with
  | [major, minor] => do
    let major ← major.toNat?
    let minor ← minor.toNat?
    pure (major, minor)
  | _ => none

/-- The code points assigned in a version or an earlier one. -/
def ageSet (version : String) : CodeSet :=
  match versionParts version with
  | none => CodeSet.empty
  | some limit =>
    CodeSet.ofRanges (ageSpans.filterMap fun (low, high, assigned) =>
      match versionParts assigned with
      | some parts => if parts.1 < limit.1 || (parts.1 == limit.1 && parts.2 ≤ limit.2)
          then some (low, high) else none
      | none => none)

/-- The code points at which a map of spans takes a value. -/
def spansSet (spans : List (Nat × Nat × String)) (value : String) : CodeSet :=
  CodeSet.ofRanges (spans.filterMap fun (low, high, name) =>
    if name == value then some (low, high) else none)

/-- The grapheme cluster break value of every code point, as spans with the value's short name. -/
def graphemeBreakSpans : List (Nat × Nat × String) := parseSpans Data.graphemeBreakStarts

/-- The word break value of every code point, as spans with the value's short name. -/
def wordBreakSpans : List (Nat × Nat × String) := parseSpans Data.wordBreakStarts

/-- The sentence break value of every code point, as spans with the value's short name. -/
def sentenceBreakSpans : List (Nat × Nat × String) := parseSpans Data.sentenceBreakStarts

/-! ### Binary properties -/

/-- The binary properties, by long name, with their tables. -/
def binaryTables : List (String × String) :=
  Data.binaryPropertiesA ++ Data.binaryPropertiesB

/-- The code points of a binary property, by long name. -/
def binarySet? (name : String) : Option CodeSet :=
  (binaryTables.lookup name).map parseSet

/-- The code points of a binary property, or none when it is unknown. -/
def binarySet (name : String) : CodeSet :=
  (binarySet? name).getD CodeSet.empty

/-! ### Classes -/

/-- The alphabetic code points. -/
def alphabeticSet : CodeSet := binarySet "Alphabetic"

/-- The white space. -/
def whiteSpaceSet : CodeSet := binarySet "White_Space"

/-- The decimal digits. -/
def digitSet : CodeSet := categorySet ["Nd"]

/-- The numeric code points: decimal digits, letter numbers and other numbers. -/
def numericSet : CodeSet := categorySet ["Nd", "Nl", "No"]

/-- The word characters: alphabetic, marks, decimal digits, connector punctuation and the
joining controls. -/
def wordSet : CodeSet :=
  CodeSet.unionAll [alphabeticSet, categorySet ["Mn", "Mc", "Me", "Nd", "Pc"],
    binarySet "Join_Control"]

/-- The assigned code points. -/
def assignedSet : CodeSet := (categorySet ["Cn"]).complement

/-- The alphabetic code points of Unicode 17.0, which the character predicates follow. -/
def recentAlphabeticSet : CodeSet := alphabeticSet.union (parseSet Data.recentAlphabetic)

/-- The numeric code points of Unicode 17.0, which the character predicates follow. -/
def recentNumericSet : CodeSet := numericSet.union (parseSet Data.recentNumeric)

/-- `recentAlphabeticSet` for lookup. -/
def alphabeticTable : CodeTable := recentAlphabeticSet.table

/-- `recentNumericSet` for lookup. -/
def numericTable : CodeTable := recentNumericSet.table

/-- `whiteSpaceSet` for lookup. -/
def whiteSpaceTable : CodeTable := whiteSpaceSet.table

/-- `wordSet` for lookup. -/
def wordTable : CodeTable := wordSet.table

/-- Whether a character is alphabetic (Unicode 17.0). -/
def isAlphabetic (c : Char) : Bool := alphabeticTable.contains c.toNat

/-- Whether a character is alphabetic or numeric (Unicode 17.0). -/
def isAlphanumeric (c : Char) : Bool := isAlphabetic c || numericTable.contains c.toNat

/-- Whether a character is white space. -/
def isWhiteSpace (c : Char) : Bool := whiteSpaceTable.contains c.toNat

/-- Whether a character is a word character. -/
def isWordChar (c : Char) : Bool := wordTable.contains c.toNat

/-! ### Case folding -/

/-- The orbits of simple case folding, each in increasing order. -/
def foldOrbits : Array (List Nat) :=
  ((Data.foldingOrbits.splitOn ",").map fun orbit => (words orbit).filterMap hexValue?).toArray

/-- Every code point that belongs to an orbit, with the orbit's index, in increasing order. -/
def foldIndex : Array (Nat × Nat) :=
  let members := (List.range foldOrbits.size).flatMap fun index =>
    (foldOrbits.getD index []).map fun code => (code, index)
  (members.mergeSort fun x y => x.1 ≤ y.1).toArray

/-- The index of the orbit of a code point among `foldIndex[low, high)`, searched by halving. -/
def orbitIndex? (code : Nat) : Nat → Nat → Nat → Option Nat
  | 0, _, _ => none
  | fuel + 1, low, high =>
    if low < high then
      let middle := (low + high) / 2
      let (member, index) := foldIndex.getD middle (0, 0)
      if code < member then orbitIndex? code fuel low middle
      else if member < code then orbitIndex? code fuel (middle + 1) high
      else some index
    else none

/-- The code points that match a code point regardless of case: its orbit, or itself alone. -/
def orbitOf (code : Nat) : List Nat :=
  match orbitIndex? code 64 0 foldIndex.size with
  | some index => foldOrbits.getD index [code]
  | none => [code]

/-- Whether two characters are equal regardless of case. -/
def foldEqual (c d : Char) : Bool :=
  c == d || (orbitOf c.toNat).contains d.toNat

/-- A set closed under simple case folding: it gains the orbit of each member. -/
def CodeSet.caseFold (s : CodeSet) : CodeSet :=
  let table := s.table
  let extra := foldIndex.toList.filterMap fun (code, index) =>
    if table.contains code then some (foldOrbits.getD index []) else none
  CodeSet.union s (CodeSet.ofRanges (extra.flatten.map fun code => (code, code)))

end Recast.Unicode
