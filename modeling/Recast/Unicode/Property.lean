import Recast.Unicode.Tables
import Recast.Unicode.Data.Names
/-!
Unicode classes by name, as `\p{...}` writes them.

Names match loosely: case, blanks, `_` and `-` do not count, nor does a leading `is`, and
characters outside ASCII are dropped. A single name is read as a binary property when it names
a property (only binary ones give a class; `cf`, `sc` and `lc` are left to the categories), else
as a general category or group of categories (with `Any`, `Assigned` and `ASCII`), else as a
script. A name with a value picks, by the value's name, the general category, the script, the script
extensions, the code points assigned up to a version (`Age`), or a value of the grapheme cluster,
word or sentence break property.
-/

namespace Recast.Unicode

/-- Why a name gives no class. -/
inductive PropertyFault where
  | unknownProperty
  | unknownValue
  deriving Inhabited, BEq, Repr

/-- The loose form of a name, in which names that match loosely are equal. -/
def looseName (name : String) : String :=
  let chars := name.toList
  let (prefixed, rest) : Bool × List Char :=
    match chars with
    | first :: second :: rest =>
      if (first == 'i' || first == 'I') && (second == 's' || second == 'S') then (true, rest)
      else (false, chars)
    | _ => (false, chars)
  let kept := rest.filterMap fun c =>
    if c == ' ' || c == '_' || c == '-' then none
    else if 'A' ≤ c && c ≤ 'Z' then some (Char.ofNat (c.toNat + 32))
    else if c.toNat ≤ 0x7F then some c
    else none
  if prefixed && kept == ['c'] then "isc" else String.ofList kept

/-- The entries of a name table: the names of one thing each. -/
def nameEntries (text : String) : List (List String) :=
  (words text).map (·.splitOn "/")

/-- Every name of every entry in loose form, with what `pick` makes of its entry. -/
def looseIndex (text : String) (pick : List String → String) : List (String × String) :=
  (nameEntries text).flatMap fun entry => entry.map fun name => (looseName name, pick entry)

/-- The long name of an entry: its second name, or its only one. -/
def longName : List String → String
  | [only] => only
  | _ :: long :: _ => long
  | [] => ""

/-- The short name of an entry: its first name. -/
def shortName : List String → String
  | first :: _ => first
  | [] => ""

/-- Every property name in loose form, with the property's long name. -/
def propertyIndex : List (String × String) := looseIndex Data.propertyNames longName

/-- Every category name in loose form, with the category's short name. -/
def categoryIndex : List (String × String) := looseIndex Data.categoryNames shortName

/-- Every script name in loose form, with the script's code. -/
def scriptIndex : List (String × String) := looseIndex Data.scriptNames shortName

/-- Every version name in loose form, with the version number. -/
def ageIndex : List (String × String) := looseIndex Data.ageNames shortName

/-- Every grapheme cluster break value's name in loose form, with its short name. -/
def graphemeBreakIndex : List (String × String) := looseIndex Data.graphemeBreakNames shortName

/-- Every word break value's name in loose form, with its short name. -/
def wordBreakIndex : List (String × String) := looseIndex Data.wordBreakNames shortName

/-- Every sentence break value's name in loose form, with its short name. -/
def sentenceBreakIndex : List (String × String) := looseIndex Data.sentenceBreakNames shortName

/-- The class of a break property's value, by a name in loose form: the default value `Other`,
and values that no code point takes, give none. -/
def breakClass (index : List (String × String)) (spans : List (Nat × Nat × String))
    (loose : String) : Except PropertyFault CodeSet :=
  match index.lookup loose with
  | none | some "XX" => .error .unknownValue
  | some short =>
    let set := spansSet spans short
    if set.ranges.isEmpty then .error .unknownValue else .ok set

/-- The class of a general category, group of categories, `Any`, `Assigned` or `ASCII`, by a
name in loose form. -/
def categoryClass? (loose : String) : Option CodeSet :=
  match loose with
  | "any" => some CodeSet.all
  | "assigned" => some assignedSet
  | "ascii" => some (CodeSet.span 0 0x7F)
  | _ => (categoryIndex.lookup loose).map fun short => categorySet (categoryMembers short)

/-- The class one name gives: a binary property, a category or a script. -/
def namedClass (name : String) : Except PropertyFault CodeSet :=
  let loose := looseName name
  let property := if loose == "cf" || loose == "sc" || loose == "lc" then none
    else propertyIndex.lookup loose
  match property with
  | some long =>
    match binarySet? long with
    | some set => .ok set
    | none => .error .unknownProperty
  | none =>
    match categoryClass? loose with
    | some set => .ok set
    | none =>
      match scriptIndex.lookup loose with
      | some code => .ok (scriptSet code)
      | none => .error .unknownProperty

/-- The class a property and a value give: a general category, a script, the code points of a
script's extensions, those assigned up to a version, or a break property's value. -/
def valueClass (name value : String) : Except PropertyFault CodeSet :=
  let value := looseName value
  match propertyIndex.lookup (looseName name) with
  | none => .error .unknownProperty
  | some "General_Category" =>
    match categoryClass? value with
    | some set => .ok set
    | none => .error .unknownValue
  | some "Script" =>
    match scriptIndex.lookup value with
    | some code => .ok (scriptSet code)
    | none => .error .unknownValue
  | some "Script_Extensions" =>
    match scriptIndex.lookup value with
    | some code => .ok (extensionSet code)
    | none => .error .unknownValue
  | some "Age" =>
    match ageIndex.lookup value with
    | none | some "NA" => .error .unknownValue
    | some version => .ok (ageSet version)
  | some "Grapheme_Cluster_Break" => breakClass graphemeBreakIndex graphemeBreakSpans value
  | some "Word_Break" => breakClass wordBreakIndex wordBreakSpans value
  | some "Sentence_Break" => breakClass sentenceBreakIndex sentenceBreakSpans value
  | some _ => .error .unknownValue

end Recast.Unicode
