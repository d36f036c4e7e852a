import Recast.Regex.Standard.Tree
import Recast.Unicode.Property
/-!
The characters a class stands for.

Perl classes stand for Unicode sets: `\d` for the decimal digits, `\s` for the white space, `\w`
for the word characters. ASCII classes stand for their ASCII sets, and Unicode classes for the
set their name gives (`Recast.Unicode.namedClass`, `Recast.Unicode.valueClass`).

Without regard to case, a bracketed class and each side of a set operation are closed under
simple case folding before a negation applies, so `(?i)[^x]` leaves out both `x` and `X`; a
Unicode class is closed under folding the same way. Perl classes are closed under folding
already.
-/

namespace Recast.Regex.Standard

open Recast.Unicode

/-- The ASCII set of an ASCII class. -/
def asciiClassSet (name : String) : CodeSet :=
  let pairs : List (Nat × Nat) := match name with
    | "alnum" => [(0x30, 0x39), (0x41, 0x5A), (0x61, 0x7A)]
    | "alpha" => [(0x41, 0x5A), (0x61, 0x7A)]
    | "ascii" => [(0x00, 0x7F)]
    | "blank" => [(0x09, 0x09), (0x20, 0x20)]
    | "cntrl" => [(0x00, 0x1F), (0x7F, 0x7F)]
    | "digit" => [(0x30, 0x39)]
    | "graph" => [(0x21, 0x7E)]
    | "lower" => [(0x61, 0x7A)]
    | "print" => [(0x20, 0x7E)]
    | "punct" => [(0x21, 0x2F), (0x3A, 0x40), (0x5B, 0x60), (0x7B, 0x7E)]
    | "space" => [(0x09, 0x0D), (0x20, 0x20)]
    | "upper" => [(0x41, 0x5A)]
    | "word" => [(0x30, 0x39), (0x41, 0x5A), (0x5F, 0x5F), (0x61, 0x7A)]
    | "xdigit" => [(0x30, 0x39), (0x41, 0x46), (0x61, 0x66)]
    | _ => []
  CodeSet.ofRanges pairs

/-- A set, or its complement. -/
def negateIf (negated : Bool) (set : CodeSet) : CodeSet :=
  if negated then set.complement else set

/-- A set, closed under case folding when case does not count. -/
def foldIf (caseless : Bool) (set : CodeSet) : CodeSet :=
  if caseless then set.caseFold else set

/-- The Unicode set of a Perl class. -/
def PerlClass.set (cls : PerlClass) : CodeSet :=
  negateIf cls.negated (match cls.kind with
    | .digit => digitSet
    | .space => whiteSpaceSet
    | .word => wordSet)

/-- The set of a Unicode class; a `!=` between name and value negates it as `\P` does. -/
def PropertyClass.set (caseless : Bool) (cls : PropertyClass) : Except PropertyFault CodeSet := do
  let (found, notEqual) ← match cls.query with
    | .letter c => do pure ((← namedClass (String.singleton c)), false)
    | .named name => do pure ((← namedClass name), false)
    | .valued name operator value => do pure ((← valueClass name value), operator == "!=")
  pure (negateIf (cls.negated != notEqual) (foldIf caseless found))

/-- The characters that match a literal: itself, or its orbit under case folding. -/
def literalSet (caseless : Bool) (c : Char) : CodeSet :=
  if caseless then CodeSet.ofRanges ((orbitOf c.toNat).map fun code => (code, code))
  else CodeSet.single c.toNat

mutual

/-- The set of the inside of a bracketed class. -/
def ClassSet.set (caseless : Bool) : ClassSet → Except PropertyFault CodeSet
  | .literal lit => pure (CodeSet.single lit.char.toNat)
  | .range low high => pure (CodeSet.span low.char.toNat high.char.toNat)
  | .ascii name negated => pure (negateIf negated (asciiClassSet name))
  | .property cls => cls.set caseless
  | .perl cls => pure cls.set
  | .bracket negated body => do pure (negateIf negated (foldIf caseless (← body.set caseless)))
  | .union items => ClassSet.unionSet caseless items
  | .operation kind left right => do
    let left := foldIf caseless (← left.set caseless)
    let right := foldIf caseless (← right.set caseless)
    pure (match kind with
      | .intersection => left.inter right
      | .difference => left.diff right
      | .symmetricDifference => left.symmDiff right)

/-- The union of the sets of class members. -/
def ClassSet.unionSet (caseless : Bool) : List ClassSet → Except PropertyFault CodeSet
  | [] => pure CodeSet.empty
  | item :: rest => do pure ((← item.set caseless).union (← ClassSet.unionSet caseless rest))

end

/-- The set of a bracketed class. -/
def bracketSet (caseless : Bool) (negated : Bool) (body : ClassSet) : Except PropertyFault CodeSet := do
  pure (negateIf negated (foldIf caseless (← body.set caseless)))

end Recast.Regex.Standard
