import Recast.Schema.Basic
/-!
Well-formed schema packs.

A schema pack is well formed when, class by class in order, no name is used twice among the
identifying property, the content properties and the relations (the first repeat is reported),
and every relation targets a class of the pack. Content schemas are not looked at here beyond
the keys of their `properties`; whether they are valid JSON Schemas is decided when a validator
is built for the pack.
-/

namespace Recast

/-- Why a schema pack is not well formed. -/
inductive PackError where
  /-- A relation targets a class the pack does not define. -/
  | unknownTargetClass (cls relation targetClass : String)
  /-- A class uses a name twice across its identifying property, content and relations. -/
  | nameCollision (cls name : String)
  /-- A content schema is not a valid JSON Schema. -/
  | invalidContentSchema (cls message : String)
  deriving DecidableEq, Inhabited, Repr

/-- The text of a pack error. -/
def PackError.message : PackError → String
  | .unknownTargetClass cls relation targetClass =>
    "Relation '" ++ cls ++ "." ++ relation ++ "' targets unknown class '" ++ targetClass ++ "'"
  | .nameCollision cls name =>
    "Class '" ++ cls ++ "' uses the name '" ++ name ++
      "' more than once across id, content and relations"
  | .invalidContentSchema cls message =>
    "Content schema of class '" ++ cls ++ "' is invalid: " ++ message

namespace ClassDef

/-- The names a class uses, in the order they are checked: identifying property, content
properties, relations. -/
def usedNames (cls : ClassDef) : List String :=
  cls.id.propertyName :: (cls.contentProperties ++ Table.keys cls.relations)

end ClassDef

/-- The first name that repeats an earlier one. -/
def firstRepeat : List String → List String → Option String
  | _, [] => none
  | seen, name :: rest => if seen.contains name then some name else firstRepeat (name :: seen) rest

namespace SchemaPack

/-- Checks one class: names first, then relation targets. -/
def checkClass (pack : SchemaPack) (name : String) (cls : ClassDef) : Except PackError Unit := do
  match firstRepeat [] cls.usedNames with
  | some repeated => throw (.nameCollision name repeated)
  | none => pure ()
  for (relationName, relation) in cls.relations do
    if !Table.contains pack.classes relation.targetClass then
      throw (.unknownTargetClass name relationName relation.targetClass)

/-- Checks that a schema pack is well formed, class by class in order. -/
def check (pack : SchemaPack) : Except PackError Unit :=
  pack.classes.forM fun (name, cls) => pack.checkClass name cls

end SchemaPack

end Recast
