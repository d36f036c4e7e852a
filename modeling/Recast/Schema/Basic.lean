import Recast.Json.Basic
/-!
Schema packs: the classes of a model.

A schema pack names its classes in order. A class has an identifying property, a content
schema (a JSON Schema that every resource's content must satisfy) and typed relations towards
other classes. A relation says for each of its two ends whether many resources may stand there
(`multiple`) and whether at least one must (`mandatory`): `multiple.target` lets one resource
reference many targets, `multiple.origin` lets one target be referenced by many resources.

The names a class uses are its identifying property, the keys of its content schema's
`properties` object and its relations; a name is taken when it is any of them.
-/

namespace Recast

/-- A pair of flags, one for each end of a relation. -/
structure Sides where
  origin : Bool
  target : Bool
  deriving DecidableEq, Inhabited, Repr

/-- Both flags off. -/
def Sides.none : Sides := ⟨false, false⟩

/-- A typed relation towards `targetClass`. -/
structure RelationSpec where
  targetClass : String
  multiple : Sides := Sides.none
  mandatory : Sides := Sides.none
  description : Option String := none
  deriving DecidableEq, Inhabited, Repr

/-- The property that identifies the resources of a class. -/
structure IdSpec where
  propertyName : String
  description : Option String := none
  deriving DecidableEq, Inhabited, Repr

/-- The closed content schema of a class that declares none: an object with no properties. -/
def closedContent : Json :=
  .obj [("type", .str "object"), ("additionalProperties", .bool false)]

/-- One class of a schema pack. -/
structure ClassDef where
  id : IdSpec
  content : Json := closedContent
  relations : Table RelationSpec := []
  description : Option String := none
  deriving Inhabited

/-- A model: classes in order. -/
structure SchemaPack where
  classes : Table ClassDef := []
  deriving Inhabited

namespace ClassDef

/-- A class with the closed content schema and no relations. -/
def new (idProperty : String) : ClassDef :=
  { id := { propertyName := idProperty } }

/-- The keys of the content schema's `properties`, in order, when that is an object. -/
def contentProperties (cls : ClassDef) : List String :=
  match cls.content.field? "properties" with
  | some (.obj properties) => Table.keys properties
  | _ => []

/-- Whether the content schema's `properties` has a key. -/
def hasContentProperty (cls : ClassDef) (name : String) : Bool :=
  cls.contentProperties.contains name

/-- The string entries of the content schema's `required`, in order, when that is an array. -/
def requiredProperties (cls : ClassDef) : List String :=
  match cls.content.field? "required" with
  | some (.arr entries) => entries.filterMap Json.str?
  | _ => []

/-- Whether a name is the identifying property, a content property or a relation. -/
def isNameTaken (cls : ClassDef) (name : String) : Bool :=
  cls.id.propertyName == name || cls.hasContentProperty name || Table.contains cls.relations name

/-- The relation declared under a name. -/
def relation? (cls : ClassDef) (name : String) : Option RelationSpec :=
  Table.get? cls.relations name

/-- Adds or replaces a relation. -/
def withRelation (cls : ClassDef) (name : String) (relation : RelationSpec) : ClassDef :=
  { cls with relations := Table.insert cls.relations name relation }

/-- Whether a name is a content property is read off the `properties` object alone. -/
theorem hasContentProperty_eq {cls : ClassDef} {properties : Table Json} (name : String)
    (found : cls.content.field? "properties" = some (.obj properties)) :
    cls.hasContentProperty name = Table.contains properties name := by
  rw [Bool.eq_iff_iff, Table.contains_eq_true_iff]
  simp [hasContentProperty, contentProperties, found]

theorem isNameTaken_of_hasContentProperty {cls : ClassDef} {name : String}
    (declared : cls.hasContentProperty name = true) : cls.isNameTaken name = true := by
  simp [isNameTaken, declared]

theorem isNameTaken_of_relation?_eq_some {cls : ClassDef} {name : String} {spec : RelationSpec}
    (found : cls.relation? name = some spec) : cls.isNameTaken name = true := by
  simp [isNameTaken, Table.contains_of_get?_eq_some found]

theorem isNameTaken_withRelation (cls : ClassDef) (name : String) (relation : RelationSpec) :
    (cls.withRelation name relation).isNameTaken name = true := by
  simp [isNameTaken, withRelation, Table.contains_insert_self]

end ClassDef

namespace SchemaPack

/-- The class under a name. -/
def cls? (pack : SchemaPack) (name : String) : Option ClassDef :=
  Table.get? pack.classes name

/-- Adds or replaces a class. -/
def withClass (pack : SchemaPack) (name : String) (cls : ClassDef) : SchemaPack :=
  { classes := Table.insert pack.classes name cls }

/-- The class names in order. -/
def classNames (pack : SchemaPack) : List String :=
  Table.keys pack.classes

@[simp]
theorem cls?_withClass_self (pack : SchemaPack) (name : String) (cls : ClassDef) :
    (pack.withClass name cls).cls? name = some cls :=
  Table.get?_insert_self pack.classes name cls

theorem cls?_withClass_of_ne (pack : SchemaPack) {name other : String} (cls : ClassDef)
    (differ : other ≠ name) : (pack.withClass name cls).cls? other = pack.cls? other :=
  Table.get?_insert_of_ne pack.classes cls differ

/-- Replacing a class that exists keeps the set of classes. -/
theorem isSome_cls?_withClass {pack : SchemaPack} {name : String} {old : ClassDef}
    (present : pack.cls? name = some old) (cls : ClassDef) (other : String) :
    ((pack.withClass name cls).cls? other).isSome = (pack.cls? other).isSome := by
  by_cases same : other = name
  · subst same
    simp [present]
  · rw [cls?_withClass_of_ne pack cls same]

end SchemaPack

end Recast
