import Recast.Schema.Basic
import Recast.Json.Decode
/-!
Schema packs as JSON.

A schema pack is written `{"classes": {name: class}}`; a class
`{"id", "content", "relations", "description"?}`; a relation
`{"targetClass", "multiple", "mandatory", "description"?}`; a pair of flags
`{"origin", "target"}`. An absent description is left out.

Reading is lenient where writing is strict: a missing `content` is the closed schema, missing
`relations` none, missing `multiple` or `mandatory` both flags off, and members that are not
fields are skipped. A pair of flags, once present, needs both.
-/

namespace Recast

open Json

namespace Sides

/-- How a pair of flags is read. -/
def record : RecordSpec :=
  ⟨"Sides", [.required "origin" Decoder.bool, .required "target" Decoder.bool], false⟩

/-- Reads a pair of flags. -/
def decode : Decoder Sides := fun node => do
  let present ← record.read node
  pure ⟨← Decoder.field present "origin" Decoder.bool,
    ← Decoder.field present "target" Decoder.bool⟩

/-- Writes a pair of flags. -/
def toJson (sides : Sides) : Json :=
  .obj [("origin", .bool sides.origin), ("target", .bool sides.target)]

end Sides

/-- A description member, left out when absent. -/
def descriptionField : Option String → List (String × Json)
  | some text => [("description", .str text)]
  | none => []

namespace RelationSpec

/-- How a relation is read. -/
def record : RecordSpec :=
  ⟨"RelationSpec",
    [.required "targetClass" Decoder.string, .defaulted "multiple" Sides.decode,
     .defaulted "mandatory" Sides.decode, .defaulted "description" (Decoder.option Decoder.string)],
    false⟩

/-- Reads a relation. -/
def decode : Decoder RelationSpec := fun node => do
  let present ← record.read node
  pure { targetClass := ← Decoder.field present "targetClass" Decoder.string
         multiple := ← Decoder.fieldOr present "multiple" Sides.decode Sides.none
         mandatory := ← Decoder.fieldOr present "mandatory" Sides.decode Sides.none
         description := ← Decoder.fieldOr present "description" (Decoder.option Decoder.string) none }

/-- Writes a relation. -/
def toJson (relation : RelationSpec) : Json :=
  .obj ([("targetClass", .str relation.targetClass), ("multiple", relation.multiple.toJson),
    ("mandatory", relation.mandatory.toJson)] ++ descriptionField relation.description)

end RelationSpec

namespace IdSpec

/-- How an identifying property is read. -/
def record : RecordSpec :=
  ⟨"IdSpec", [.required "propertyName" Decoder.string,
    .defaulted "description" (Decoder.option Decoder.string)], false⟩

/-- Reads an identifying property. -/
def decode : Decoder IdSpec := fun node => do
  let present ← record.read node
  pure { propertyName := ← Decoder.field present "propertyName" Decoder.string
         description := ← Decoder.fieldOr present "description" (Decoder.option Decoder.string) none }

/-- Writes an identifying property. -/
def toJson (id : IdSpec) : Json :=
  .obj ([("propertyName", .str id.propertyName)] ++ descriptionField id.description)

end IdSpec

namespace ClassDef

/-- How a class is read. -/
def record : RecordSpec :=
  ⟨"ClassDefinition",
    [.required "id" IdSpec.decode, .defaulted "content" Decoder.json,
     .defaulted "relations" (Decoder.table RelationSpec.decode),
     .defaulted "description" (Decoder.option Decoder.string)], false⟩

/-- Reads a class. -/
def decode : Decoder ClassDef := fun node => do
  let present ← record.read node
  pure { id := ← Decoder.field present "id" IdSpec.decode
         content := ← Decoder.fieldOr present "content" Decoder.json closedContent
         relations := ← Decoder.fieldOr present "relations" (Decoder.table RelationSpec.decode) []
         description := ← Decoder.fieldOr present "description" (Decoder.option Decoder.string) none }

/-- Writes a class. -/
def toJson (cls : ClassDef) : Json :=
  .obj ([("id", cls.id.toJson), ("content", cls.content),
    ("relations", .obj (Table.mapValues cls.relations RelationSpec.toJson))] ++
    descriptionField cls.description)

end ClassDef

namespace SchemaPack

/-- How a schema pack is read. -/
def record : RecordSpec :=
  ⟨"SchemaPack", [.required "classes" (Decoder.table ClassDef.decode)], false⟩

/-- Reads a schema pack. -/
def decode : Decoder SchemaPack := fun node => do
  let present ← record.read node
  pure { classes := ← Decoder.field present "classes" (Decoder.table ClassDef.decode) }

/-- Writes a schema pack. -/
def toJson (pack : SchemaPack) : Json :=
  .obj [("classes", .obj (Table.mapValues pack.classes ClassDef.toJson))]

end SchemaPack

end Recast
