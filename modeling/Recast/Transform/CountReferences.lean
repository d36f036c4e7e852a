import Recast.Transform.Basic
import Recast.Path.Multiplicity
import Recast.Path.Resolve
/-!
Counting, for each resource of a class, the resources a relation path reaches from it.

The count is stored in a new required integer content property, with the schema
`{"type": "integer", "minimum": 0}`.
-/

namespace Recast

open Json

/-- The configuration of `count_references`. -/
structure CountReferencesConfig where
  className : String
  relationPath : RelationPath
  contentProperty : String
  deriving Inhabited

namespace CountReferencesConfig

/-- How the configuration is read; members that are not fields are refused. -/
def record : RecordSpec :=
  ⟨"CountReferencesConfig",
    [.required "class_name" Decoder.string, .required "relation_path" RelationPath.decode,
     .required "content_property" Decoder.string], true⟩

/-- Reads the configuration. -/
def decode : Decoder CountReferencesConfig := fun node => do
  let present ← record.read node
  pure { className := ← Decoder.field present "class_name" Decoder.string
         relationPath := ← Decoder.field present "relation_path" RelationPath.decode
         contentProperty := ← Decoder.field present "content_property" Decoder.string }

/-- Writes the configuration. -/
def toJson (config : CountReferencesConfig) : Json :=
  .obj [("class_name", .str config.className), ("relation_path", .str config.relationPath.canonical),
    ("content_property", .str config.contentProperty)]

/-- The schema of the new property. -/
def countSchema : Json :=
  .obj [("type", .str "integer"), ("minimum", .nat 0)]

/-- The path starts at the class and can be walked in the model, and the name is free. -/
def check (config : CountReferencesConfig) (model : SchemaPack) : Except AssumptionError Unit := do
  let _ ← model.checkPathFrom config.className config.relationPath
  model.requireNameFree config.className config.contentProperty

/-- Adds the count property to the class's `properties` and `required`. -/
def reshapeModel (config : CountReferencesConfig) (model : SchemaPack) :
    Except ReshapeError SchemaPack :=
  let refused := ReshapeError.notAnObject config.className
  model.editClass config.className refused fun cls => do
    let content ← orError refused (Content.editProperties cls.content
      (Table.insert · config.contentProperty countSchema))
    let content ← orError refused (Content.appendRequired content config.contentProperty)
    pure { cls with content := content }

/-- Stores in every resource of the class the number of resources the path reaches. -/
def reshapeData (config : CountReferencesConfig) (data : DataPack) : Except DataFault DataPack :=
  let resolver := Resolver.new data config.relationPath
  data.editResources config.className fun id resource =>
    resource.editContent "count_references" config.className id
      (Table.insert · config.contentProperty (.nat (resolver.resolve id).length))

end CountReferencesConfig

end Recast
