import Recast.Transform.Basic
/-!
Removing content properties from a class and from all of its resources.

Each property must be declared in the class's `properties`. The names also leave the
`required` list; the remaining properties and required entries keep their order.
-/

namespace Recast

open Json

/-- The configuration of `delete_content_properties`. -/
structure DeletePropertiesConfig where
  className : String
  propertyNames : List String
  deriving DecidableEq, Inhabited, Repr

namespace DeletePropertiesConfig

/-- How the configuration is read; members that are not fields are refused. -/
def record : RecordSpec :=
  ⟨"DeleteContentPropertiesConfig",
    [.required "class_name" Decoder.string,
     .required "property_names" (Decoder.list Decoder.string)], true⟩

/-- Reads the configuration. -/
def decode : Decoder DeletePropertiesConfig := fun node => do
  let present ← record.read node
  pure { className := ← Decoder.field present "class_name" Decoder.string
         propertyNames := ← Decoder.field present "property_names" (Decoder.list Decoder.string) }

/-- Writes the configuration. -/
def toJson (config : DeletePropertiesConfig) : Json :=
  .obj [("class_name", .str config.className),
    ("property_names", .arr (config.propertyNames.map .str))]

/-- The class exists and declares every property named. -/
def check (config : DeletePropertiesConfig) (model : SchemaPack) : Except AssumptionError Unit := do
  let _ ← model.requireClass config.className
  config.propertyNames.forM fun property => do
    let cls ← model.requireClass config.className
    if !cls.hasContentProperty property then
      throw (.contentPropertyNotFound config.className property)

/-- Removes the properties from the content schema and from its `required` list. -/
def reshapeModel (config : DeletePropertiesConfig) (model : SchemaPack) :
    Except ReshapeError SchemaPack :=
  let refused := ReshapeError.notAnObject config.className
  model.editClass config.className refused fun cls => do
    let content ← orError refused (Content.editProperties cls.content
      (Content.eraseAll · config.propertyNames))
    pure { cls with content := Content.dropRequired content config.propertyNames }

/-- Removes the properties from the content of every resource of the class. -/
def reshapeData (config : DeletePropertiesConfig) (data : DataPack) : Except DataFault DataPack :=
  data.editResources config.className fun id resource =>
    resource.editContent "delete_content_properties" config.className id
      (Content.eraseAll · config.propertyNames)

end DeletePropertiesConfig

end Recast
