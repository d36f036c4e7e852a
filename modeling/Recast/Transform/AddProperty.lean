import Recast.Transform.Basic
import Recast.JsonSchema.Compile
import Recast.Json.Printer
/-!
Adding a content property to a class, with one value for every resource.

The property's schema must be a usable JSON Schema and the value must satisfy it, so that every
resource satisfies the new content schema. The property is listed as required unless the
configuration says otherwise.
-/

namespace Recast

open Json

/-- The configuration of `add_content_property`. -/
structure AddPropertyConfig where
  className : String
  propertyName : String
  schema : Json
  value : Json
  required : Bool := true
  deriving Inhabited

namespace AddPropertyConfig

/-- How the configuration is read; members that are not fields are refused. -/
def record : RecordSpec :=
  ⟨"AddContentPropertyConfig",
    [.required "class_name" Decoder.string, .required "property_name" Decoder.string,
     .required "schema" Decoder.json, .required "value" Decoder.json,
     .defaulted "required" Decoder.bool], true⟩

/-- Reads the configuration. -/
def decode : Decoder AddPropertyConfig := fun node => do
  let present ← record.read node
  pure { className := ← Decoder.field present "class_name" Decoder.string
         propertyName := ← Decoder.field present "property_name" Decoder.string
         schema := ← Decoder.field present "schema" Decoder.json
         value := ← Decoder.field present "value" Decoder.json
         required := ← Decoder.fieldOr present "required" Decoder.bool true }

/-- Writes the configuration, defaults included. -/
def toJson (config : AddPropertyConfig) : Json :=
  .obj [("class_name", .str config.className), ("property_name", .str config.propertyName),
    ("schema", config.schema), ("value", config.value), ("required", .bool config.required)]

/-- The class exists, the name is free in it, the schema is usable and admits the value. -/
def check (config : AddPropertyConfig) (model : SchemaPack) : Except AssumptionError Unit := do
  model.requireNameFree config.className config.propertyName
  match JsonSchema.Validator.compile config.schema with
  | .error failure =>
    throw (.invalidConfig config.className
      ("schema of '" ++ config.propertyName ++ "' is invalid: " ++ failure.message))
  | .ok validator =>
    if !validator.admits config.value then
      throw (.invalidConfig config.className
        ("value " ++ config.value.compact ++ " does not match the schema of '" ++
          config.propertyName ++ "'"))

/-- Adds the property's schema to the class's `properties`, and its name to `required`. -/
def reshapeModel (config : AddPropertyConfig) (model : SchemaPack) :
    Except ReshapeError SchemaPack :=
  let refused := ReshapeError.notAnObject config.className
  model.editClass config.className refused fun cls => do
    let content ← orError refused (Content.editProperties cls.content
      (Table.insert · config.propertyName config.schema))
    let content ← if config.required then
        orError refused (Content.appendRequired content config.propertyName)
      else pure content
    pure { cls with content := content }

/-- Sets the property to the value in every resource of the class. -/
def reshapeData (config : AddPropertyConfig) (data : DataPack) : Except DataFault DataPack :=
  data.editResources config.className fun id resource =>
    resource.editContent "add_content_property" config.className id
      (Table.insert · config.propertyName config.value)

end AddPropertyConfig

end Recast
