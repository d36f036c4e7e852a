import Recast.Transform.Basic
/-!
Removing relations from a class and their instances from all of its resources.
-/

namespace Recast

open Json

/-- The configuration of `delete_relations`. -/
structure DeleteRelationsConfig where
  className : String
  relationNames : List String
  deriving DecidableEq, Inhabited, Repr

namespace DeleteRelationsConfig

/-- How the configuration is read; members that are not fields are refused. -/
def record : RecordSpec :=
  ⟨"DeleteRelationsConfig",
    [.required "class_name" Decoder.string,
     .required "relation_names" (Decoder.list Decoder.string)], true⟩

/-- Reads the configuration. -/
def decode : Decoder DeleteRelationsConfig := fun node => do
  let present ← record.read node
  pure { className := ← Decoder.field present "class_name" Decoder.string
         relationNames := ← Decoder.field present "relation_names" (Decoder.list Decoder.string) }

/-- Writes the configuration. -/
def toJson (config : DeleteRelationsConfig) : Json :=
  .obj [("class_name", .str config.className),
    ("relation_names", .arr (config.relationNames.map .str))]

/-- The class exists and declares every relation named. -/
def check (config : DeleteRelationsConfig) (model : SchemaPack) : Except AssumptionError Unit := do
  let _ ← model.requireClass config.className
  config.relationNames.forM fun relation => do
    let _ ← model.requireRelation config.className relation

/-- Removes the relations from the class; a model without the class is left as it is. -/
def reshapeModel (config : DeleteRelationsConfig) (model : SchemaPack) :
    Except ReshapeError SchemaPack :=
  match model.cls? config.className with
  | none => .ok model
  | some cls =>
    .ok (model.withClass config.className
      { cls with relations := Content.eraseAll cls.relations config.relationNames })

/-- Removes the relation instances from every resource of the class. -/
def reshapeData (config : DeleteRelationsConfig) (data : DataPack) : Except DataFault DataPack :=
  data.editResources config.className fun _ resource =>
    .ok { resource with links := Content.eraseAll resource.links config.relationNames }

end DeleteRelationsConfig

end Recast
