import Recast.Transform.Basic
import Recast.Path.Multiplicity
import Recast.Path.Resolve
/-!
Turning a relation path into a direct relation.

The new relation goes from the class the path starts at to the class it ends at. Its
multiplicity is the path's: several targets when some hop fans out forwards, several origins
when some hop fans out backwards; neither side is mandatory. With `expect_single`, a path that
can reach several targets is refused instead.

Each resource of the class gets the targets the path reaches from it: all of them as a set when
the relation allows several, otherwise the one target when there is exactly one.
-/

namespace Recast

open Json

/-- The configuration of `infer_relation`. -/
structure InferRelationConfig where
  className : String
  relationName : String
  relationPath : RelationPath
  expectSingle : Bool := false
  deriving Inhabited

namespace InferRelationConfig

/-- How the configuration is read; members that are not fields are refused. -/
def record : RecordSpec :=
  ⟨"InferRelationConfig",
    [.required "class_name" Decoder.string, .required "relation_name" Decoder.string,
     .required "relation_path" RelationPath.decode, .defaulted "expect_single" Decoder.bool], true⟩

/-- Reads the configuration. -/
def decode : Decoder InferRelationConfig := fun node => do
  let present ← record.read node
  pure { className := ← Decoder.field present "class_name" Decoder.string
         relationName := ← Decoder.field present "relation_name" Decoder.string
         relationPath := ← Decoder.field present "relation_path" RelationPath.decode
         expectSingle := ← Decoder.fieldOr present "expect_single" Decoder.bool false }

/-- Writes the configuration, defaults included. -/
def toJson (config : InferRelationConfig) : Json :=
  .obj [("class_name", .str config.className), ("relation_name", .str config.relationName),
    ("relation_path", .str config.relationPath.canonical), ("expect_single", .bool config.expectSingle)]

/-- The path starts at the class and can be walked, the name is free, and with `expect_single`
the path reaches one target at most. -/
def check (config : InferRelationConfig) (model : SchemaPack) : Except AssumptionError Unit := do
  let fans ← model.checkPathFrom config.className config.relationPath
  model.requireNameFree config.className config.relationName
  if config.expectSingle && fans.target then
    throw (.multiplicity config.relationPath.canonical
      ("a single target was expected, but the path can reach several '" ++
        config.relationPath.target ++ "' resources"))

/-- Adds the relation, with the path's multiplicity, to the class. -/
def reshapeModel (config : InferRelationConfig) (model : SchemaPack) :
    Except ReshapeError SchemaPack :=
  match config.relationPath.multiplicity model with
  | .error error => .error (.contentSchema config.className error.message)
  | .ok fans =>
    model.editClass config.className
      (.contentSchema config.className "class disappeared during transformation") fun cls =>
        pure (cls.withRelation config.relationName
          { targetClass := config.relationPath.target, multiple := ⟨fans.origin, fans.target⟩ })

/-- Links every resource of the class to what the path reaches from it; whether the relation
holds a set is read from the output model. -/
def reshapeData (config : InferRelationConfig) (data : DataPack) (output : SchemaPack) :
    Except DataFault DataPack := do
  let relation ← match output.requireRelation config.className config.relationName with
    | .ok relation => pure relation
    | .error error => throw ⟨"infer_relation", error.message⟩
  let resolver := Resolver.new data config.relationPath
  let targetClass := config.relationPath.target
  data.editResources config.className fun id resource => do
    let targets ← if relation.multiple.target then pure (some (Targets.many (resolver.resolve id)))
      else do
        let single ← resolver.resolveSingle id "infer_relation"
        pure (single.map Targets.single)
    match targets with
    | some targets => pure (resource.withLink config.relationName ⟨targetClass, targets⟩)
    | none => pure resource

end InferRelationConfig

end Recast
