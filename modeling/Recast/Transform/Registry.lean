import Recast.Transform.AddProperty
import Recast.Transform.DeleteProperties
import Recast.Transform.DeleteRelations
import Recast.Transform.CountReferences
import Recast.Transform.InferRelation
/-!
The registry of transformations: each kind with its configuration.

A `Transformation` is written `{"transformation": name, "config": {...}}`. Reading one by name
(`Transformation.fromParts`) reads the configuration of the kind registered under the name; a
configuration is refused when it has members that are not its fields. The three stages of a
transformation dispatch to its kind.
-/

namespace Recast

open Json

/-- A transformation kind together with its configuration. -/
inductive Transformation where
  | addContentProperty (config : AddPropertyConfig)
  | deleteContentProperties (config : DeletePropertiesConfig)
  | deleteRelations (config : DeleteRelationsConfig)
  | countReferences (config : CountReferencesConfig)
  | inferRelation (config : InferRelationConfig)
  deriving Inhabited

/-- Why a configuration cannot be read for a transformation name. -/
inductive ConfigError where
  | unknownTransformation (name : String)
  | invalidConfig (transformation message : String)
  deriving DecidableEq, Inhabited, Repr

/-- The text of a configuration error. -/
def ConfigError.message : ConfigError → String
  | .unknownTransformation name => "Unknown transformation '" ++ name ++ "'"
  | .invalidConfig transformation message =>
    "Configuration does not match transformation '" ++ transformation ++ "': " ++ message

namespace Transformation

/-- The registered names, in registry order. -/
def names : List String :=
  ["add_content_property", "delete_content_properties", "delete_relations", "count_references",
    "infer_relation"]

/-- Whether a name is registered. -/
def isRegistered (name : String) : Bool :=
  names.contains name

/-- The name a transformation is registered under. -/
def name : Transformation → String
  | .addContentProperty _ => "add_content_property"
  | .deleteContentProperties _ => "delete_content_properties"
  | .deleteRelations _ => "delete_relations"
  | .countReferences _ => "count_references"
  | .inferRelation _ => "infer_relation"

/-- The configuration, written. -/
def configJson : Transformation → Json
  | .addContentProperty config => config.toJson
  | .deleteContentProperties config => config.toJson
  | .deleteRelations config => config.toJson
  | .countReferences config => config.toJson
  | .inferRelation config => config.toJson

/-- A transformation, written with its name as tag. -/
def toJson (transformation : Transformation) : Json :=
  .obj [("transformation", .str transformation.name), ("config", transformation.configJson)]

/-- How the configuration of the kind registered under a name is read. -/
def decoderFor : String → Option (Decoder Transformation)
  | "add_content_property" => some fun node => (AddPropertyConfig.decode node).map .addContentProperty
  | "delete_content_properties" =>
    some fun node => (DeletePropertiesConfig.decode node).map .deleteContentProperties
  | "delete_relations" => some fun node => (DeleteRelationsConfig.decode node).map .deleteRelations
  | "count_references" => some fun node => (CountReferencesConfig.decode node).map .countReferences
  | "infer_relation" => some fun node => (InferRelationConfig.decode node).map .inferRelation
  | _ => none

/-- Reads the configuration of the transformation registered under a name. -/
def fromParts (name : String) (config : Json) : Except ConfigError Transformation :=
  match decoderFor name with
  | none => .error (.unknownTransformation name)
  | some decode =>
    match Decoder.ofJson decode config with
    | .ok transformation => .ok transformation
    | .error error => .error (.invalidConfig name error.valueMessage)

/-! ### Reading the tagged form -/

/-- The expectation a tagged transformation is read with. -/
def expecting : String := "adjacently tagged enum TransformationConfig"

/-- Reads the tag: a registered name, or a registry position. -/
def readTag (node : Node) : Except DecodeError (Decoder Transformation) :=
  match node with
  | .scalar (.str tag) _ _ =>
    match decoderFor tag with
    | some decode => .ok decode
    | none => .error (node.failAfter ("unknown variant `" ++ tag ++ "`, expected " ++ oneOf names))
  | .scalar (.num (.int index)) _ _ =>
    if index < 0 then .error (node.mismatch "variant identifier")
    else
      match names[index.toNat]? with
      | some tag => orDecoder (decoderFor tag)
      | none => outOfRange index
  | node => .error (node.mismatch "variant identifier")
where
  orDecoder : Option (Decoder Transformation) → Except DecodeError (Decoder Transformation)
    | some decode => .ok decode
    | none => .error (node.failAfter "unknown variant")
  outOfRange (index : Int) : Except DecodeError (Decoder Transformation) :=
    .error (node.failAfter ("invalid value: integer `" ++ toString index ++
      "`, expected variant index 0 <= i < " ++ toString names.length))

/-- Walks the members of a tagged transformation: the tag and the configuration in either
order, other members skipped. A configuration met before the tag is kept whole and read once the
tag is known; its errors then have no place of their own. -/
def walkTagged (whole : Node) : Option (Decoder Transformation) →
    Option Node → Option Transformation → List (String × Pos × Node × Pos × Option ReadError) →
    Except DecodeError Transformation
  | tag, config, done, [] =>
    match tag, config, done with
    | _, _, some transformation => .ok transformation
    | none, _, _ => .error (whole.failAfter "missing field `transformation`")
    | some _, _, none => .error (whole.failAfter "missing field `config`")
  | tag, config, done, (key, keyPos, node, settle, skip) :: rest =>
    let placed := DecodeError.place settle
    if key == "transformation" then
      match tag with
      | some _ => .error (.invalid "duplicate field `transformation`" keyPos)
      | none => do
        let decode ← readTag node
        match config with
        | some content => do
          let transformation ← (decode content).mapError (placed ∘ DecodeError.unplace)
          walkTagged whole (some decode) config (some transformation) rest
        | none => walkTagged whole (some decode) none none rest
    else if key == "config" then
      match config with
      | some _ => .error (.invalid "duplicate field `config`" keyPos)
      | none =>
        match tag with
        | some decode => do
          let transformation ← (decode node).mapError placed
          walkTagged whole tag (some node) (some transformation) rest
        | none => do
          let _ ← Decoder.json node
          walkTagged whole none (some node) none rest
    else do
      Decoder.skip skip
      walkTagged whole tag config done rest

/-- Reads a transformation in its tagged form. -/
def decode : Decoder Transformation
  | .obj members cut start stop => do
    let whole := Node.obj members cut start stop
    let transformation ← walkTagged whole none none none members
    Decoder.cutOff cut
    pure transformation
  | node => .error (node.mismatch expecting)

/-! ### Stages -/

/-- The assumption check on the input model. -/
def check : Transformation → SchemaPack → Except AssumptionError Unit
  | .addContentProperty config, model => config.check model
  | .deleteContentProperties config, model => config.check model
  | .deleteRelations config, model => config.check model
  | .countReferences config, model => config.check model
  | .inferRelation config, model => config.check model

/-- The output model. -/
def reshapeModel : Transformation → SchemaPack → Except ReshapeError SchemaPack
  | .addContentProperty config, model => config.reshapeModel model
  | .deleteContentProperties config, model => config.reshapeModel model
  | .deleteRelations config, model => config.reshapeModel model
  | .countReferences config, model => config.reshapeModel model
  | .inferRelation config, model => config.reshapeModel model

/-- A data pack of the input model, reshaped for the output model. -/
def reshapeData : Transformation → DataPack → SchemaPack → Except DataFault DataPack
  | .addContentProperty config, data, _ => config.reshapeData data
  | .deleteContentProperties config, data, _ => config.reshapeData data
  | .deleteRelations config, data, _ => config.reshapeData data
  | .countReferences config, data, _ => config.reshapeData data
  | .inferRelation config, data, output => config.reshapeData data output

end Transformation

end Recast
