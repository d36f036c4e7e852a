import Recast.Proofs.Json.Values
import Recast.Proofs.Except
import Recast.Proofs.Path.Syntax
import Recast.Schema.Codec
import Recast.Data.Codec
import Recast.Workflow.Definition
/-!
The JSON form of every stored document is read back as the document written.

Schema packs, data packs, workflows, their step configurations and transformations are written
as JSON values and read back from them. Writing leaves out what is absent (descriptions, inputs,
the relations of a resource without links) and reading fills in defaults, so each reader is
shown to undo its writer field by field, from the pairs of flags up to whole packs. Since a
lenient reader would also undo a writer that wrote absent members as `null`, the written form is
stated on its own as well.

What reading back cannot restore is what no stored document holds: a key written twice in a
table or an object (tables keep one entry per key), an id listed twice in a set of targets
(reading keeps its first occurrence), and a relation path that is not well formed (a path is
written as its spelling and read by parsing it). A value free of these is `Storable`.

Main statement: `decode_toJson_of_storable`.
-/

namespace Recast

open Json

/-! ### What a stored document holds -/

/-- A class whose content schema has distinct keys and whose relations have distinct names. -/
def ClassDef.Storable (cls : ClassDef) : Prop :=
  cls.content.Storable ∧ (Table.keys cls.relations).Nodup

/-- A schema pack whose classes have distinct names and are storable. -/
def SchemaPack.Storable (pack : SchemaPack) : Prop :=
  (Table.keys pack.classes).Nodup ∧ ∀ entry ∈ pack.classes, entry.2.Storable

/-- Targets that are a set list each id once. -/
def Targets.Storable : Targets → Prop
  | .single _ => True
  | .many ids => ids.Nodup

/-- A resource whose content has distinct keys and whose links have distinct relation names and
storable targets. -/
def Resource.Storable (resource : Resource) : Prop :=
  resource.content.Storable ∧ (Table.keys resource.links).Nodup ∧
    ∀ link ∈ resource.links, link.2.targets.Storable

/-- A data pack whose classes have distinct names, whose resources have distinct ids within
their class, and whose resources are storable. -/
def DataPack.Storable (pack : DataPack) : Prop :=
  (Table.keys pack.resources).Nodup ∧ ∀ entry ∈ pack.resources,
    (Table.keys entry.2).Nodup ∧ ∀ resource ∈ entry.2, resource.2.Storable

/-- A workflow whose steps and artifacts have distinct names. -/
def Workflow.Storable (workflow : Workflow) : Prop :=
  (Table.keys workflow.steps).Nodup ∧ (Table.keys workflow.artifacts).Nodup

/-- Step configurations under distinct step names, each with distinct keys. -/
def StepConfigs.Storable (configs : StepConfigs) : Prop :=
  (Table.keys configs).Nodup ∧ ∀ entry ∈ configs, entry.2.Storable

/-- A transformation whose JSON members have distinct keys and whose relation path is well
formed. -/
def Transformation.Storable : Transformation → Prop
  | .addContentProperty config => config.schema.Storable ∧ config.value.Storable
  | .deleteContentProperties _ => True
  | .deleteRelations _ => True
  | .countReferences config => config.relationPath.WellFormed
  | .inferRelation config => config.relationPath.WellFormed

/-! ### Schema packs -/

section Records

-- Every record below is read back by `RecordSpec.read_bind_ofJson_obj`. Its side conditions and
-- the rebuilt value are then computed member by member through these unfoldings, given what each
-- member's own decoder reads back.
attribute [local simp] RecordSpec.field? Table.keys Table.get? Table.get?_mapValues Except.map
  Decoder.field Decoder.fieldOr descriptionField

/-- A pair of flags is read back. -/
theorem Sides.decode_toJson (sides : Sides) : Sides.decode (Node.ofJson sides.toJson) = .ok sides := by
  apply RecordSpec.read_bind_ofJson_obj <;> simp [Sides.record]

/-- A relation is read back, with or without its description. -/
theorem RelationSpec.decode_toJson (relation : RelationSpec) :
    RelationSpec.decode (Node.ofJson relation.toJson) = .ok relation := by
  obtain ⟨targetClass, multiple, mandatory, description⟩ := relation
  cases description <;> apply RecordSpec.read_bind_ofJson_obj <;>
    simp [RelationSpec.record, Sides.decode_toJson]

/-- An identifying property is read back, with or without its description. -/
theorem IdSpec.decode_toJson (id : IdSpec) : IdSpec.decode (Node.ofJson id.toJson) = .ok id := by
  obtain ⟨propertyName, description⟩ := id
  cases description <;> apply RecordSpec.read_bind_ofJson_obj <;> simp [IdSpec.record]

/-- The relations of a class, under distinct names, are read back. -/
theorem ClassDef.relations_decode_toJson {relations : Table RelationSpec}
    (distinct : (Table.keys relations).Nodup) :
    Decoder.table RelationSpec.decode
      (Node.ofJson (.obj (Table.mapValues relations RelationSpec.toJson))) = .ok relations :=
  Decoder.table_ofJson_mapValues distinct fun entry _ => RelationSpec.decode_toJson entry.2

/-- A storable class is read back, with or without its description. -/
theorem ClassDef.decode_toJson {cls : ClassDef} (storable : cls.Storable) :
    ClassDef.decode (Node.ofJson cls.toJson) = .ok cls := by
  obtain ⟨id, content, relations, description⟩ := cls
  obtain ⟨contentStorable, distinct⟩ := storable
  have contentRead := Decoder.json_ofJson contentStorable
  have relationsRead := ClassDef.relations_decode_toJson distinct
  cases description <;> apply RecordSpec.read_bind_ofJson_obj <;>
    simp [ClassDef.record, IdSpec.decode_toJson, contentRead, relationsRead]

/-- A storable schema pack is read back. -/
theorem SchemaPack.decode_toJson {pack : SchemaPack} (storable : pack.Storable) :
    SchemaPack.decode (Node.ofJson pack.toJson) = .ok pack := by
  have classesRead : Decoder.table ClassDef.decode
      (Node.ofJson (.obj (Table.mapValues pack.classes ClassDef.toJson))) = .ok pack.classes :=
    Decoder.table_ofJson_mapValues storable.1 fun entry member =>
      ClassDef.decode_toJson (storable.2 entry member)
  apply RecordSpec.read_bind_ofJson_obj <;> simp [SchemaPack.record, classesRead]

/-! ### Data packs -/

/-- An ordered set that already lists each item once is built from its items unchanged. -/
theorem OrderedSet.addAll_of_nodup : ∀ (set items : List String), (set ++ items).Nodup →
    OrderedSet.addAll set items = set ++ items
  | set, [], _ => by simp [OrderedSet.addAll]
  | set, item :: rest, distinct => by
    have fresh : item ∉ set := by
      intro present
      exact (List.nodup_append.mp distinct).2.2 item present item (by simp) rfl
    have added : OrderedSet.add set item = set ++ [item] := by
      simp [OrderedSet.add, fresh]
    have later := OrderedSet.addAll_of_nodup (set ++ [item]) rest (by simpa using distinct)
    simp only [OrderedSet.addAll, List.foldl_cons, added] at later ⊢
    rw [later, List.append_assoc]
    rfl

theorem OrderedSet.ofList_of_nodup {items : List String} (distinct : items.Nodup) :
    OrderedSet.ofList items = items :=
  OrderedSet.addAll_of_nodup [] items (by simpa using distinct)

theorem Targets.stringItems_map_str (ids : List String) :
    Targets.stringItems (ids.map Json.str) = some ids := by
  induction ids with
  | nil => rfl
  | cons id rest inductionHypothesis => simp [Targets.stringItems, inductionHypothesis]

theorem Json.storableItems_map_str (ids : List String) : Json.StorableItems (ids.map Json.str) := by
  induction ids with
  | nil => trivial
  | cons id rest inductionHypothesis => exact ⟨trivial, inductionHypothesis⟩

/-- Targets are read back: one id from its string, a set of distinct ids from its array. -/
theorem Targets.decode_toJson {targets : Targets} (storable : targets.Storable) :
    Targets.decode (Node.ofJson targets.toJson) = .ok targets := by
  cases targets with
  | single id => rfl
  | many ids =>
    have items :
        Decoder.json (Node.ofJson (.arr (ids.map Json.str))) = .ok (.arr (ids.map Json.str)) :=
      Decoder.json_ofJson (Json.storableItems_map_str ids)
    simp only [Targets.decode, Targets.toJson, items, Targets.stringItems_map_str,
      OrderedSet.ofList_of_nodup (show ids.Nodup from storable)]

/-- A link with storable targets is read back. -/
theorem Link.decode_toJson {link : Link} (storable : link.targets.Storable) :
    Link.decode (Node.ofJson link.toJson) = .ok link := by
  have targetsRead := Targets.decode_toJson storable
  apply RecordSpec.read_bind_ofJson_obj <;> simp [Link.record, targetsRead]

/-- A storable resource is read back; a resource without links is written without relations,
which reading fills in as none. -/
theorem Resource.decode_toJson {resource : Resource} (storable : resource.Storable) :
    Resource.decode (Node.ofJson resource.toJson) = .ok resource := by
  obtain ⟨content, links⟩ := resource
  obtain ⟨contentStorable, distinct, linksStorable⟩ := storable
  have contentRead := Decoder.json_ofJson contentStorable
  cases links with
  | nil => apply RecordSpec.read_bind_ofJson_obj <;> simp [Resource.record, contentRead]
  | cons first rest =>
    have linksRead : Decoder.table Link.decode
        (Node.ofJson (.obj (Table.mapValues (first :: rest) Link.toJson))) = .ok (first :: rest) :=
      Decoder.table_ofJson_mapValues distinct fun entry member =>
        Link.decode_toJson (linksStorable entry member)
    apply RecordSpec.read_bind_ofJson_obj <;> simp [Resource.record, contentRead, linksRead]

/-- A storable data pack is read back. -/
theorem DataPack.decode_toJson {pack : DataPack} (storable : pack.Storable) :
    DataPack.decode (Node.ofJson pack.toJson) = .ok pack := by
  have resourcesRead : Decoder.table (Decoder.table Resource.decode)
      (Node.ofJson (.obj (Table.mapValues pack.resources fun resources =>
        .obj (Table.mapValues resources Resource.toJson)))) = .ok pack.resources := by
    refine Decoder.table_ofJson_mapValues storable.1 fun entry member => ?_
    obtain ⟨idsDistinct, resourcesStorable⟩ := storable.2 entry member
    exact Decoder.table_ofJson_mapValues idsDistinct fun resource listed =>
      Resource.decode_toJson (resourcesStorable resource listed)
  apply RecordSpec.read_bind_ofJson_obj <;> simp [DataPack.record, resourcesRead]

/-! ### Workflows and their configuration -/

/-- A step is read back, with or without its input. -/
theorem Step.decode_toJson (step : Step) : Step.decode (Node.ofJson step.toJson) = .ok step := by
  obtain ⟨description, transformation, input⟩ := step
  cases input <;> apply RecordSpec.read_bind_ofJson_obj <;> simp [Step.record]

/-- A storable workflow is read back. -/
theorem Workflow.decode_toJson {workflow : Workflow} (storable : workflow.Storable) :
    Workflow.decode (Node.ofJson workflow.toJson) = .ok workflow := by
  obtain ⟨description, steps, artifacts⟩ := workflow
  obtain ⟨stepsDistinct, artifactsDistinct⟩ := storable
  have stepsRead : Decoder.table Step.decode
      (Node.ofJson (.obj (Table.mapValues steps Step.toJson))) = .ok steps :=
    Decoder.table_ofJson_mapValues stepsDistinct fun entry _ => Step.decode_toJson entry.2
  have artifactsRead : Decoder.table Decoder.string
      (Node.ofJson (.obj (Table.mapValues artifacts Json.str))) = .ok artifacts :=
    Decoder.table_ofJson_mapValues artifactsDistinct fun _ _ => rfl
  apply RecordSpec.read_bind_ofJson_obj <;> simp [Workflow.record, stepsRead, artifactsRead]

/-- Step configurations are written as the object of their steps' values, and read back. -/
theorem StepConfigs.decode_obj {configs : StepConfigs} (storable : StepConfigs.Storable configs) :
    Decoder.table Decoder.json (Node.ofJson (.obj configs)) = .ok configs := by
  have unchanged : Table.mapValues configs (fun config => config) = configs := by
    simp [Table.mapValues]
  have read := @Decoder.table_ofJson_mapValues _ Decoder.json (fun config => config) configs
    storable.1 fun entry member => Decoder.json_ofJson (storable.2 entry member)
  rwa [unchanged] at read

/-- A well-formed relation path is read back from its canonical text. -/
theorem RelationPath.decode_canonical {path : RelationPath} (formed : path.WellFormed) :
    RelationPath.decode (Node.ofJson (.str path.canonical)) = .ok path := by
  simp [RelationPath.decode, RelationPath.parse_canonical formed]

theorem AddPropertyConfig.decode_toJson {config : AddPropertyConfig}
    (storable : config.schema.Storable ∧ config.value.Storable) :
    AddPropertyConfig.decode (Node.ofJson config.toJson) = .ok config := by
  have schemaRead := Decoder.json_ofJson storable.1
  have valueRead := Decoder.json_ofJson storable.2
  apply RecordSpec.read_bind_ofJson_obj <;>
    simp [AddPropertyConfig.record, schemaRead, valueRead]

theorem DeletePropertiesConfig.decode_toJson (config : DeletePropertiesConfig) :
    DeletePropertiesConfig.decode (Node.ofJson config.toJson) = .ok config := by
  have namesRead : Decoder.list Decoder.string
      (Node.ofJson (.arr (config.propertyNames.map Json.str))) = .ok config.propertyNames :=
    Decoder.list_ofJson_map fun _ _ => rfl
  apply RecordSpec.read_bind_ofJson_obj <;> simp [DeletePropertiesConfig.record, namesRead]

theorem DeleteRelationsConfig.decode_toJson (config : DeleteRelationsConfig) :
    DeleteRelationsConfig.decode (Node.ofJson config.toJson) = .ok config := by
  have namesRead : Decoder.list Decoder.string
      (Node.ofJson (.arr (config.relationNames.map Json.str))) = .ok config.relationNames :=
    Decoder.list_ofJson_map fun _ _ => rfl
  apply RecordSpec.read_bind_ofJson_obj <;> simp [DeleteRelationsConfig.record, namesRead]

theorem CountReferencesConfig.decode_toJson {config : CountReferencesConfig}
    (formed : config.relationPath.WellFormed) :
    CountReferencesConfig.decode (Node.ofJson config.toJson) = .ok config := by
  have pathRead := RelationPath.decode_canonical formed
  apply RecordSpec.read_bind_ofJson_obj <;> simp [CountReferencesConfig.record, pathRead]

theorem InferRelationConfig.decode_toJson {config : InferRelationConfig}
    (formed : config.relationPath.WellFormed) :
    InferRelationConfig.decode (Node.ofJson config.toJson) = .ok config := by
  have pathRead := RelationPath.decode_canonical formed
  apply RecordSpec.read_bind_ofJson_obj <;> simp [InferRelationConfig.record, pathRead]

end Records

/-- A tagged transformation is read from its tag, then from its configuration with the kind's
decoder: the tag is written first, so the configuration is decoded where it stands. -/
theorem Transformation.decode_tagged {transformation result : Transformation}
    {decode : Decoder Transformation}
    (registered : Transformation.decoderFor transformation.name = some decode)
    (configRead : decode (Node.ofJson transformation.configJson) = .ok result) :
    Transformation.decode (Node.ofJson transformation.toJson) = .ok result := by
  simp [Transformation.decode, Transformation.toJson, Node.ofJson, Node.ofFields,
    Transformation.walkTagged, Transformation.readTag, registered, configRead, bind, Except.bind,
    Except.mapError, Decoder.cutOff, pure, Except.pure]

/-- A storable transformation is read back from its tagged form. -/
theorem Transformation.decode_toJson {transformation : Transformation}
    (storable : transformation.Storable) :
    Transformation.decode (Node.ofJson transformation.toJson) = .ok transformation := by
  cases transformation with
  | addContentProperty config =>
    refine Transformation.decode_tagged rfl ?_
    simp [Transformation.configJson, AddPropertyConfig.decode_toJson storable, Except.map]
  | deleteContentProperties config =>
    refine Transformation.decode_tagged rfl ?_
    simp [Transformation.configJson, DeletePropertiesConfig.decode_toJson, Except.map]
  | deleteRelations config =>
    refine Transformation.decode_tagged rfl ?_
    simp [Transformation.configJson, DeleteRelationsConfig.decode_toJson, Except.map]
  | countReferences config =>
    refine Transformation.decode_tagged rfl ?_
    simp [Transformation.configJson, CountReferencesConfig.decode_toJson storable, Except.map]
  | inferRelation config =>
    refine Transformation.decode_tagged rfl ?_
    simp [Transformation.configJson, InferRelationConfig.decode_toJson storable, Except.map]

/-! ### The written form

Reading back does not pin down how a document is written: a reader that accepts `null` for an
absent description would read back a writer that writes one. These are the rules of the format
itself: optional members are left out rather than written empty, one target is a string and a
set of targets never is, a transformation is tagged with its name, and a path is its spelling. -/

/-- A description member after members without one holds the description when there is one, and
is left out otherwise. -/
theorem Json.field?_append_descriptionField {fields : Table Json}
    (absent : "description" ∉ Table.keys fields) (description : Option String) :
    (Json.obj (fields ++ descriptionField description)).field? "description" =
      description.map Json.str := by
  induction fields with
  | nil => cases description <;> simp [descriptionField, Json.field?, Table.get?]
  | cons entry rest inductionHypothesis =>
    obtain ⟨key, value⟩ := entry
    simp only [Table.keys, List.map_cons, List.mem_cons, not_or] at absent
    have differ : key ≠ "description" := fun same => absent.1 same.symm
    simp only [Json.field?, List.cons_append, Table.get?, differ, if_false] at inductionHypothesis ⊢
    exact inductionHypothesis absent.2

theorem RelationSpec.field?_toJson_description (relation : RelationSpec) :
    relation.toJson.field? "description" = relation.description.map Json.str :=
  Json.field?_append_descriptionField (by simp [Table.keys]) _

theorem IdSpec.field?_toJson_description (id : IdSpec) :
    id.toJson.field? "description" = id.description.map Json.str :=
  Json.field?_append_descriptionField (by simp [Table.keys]) _

theorem ClassDef.field?_toJson_description (cls : ClassDef) :
    cls.toJson.field? "description" = cls.description.map Json.str :=
  Json.field?_append_descriptionField (by simp [Table.keys]) _

/-- A step names its input when it has one, and is written without one otherwise. -/
theorem Step.field?_toJson_input (step : Step) :
    step.toJson.field? "input" = step.input.map Json.str := by
  cases input : step.input <;> simp [Step.toJson, input, Json.field?, Table.get?]

/-- A resource is written without relations exactly when it has no links. -/
theorem Resource.field?_toJson_relations_eq_none (resource : Resource) :
    resource.toJson.field? "relations" = none ↔ resource.links = [] := by
  obtain ⟨content, links⟩ := resource
  cases links <;> simp [Resource.toJson, Json.field?, Table.get?]

/-- Targets are written as a string exactly when they are one target, so a set of one target is
not written as one target. -/
theorem Targets.isString_toJson (targets : Targets) :
    targets.toJson.isString = true ↔ ∃ id, targets = .single id := by
  cases targets <;> simp [Targets.toJson, Json.isString]

theorem CountReferencesConfig.field?_toJson_relationPath (config : CountReferencesConfig) :
    config.toJson.field? "relation_path" = some (.str config.relationPath.canonical) := by
  simp [CountReferencesConfig.toJson, Json.field?, Table.get?]

theorem InferRelationConfig.field?_toJson_relationPath (config : InferRelationConfig) :
    config.toJson.field? "relation_path" = some (.str config.relationPath.canonical) := by
  simp [InferRelationConfig.toJson, Json.field?, Table.get?]

/-! ### Every stored document -/

/-- The JSON form of every stored document is read back as the document written: schema packs,
data packs, workflows, step configurations (written as the object of their steps' values) and
transformations, as long as they hold no repeated key, no repeated id in a set of targets and no
path that is not well formed. That form tags a transformation with its name, leaves out absent
descriptions and inputs and the relations of a resource without links, writes one target as a
string and a set of targets otherwise, and a path as its canonical text. Paths read from text
are equal, comparing their canonical texts as hashing them does, exactly when they take the same
hops, so a path's canonical text stands for the path. -/
theorem decode_toJson_of_storable :
    (∀ pack : SchemaPack, pack.Storable →
      Decoder.ofJson SchemaPack.decode pack.toJson = .ok pack) ∧
    (∀ pack : DataPack, pack.Storable →
      Decoder.ofJson DataPack.decode pack.toJson = .ok pack) ∧
    (∀ workflow : Workflow, workflow.Storable →
      Decoder.ofJson Workflow.decode workflow.toJson = .ok workflow) ∧
    (∀ configs : StepConfigs, StepConfigs.Storable configs →
      Decoder.ofJson (Decoder.table Decoder.json) (.obj configs) = .ok configs) ∧
    (∀ transformation : Transformation, transformation.Storable →
      Decoder.ofJson Transformation.decode transformation.toJson = .ok transformation) ∧
    -- the written form
    (∀ transformation : Transformation, transformation.toJson =
      .obj [("transformation", .str transformation.name), ("config", transformation.configJson)]) ∧
    (∀ cls : ClassDef, cls.toJson.field? "description" = cls.description.map Json.str) ∧
    (∀ relation : RelationSpec,
      relation.toJson.field? "description" = relation.description.map Json.str) ∧
    (∀ id : IdSpec, id.toJson.field? "description" = id.description.map Json.str) ∧
    (∀ step : Step, step.toJson.field? "input" = step.input.map Json.str) ∧
    (∀ resource : Resource, resource.toJson.field? "relations" = none ↔ resource.links = []) ∧
    (∀ targets : Targets, targets.toJson.isString = true ↔ ∃ id, targets = .single id) ∧
    (∀ config : CountReferencesConfig,
      config.toJson.field? "relation_path" = some (.str config.relationPath.canonical)) ∧
    (∀ config : InferRelationConfig,
      config.toJson.field? "relation_path" = some (.str config.relationPath.canonical)) ∧
    -- paths stand for their canonical text
    ∀ (text otherText : String) (path other : RelationPath),
      RelationPath.parse text = .ok path → RelationPath.parse otherText = .ok other →
        ((path == other) = true ↔ path.elements = other.elements) := by
  refine ⟨fun _ storable => SchemaPack.decode_toJson storable,
    fun _ storable => DataPack.decode_toJson storable,
    fun _ storable => Workflow.decode_toJson storable,
    fun _ storable => StepConfigs.decode_obj storable,
    fun _ storable => Transformation.decode_toJson storable,
    fun _ => rfl, ClassDef.field?_toJson_description, RelationSpec.field?_toJson_description,
    IdSpec.field?_toJson_description, Step.field?_toJson_input,
    Resource.field?_toJson_relations_eq_none, Targets.isString_toJson,
    CountReferencesConfig.field?_toJson_relationPath,
    InferRelationConfig.field?_toJson_relationPath, ?_⟩
  intro text otherText path other read otherRead
  exact RelationPath.beq_iff_elements_eq (RelationPath.wellFormed_of_parse read).1
    (RelationPath.wellFormed_of_parse otherRead).1

/-- A sample's link to a set of one file is read back as a set, not as a single target, and a
relation inferred along a passive path is read back with that path. -/
theorem sampleDocuments_read_back :
    let pack : DataPack :=
      { resources := [("Sample", [("s1",
          { content := .obj [("id", .str "s1")],
            links := [("files", { targetClass := "File", targets := .many ["f1"] })] })])] }
    let path : RelationPath := ⟨[⟨.passive, "File", "Sample", "files"⟩], "File<(files)Sample"⟩
    let transformation : Transformation := .inferRelation
      { className := "File", relationName := "sample", relationPath := path, expectSingle := true }
    (pack.Storable ∧ Decoder.ofJson DataPack.decode pack.toJson = .ok pack) ∧
      transformation.Storable ∧
        Decoder.ofJson Transformation.decode transformation.toJson = .ok transformation := by
  intro pack path transformation
  have packStorable : pack.Storable := by
    simp [pack, DataPack.Storable, Resource.Storable, Targets.Storable, Json.Storable,
      Json.StorableFields, Table.keys]
  have formed : path.WellFormed := by
    refine ⟨by simp [path], ?_, ?_, by simp [path], ?_⟩
    · simp [path, RelationPath.IsName, RelationPath.isNameChar]
    · simp [path, Hop.Named, RelationPath.IsName, RelationPath.isNameChar]
    · simp [path, RelationPath.render, Hop.step]
  exact ⟨⟨packStorable, decode_toJson_of_storable.2.1 pack packStorable⟩, formed,
    decode_toJson_of_storable.2.2.2.2.1 transformation formed⟩

end Recast
