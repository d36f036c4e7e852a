import Mathlib.Data.List.Nodup
import Recast.Transform.Handler
import Recast.Proofs.Path.Resolution
/-!
Transformations that edit relations never fail on data their handler accepts.

`infer_relation` adds to a class a relation that shortcuts a path, and links every resource of the
class to what the path reaches from it; `delete_relations` removes relations from a class and
their instances from its resources. Both leave every content and every id alone, so the only
invariants at stake are those of relations. For a relation the edit keeps, its instances are
unchanged; for the inferred one, the path's multiplicity is what the data shows: a path that
cannot fan out forwards reaches one target at most, one that cannot fan out backwards never
reaches a target from two resources (`resolve_subsingleton`, `resolve_disjoint`), and what it
reaches exists (`resolve_mem_target`).

The argument runs in three layers. A handler that was built has checked the input model, the
assumptions and the output model (`Handler.new_eq_ok`), and a run succeeds when its three stages
do (`Handler.run_eq_ok`). Editing the resources of one class keeps every other class and every id
(`DataPack.editResources_eq_ok`). A pack that conforms to a model still conforms once one class
of the model and the resources of that class are edited in step (`Conforms.editClass`). Main
statement: `run_eq_ok_of_relationEdit`.
-/

namespace Recast

/-! ### Handlers -/

namespace Handler

/-- A handler that was built holds validators of its input and output models, for a
transformation whose assumptions hold of the input model and that reshapes it into the output
model. -/
theorem new_eq_ok {transformation : Transformation} {model : SchemaPack} {handler : Handler}
    (built : Handler.new transformation model = .ok handler) :
    handler.transformation = transformation ∧ ModelValidator.new model = .ok handler.input ∧
      transformation.check model = .ok () ∧
        transformation.reshapeModel model = .ok handler.outputModel ∧
          ModelValidator.new handler.outputModel = .ok handler.output := by
  unfold Handler.new at built
  cases input : ModelValidator.new model with
  | error error => simp [input, throw, throwThe, MonadExceptOf.throw] at built
  | ok inputValidator =>
    cases checked : transformation.check model with
    | error error => simp [input, checked, throw, throwThe, MonadExceptOf.throw] at built
    | ok done =>
      cases reshaped : transformation.reshapeModel model with
      | error error =>
        simp [input, checked, reshaped, throw, throwThe, MonadExceptOf.throw] at built
      | ok outputModel =>
        cases output : ModelValidator.new outputModel with
        | error error =>
          simp [input, checked, reshaped, output, throw, throwThe, MonadExceptOf.throw] at built
        | ok outputValidator =>
          simp only [input, checked, reshaped, pure_bind, output, Except.pure_eq_ok] at built
          subst built
          have kept : outputValidator.model = outputModel := (ModelValidator.new_eq_ok output).1
          simp [Handler.outputModel, kept, output]

/-- A run succeeds exactly when the input conforms, the data stage succeeds and its result
conforms to the output model. -/
theorem run_eq_ok {handler : Handler} {data output : DataPack} :
    handler.run data = .ok output ↔
      handler.input.check data = .ok () ∧
        handler.transformation.reshapeData data handler.outputModel = .ok output ∧
          handler.output.check output = .ok () := by
  unfold Handler.run
  cases accepted : handler.input.check data with
  | error violation => simp [throw, throwThe, MonadExceptOf.throw]
  | ok done =>
    cases reshaped : handler.transformation.reshapeData data handler.outputModel with
    | error fault => simp [throw, throwThe, MonadExceptOf.throw]
    | ok transformed =>
      cases checked : handler.output.check transformed with
      | error violation =>
        simp only [pure_bind, checked, Except.throw_ne_ok, false_iff, true_and, Except.ok.injEq,
          not_and]
        rintro rfl
        simp [checked]
      | ok finished =>
        simp only [pure_bind, checked, Except.pure_eq_ok, true_and, Except.ok.injEq]
        constructor
        · rintro rfl
          exact ⟨rfl, checked⟩
        · rintro ⟨rfl, -⟩
          rfl

/-- A run stops on a fault exactly when the input conforms and the data stage fails with it. -/
theorem run_eq_fault {handler : Handler} {data : DataPack} {fault : DataFault} :
    handler.run data = .error (.fault fault) ↔
      handler.input.check data = .ok () ∧
        handler.transformation.reshapeData data handler.outputModel = .error fault := by
  unfold Handler.run
  cases accepted : handler.input.check data with
  | error violation => simp [throw, throwThe, MonadExceptOf.throw, bind, Except.bind]
  | ok done =>
    cases reshaped : handler.transformation.reshapeData data handler.outputModel with
    | error problem => simp [throw, throwThe, MonadExceptOf.throw, bind, Except.bind]
    | ok transformed =>
      cases checked : handler.output.check transformed <;>
        simp [checked, throw, throwThe, MonadExceptOf.throw, bind, Except.bind, pure, Except.pure]

end Handler

/-! ### Editing the resources of one class -/

namespace DataPack

/-- The pack with every resource of one class changed by a function of its id and itself. -/
def mapClass (data : DataPack) (cls : String) (edited : String → Resource → Resource) : DataPack :=
  match data.classResources? cls with
  | none => data
  | some resources =>
    { resources := Table.insert data.resources cls
        (resources.map fun entry => (entry.1, edited entry.1 entry.2)) }

variable {data : DataPack} {cls : String} {edited : String → Resource → Resource}

/-- An edit of every resource of a class that succeeds on each gives the pack changed by it. -/
theorem editResources_eq_ok {edit : String → Resource → Except DataFault Resource}
    (succeeds : ∀ entry ∈ data.classResources cls,
      edit entry.1 entry.2 = .ok (edited entry.1 entry.2)) :
    data.editResources cls edit = .ok (data.mapClass cls edited) := by
  unfold editResources mapClass
  cases present : data.classResources? cls with
  | none => rfl
  | some resources =>
    have listed : data.classResources cls = resources := by simp [classResources, present]
    rw [listed] at succeeds
    dsimp only
    rw [@mapM_except_eq_ok_map DataFault (String × Resource) (String × Resource) resources _
      (fun entry => (entry.1, edited entry.1 entry.2)) ?each]
    · rfl
    · rintro ⟨id, resource⟩ member
      simp [succeeds (id, resource) member]

theorem classNames_mapClass : (data.mapClass cls edited).classNames = data.classNames := by
  unfold mapClass
  cases present : data.classResources? cls with
  | none => rfl
  | some resources =>
    have contained : Table.contains data.resources cls = true :=
      Table.contains_of_get?_eq_some present
    simp only [classNames]
    rw [Table.keys_insert_of_contains _ _ _ contained]

theorem classResources_mapClass (other : String) :
    (data.mapClass cls edited).classResources other =
      if other = cls then
        (data.classResources cls).map fun entry => (entry.1, edited entry.1 entry.2)
      else data.classResources other := by
  unfold mapClass
  cases present : data.classResources? cls with
  | none =>
    by_cases same : other = cls
    · simp [same, classResources, present]
    · simp [same]
  | some resources =>
    by_cases same : other = cls
    · have found : Table.get? data.resources cls = some resources := present
      simp [same, classResources, classResources?, Table.get?_insert_self, found]
    · simp [same, classResources, classResources?, Table.get?_insert_of_ne _ _ same]

theorem classResources_mapClass_of_ne {other : String} (differ : other ≠ cls) :
    (data.mapClass cls edited).classResources other = data.classResources other := by
  rw [classResources_mapClass, if_neg differ]

/-- A resource of the changed class is a resource of the class, changed. -/
theorem mem_classResources_mapClass {resource : String × Resource}
    (member : resource ∈ (data.mapClass cls edited).classResources cls) :
    ∃ original ∈ data.classResources cls,
      resource = (original.1, edited original.1 original.2) := by
  rw [classResources_mapClass, if_pos rfl] at member
  obtain ⟨original, listed, rfl⟩ := List.mem_map.mp member
  exact ⟨original, listed, rfl⟩

/-- Changing resources keeps every class's ids. -/
theorem keys_classResources_mapClass (other : String) :
    Table.keys ((data.mapClass cls edited).classResources other) =
      Table.keys (data.classResources other) := by
  rw [classResources_mapClass]
  split
  · next same =>
    subst same
    simp [Table.keys, Function.comp_def]
  · rfl

/-- An entry of the changed pack is one of the pack, or the changed entry of the class. -/
theorem mem_resources_mapClass {entry : String × Table Resource}
    (member : entry ∈ (data.mapClass cls edited).resources) :
    entry ∈ data.resources ∨ ∃ resources, (cls, resources) ∈ data.resources ∧
      entry = (cls, resources.map fun entry => (entry.1, edited entry.1 entry.2)) := by
  unfold mapClass at member
  cases present : data.classResources? cls with
  | none =>
    rw [present] at member
    exact Or.inl member
  | some resources =>
    rw [present] at member
    exact (Table.mem_of_mem_insert member).imp_right fun written =>
      ⟨resources, Table.mem_of_get?_eq_some present, written⟩

end DataPack

/-! ### Conformance under an edit of one class -/

namespace SchemaPack

variable {model : SchemaPack} {name : String} {edited : ClassDef}

/-- A class of the model with one class replaced has the content of a class of the model, when
the replacement keeps the content of the class it replaces. -/
theorem content_of_cls?_withClass {cls found : ClassDef} {other : String}
    (present : model.cls? name = some cls) (content : edited.content = cls.content)
    (foundEdited : (model.withClass name edited).cls? other = some found) :
    ∃ original, model.cls? other = some original ∧ original.content = found.content := by
  by_cases same : other = name
  · subst same
    rw [cls?_withClass_self, Option.some.injEq] at foundEdited
    exact ⟨cls, present, foundEdited ▸ content.symm⟩
  · rw [cls?_withClass_of_ne model edited same] at foundEdited
    exact ⟨found, foundEdited, rfl⟩

/-- In a model with distinct class names, a class of the model with one class replaced is the
replacement or a class of the model under another name. -/
theorem mem_classes_withClass (distinct : (Table.keys model.classes).Nodup)
    {entry : String × ClassDef} (member : entry ∈ (model.withClass name edited).classes) :
    entry = (name, edited) ∨ entry.1 ≠ name ∧ entry ∈ model.classes := by
  have found : (model.withClass name edited).cls? entry.1 = some entry.2 :=
    Table.get?_of_mem (Table.nodup_keys_insert distinct name edited) member
  by_cases same : entry.1 = name
  · rw [same, cls?_withClass_self, Option.some.injEq] at found
    exact Or.inl (Prod.ext same found.symm)
  · rw [cls?_withClass_of_ne model edited same] at found
    exact Or.inr ⟨same, Table.mem_of_get?_eq_some found⟩

end SchemaPack

/-- The targets of a relation instance, read off the lookup of the instance. -/
theorem Resource.targets_eq (resource : Resource) (name : String) :
    resource.targets name =
      ((Table.get? resource.links name).map fun link => link.targets.ids).getD [] := by
  unfold Resource.targets
  cases Table.get? resource.links name <;> rfl

/-- Two lists of resources hold the same targets through a relation when their instances of it
are the same. -/
theorem flatMap_targets_congr {before after : Table Resource} {name : String}
    (same : after.map (fun entry => Table.get? entry.2.links name) =
      before.map (fun entry => Table.get? entry.2.links name)) :
    after.flatMap (fun entry => entry.2.targets name) =
      before.flatMap (fun entry => entry.2.targets name) := by
  have through : ∀ table : Table Resource, table.flatMap (fun entry => entry.2.targets name) =
      (table.map fun entry => Table.get? entry.2.links name).flatMap
        (fun found => (found.map fun link => link.targets.ids).getD []) := by
    intro table
    simp [List.flatMap_map, Resource.targets_eq]
  rw [through, through, same]

/-- A relation instance conforms alike in two packs whose target classes have the same ids. -/
theorem LinkConforms.congr {before after : DataPack} {name : String} {spec : RelationSpec}
    {resource other : Resource}
    (targets : Table.keys (after.classResources spec.targetClass) =
      Table.keys (before.classResources spec.targetClass))
    (same : Table.get? other.links name = Table.get? resource.links name)
    (linked : LinkConforms before name spec resource) : LinkConforms after name spec other := by
  unfold LinkConforms at linked ⊢
  rw [same, targets]
  exact linked

/-- A relation conforms alike in two packs whose holder class has the same instances of it and
whose target class has the same ids. -/
theorem RelationConforms.congr {before after : DataPack} {cls name : String} {spec : RelationSpec}
    (targets : Table.keys (after.classResources spec.targetClass) =
      Table.keys (before.classResources spec.targetClass))
    (same : (after.classResources cls).map (fun entry => Table.get? entry.2.links name) =
      (before.classResources cls).map (fun entry => Table.get? entry.2.links name))
    (conforms : RelationConforms before cls name spec) : RelationConforms after cls name spec where
  links resource member := by
    obtain ⟨original, originalMember, found⟩ := List.mem_map.mp (same ▸ List.mem_map_of_mem member)
    exact (conforms.links original originalMember).congr targets found.symm
  singleOrigin single := flatMap_targets_congr same ▸ conforms.singleOrigin single
  referenced mandatory target member := by
    have held := List.mem_flatMap.mpr (conforms.referenced mandatory target (targets ▸ member))
    exact List.mem_flatMap.mp ((flatMap_targets_congr same).symm ▸ held)

namespace Conforms

variable {model : SchemaPack} {data : DataPack} {name : String} {cls edited : ClassDef}
  {edit : String → Resource → Resource}

/-- Contents still conform when the edited class keeps its content schema and every edit keeps
the content of its resource. -/
theorem contents_mapClass (conforms : Conforms model data) (present : model.cls? name = some cls)
    (content : edited.content = cls.content)
    (keepsContent : ∀ id resource, (edit id resource).content = resource.content) :
    ∀ entry ∈ (data.mapClass name edit).resources, ∀ found,
      (model.withClass name edited).cls? entry.1 = some found →
        ∀ schema, JsonSchema.Validator.compile found.content = .ok schema →
          ∀ resource ∈ entry.2, schema.check resource.2.content = none := by
  intro entry member found foundEdited schema compiled resource listed
  obtain ⟨original, originalFound, sameContent⟩ :=
    SchemaPack.content_of_cls?_withClass present content foundEdited
  rw [← sameContent] at compiled
  rcases DataPack.mem_resources_mapClass member with kept | ⟨resources, stored, rfl⟩
  · exact conforms.contents entry kept original originalFound schema compiled resource listed
  · obtain ⟨before, beforeListed, rfl⟩ := List.mem_map.mp listed
    rw [keepsContent]
    exact conforms.contents _ stored original originalFound schema compiled before beforeListed

/-- A conforming pack still conforms once one class of the model and the resources of that class
are edited in step: the contents conform, ids stay, every link of an edited resource is declared
by the edited class, each relation the edited class keeps has the same instances, and each
relation it adds conforms. -/
theorem editClass (conforms : Conforms model data) (distinct : (Table.keys model.classes).Nodup)
    (present : model.cls? name = some cls)
    (contents : ∀ entry ∈ (data.mapClass name edit).resources, ∀ found,
      (model.withClass name edited).cls? entry.1 = some found →
        ∀ schema, JsonSchema.Validator.compile found.content = .ok schema →
          ∀ resource ∈ entry.2, schema.check resource.2.content = none)
    (declared : ∀ resource ∈ data.classResources name,
      ∀ relation ∈ Table.keys (edit resource.1 resource.2).links,
        relation ∈ Table.keys edited.relations)
    (relations : ∀ relation ∈ edited.relations,
      (relation ∈ cls.relations ∧ ∀ resource ∈ data.classResources name,
          Table.get? (edit resource.1 resource.2).links relation.1 =
            Table.get? resource.2.links relation.1) ∨
        RelationConforms (data.mapClass name edit) name relation.1 relation.2) :
    Conforms (model.withClass name edited) (data.mapClass name edit) where
  classes other member := by
    rw [DataPack.classNames_mapClass] at member
    have contained : Table.contains model.classes name = true :=
      Table.contains_of_get?_eq_some present
    simpa [SchemaPack.classNames, SchemaPack.withClass,
      Table.keys_insert_of_contains _ _ _ contained] using conforms.classes other member
  contents := contents
  declared entry member resource listed relation linked := by
    rcases SchemaPack.mem_classes_withClass distinct member with rfl | ⟨differ, kept⟩
    · obtain ⟨original, originalListed, rfl⟩ := DataPack.mem_classResources_mapClass listed
      exact declared original originalListed relation linked
    · rw [DataPack.classResources_mapClass_of_ne differ] at listed
      exact conforms.declared entry kept resource listed relation linked
  relations entry member relation declaredHere := by
    have targets : ∀ other, Table.keys ((data.mapClass name edit).classResources other) =
        Table.keys (data.classResources other) := DataPack.keys_classResources_mapClass
    rcases SchemaPack.mem_classes_withClass distinct member with rfl | ⟨differ, kept⟩
    · rcases relations relation declaredHere with ⟨stillDeclared, unchanged⟩ | added
      · -- a relation the class keeps: its instances are those of the pack
        refine (conforms.relations (name, cls) (Table.mem_of_get?_eq_some present) relation
          stillDeclared).congr (targets _) ?_
        rw [DataPack.classResources_mapClass, if_pos rfl, List.map_map]
        exact List.map_congr_left fun resource listed => unchanged resource listed
      · exact added
    · refine (conforms.relations entry kept relation declaredHere).congr (targets _) ?_
      rw [DataPack.classResources_mapClass_of_ne differ]

end Conforms

/-! ### Deleting relations -/

namespace Content

variable {α : Type}

theorem mem_eraseAll {table : Table α} {names : List String} {entry : String × α} :
    entry ∈ eraseAll table names ↔ entry ∈ table ∧ entry.1 ∉ names :=
  Table.mem_foldl_erase

theorem get?_eraseAll_of_not_mem (table : Table α) {names : List String} {key : String}
    (kept : key ∉ names) : Table.get? (eraseAll table names) key = Table.get? table key :=
  Table.get?_foldl_erase_of_not_mem table kept

end Content

namespace DeleteRelationsConfig

variable {config : DeleteRelationsConfig} {model output : SchemaPack} {data : DataPack}

/-- The relations left to a class once the named ones are deleted. -/
theorem mem_keys_relations_of_mem (conforms : Conforms model data) {cls : ClassDef}
    (present : model.cls? config.className = some cls) {resource : String × Resource}
    (listed : resource ∈ data.classResources config.className) {relation : String}
    (linked : relation ∈ Table.keys (Content.eraseAll resource.2.links config.relationNames)) :
    relation ∈ Table.keys (Content.eraseAll cls.relations config.relationNames) := by
  rw [Content.keys_eraseAll, List.mem_filter] at linked ⊢
  exact ⟨conforms.declared _ (Table.mem_of_get?_eq_some present) resource listed relation
    linked.1, linked.2⟩

/-- Deleting relations from a pack that conforms gives a pack that conforms to the model with
the relations deleted. -/
theorem conforms_reshapeData (conforms : Conforms model data)
    (distinct : (Table.keys model.classes).Nodup) (checked : config.check model = .ok ())
    (reshaped : config.reshapeModel model = .ok output) :
    ∃ result, config.reshapeData data = .ok result ∧ Conforms output result := by
  simp only [check, Except.bind_eq_ok] at checked
  obtain ⟨cls, found, -⟩ := checked
  have present : model.cls? config.className = some cls := by
    cases lookup : model.cls? config.className <;>
      simp_all [SchemaPack.requireClass]
  simp only [reshapeModel, present, Except.ok.injEq] at reshaped
  subst reshaped
  have unlinked : config.reshapeData data = .ok (data.mapClass config.className fun _ resource =>
      { resource with links := Content.eraseAll resource.links config.relationNames }) :=
    DataPack.editResources_eq_ok fun _ _ => rfl
  refine ⟨_, unlinked, conforms.editClass distinct present
    (conforms.contents_mapClass present rfl fun _ _ => rfl)
    (fun resource listed relation linked => ?_) fun relation kept => ?_⟩
  · exact mem_keys_relations_of_mem conforms present listed linked
  · obtain ⟨stillDeclared, notDeleted⟩ := Content.mem_eraseAll.mp kept
    exact Or.inl ⟨stillDeclared, fun resource _ =>
      Content.get?_eraseAll_of_not_mem resource.2.links notDeleted⟩

end DeleteRelationsConfig

/-! ### Inferring a relation -/

/-- A resolution that reaches one target at most is accepted by `resolveSingle`, which gives
that target if there is one. -/
theorem Resolver.resolveSingle_eq_ok {resolver : Resolver} {source transformation : String}
    (single : resolver.resolve source = [] ∨ ∃ target, resolver.resolve source = [target]) :
    resolver.resolveSingle source transformation = .ok (resolver.resolve source).head? := by
  rcases single with empty | ⟨target, only⟩
  · simp [Resolver.resolveSingle, empty]
  · simp [Resolver.resolveSingle, only]

namespace InferRelationConfig

variable {config : InferRelationConfig} {model output : SchemaPack} {data : DataPack}

/-- The relation instance `infer_relation` gives a resource: everything the path reaches when
the relation holds several targets, otherwise the one target the path reaches, if any. -/
def inferredTargets (config : InferRelationConfig) (data : DataPack) (many : Bool) (id : String) :
    Option Targets :=
  if many then some (.many (resolvePath data id config.relationPath))
  else (resolvePath data id config.relationPath).head?.map .single

/-- A resource with the inferred relation instance added, when there is one. -/
def linkInferred (config : InferRelationConfig) (data : DataPack) (many : Bool) (id : String)
    (resource : Resource) : Resource :=
  match config.inferredTargets data many id with
  | some targets => resource.withLink config.relationName ⟨config.relationPath.target, targets⟩
  | none => resource

/-- An inferred instance holds several targets exactly when the relation does, and its targets
are, in order, some of what the path reaches. -/
theorem inferredTargets_eq_some {many : Bool} {id : String} {targets : Targets}
    (inferred : config.inferredTargets data many id = some targets) :
    targets.isMany = many ∧ targets.ids.Sublist (resolvePath data id config.relationPath) := by
  unfold inferredTargets at inferred
  cases many with
  | true =>
    simp only [if_true, Option.some.injEq] at inferred
    subst inferred
    exact ⟨rfl, List.Sublist.refl _⟩
  | false =>
    simp only [Bool.false_eq_true, if_false, Option.map_eq_some_iff] at inferred
    obtain ⟨first, found, rfl⟩ := inferred
    obtain ⟨rest, listed⟩ := List.head?_eq_some_iff.mp found
    rw [listed]
    exact ⟨rfl, (List.nil_sublist rest).cons_cons first⟩

/-- The inferred instance of a resource that had none holds some of what the path reaches. -/
theorem targets_linkInferred_sublist {many : Bool} {id : String} {resource : Resource}
    (unlinked : Table.get? resource.links config.relationName = none) :
    ((config.linkInferred data many id resource).targets config.relationName).Sublist
      (resolvePath data id config.relationPath) := by
  unfold linkInferred
  cases inferred : config.inferredTargets data many id with
  | none => simp [Resource.targets, unlinked]
  | some targets =>
    simpa [Resource.targets, Resource.withLink, Table.get?_insert_self] using
      (inferredTargets_eq_some inferred).2

/-- The relation `infer_relation` adds, with the multiplicity of its path. -/
def inferredSpec (config : InferRelationConfig) (fans : Sides) : RelationSpec :=
  { targetClass := config.relationPath.target, multiple := ⟨fans.origin, fans.target⟩ }

variable {fans : Sides}

/-- In a conforming pack whose ids are distinct, linking every resource of the class to what
the path reaches gives instances that conform to the inferred relation. Resources with distinct ids
link to disjoint targets, since the path never reaches one target from two of them. -/
theorem relationConforms_linkInferred (conforms : Conforms model data)
    (distinct : ∀ cls, (Table.keys (data.classResources cls)).Nodup)
    (starts : config.relationPath.source = config.className)
    (walked : config.relationPath.multiplicity model = .ok fans)
    (unlinked : ∀ resource ∈ data.classResources config.className,
      Table.get? resource.2.links config.relationName = none) :
    RelationConforms (data.mapClass config.className (config.linkInferred data fans.target))
      config.className config.relationName (config.inferredSpec fans) where
  links resource member := by
    obtain ⟨original, listed, rfl⟩ := DataPack.mem_classResources_mapClass member
    unfold LinkConforms linkInferred
    cases inferred : config.inferredTargets data fans.target original.1 with
    | none => simp [unlinked original listed, inferredSpec, Sides.none]
    | some targets =>
      obtain ⟨shape, reached⟩ := inferredTargets_eq_some inferred
      simp only [Resource.withLink, Table.get?_insert_self, inferredSpec, Sides.none]
      refine ⟨trivial, shape, nofun, fun target member => ?_⟩
      rw [DataPack.keys_classResources_mapClass]
      have reachedTarget := reached.subset member
      by_cases empty : config.relationPath.elements = []
      · rw [resolvePath, mem_resolve_of_elements_eq_nil empty] at reachedTarget
        rw [RelationPath.target_eq_source_of_elements_eq_nil empty, starts, reachedTarget]
        exact Table.mem_keys_of_mem listed
      · exact resolve_mem_target conforms walked empty reachedTarget
  singleOrigin single := by
    rw [DataPack.classResources_mapClass, if_pos rfl, List.flatMap_map]
    refine List.nodup_flatMap.mpr ⟨fun resource listed => ?_, ?_⟩
    · exact (targets_linkInferred_sublist (unlinked resource listed)).nodup
        (nodup_resolve data _ resource.1)
    · have apart : (data.classResources config.className).Pairwise fun first second =>
          first.1 ≠ second.1 := List.pairwise_map.mp (distinct config.className)
      refine apart.imp_of_mem fun firstListed secondListed differ target inFirst inSecond => ?_
      exact differ (resolve_disjoint conforms walked single distinct
        ((targets_linkInferred_sublist (unlinked _ firstListed)).subset inFirst)
        ((targets_linkInferred_sublist (unlinked _ secondListed)).subset inSecond))
  referenced mandatory := by simp [inferredSpec, Sides.none] at mandatory

theorem mem_keys_links_linkInferred {many : Bool} {id relation : String} {resource : Resource}
    (linked : relation ∈ Table.keys (config.linkInferred data many id resource).links) :
    relation ∈ Table.keys resource.links ∨ relation = config.relationName := by
  unfold linkInferred at linked
  cases inferred : config.inferredTargets data many id with
  | none =>
    simp only [inferred] at linked
    exact Or.inl linked
  | some targets =>
    simp only [inferred, Resource.withLink] at linked
    exact Table.mem_keys_insert.mp linked

theorem get?_links_linkInferred_of_ne {many : Bool} {id relation : String} {resource : Resource}
    (differ : relation ≠ config.relationName) :
    Table.get? (config.linkInferred data many id resource).links relation =
      Table.get? resource.links relation := by
  unfold linkInferred
  cases config.inferredTargets data many id with
  | none => rfl
  | some targets => exact Table.get?_insert_of_ne _ _ differ

/-- What a check that succeeded and a reshaped model tell: the class exists and does not use
the relation's name, the path can be walked, and the output model is the class with the
inferred relation added. -/
theorem reshapeModel_eq_ok_of_check (accepted : config.check model = .ok ())
    (reshaped : config.reshapeModel model = .ok output) :
    ∃ cls fans, model.cls? config.className = some cls ∧
      Table.contains cls.relations config.relationName = false ∧
        config.relationPath.source = config.className ∧
        config.relationPath.multiplicity model = .ok fans ∧
          output = model.withClass config.className
            (cls.withRelation config.relationName (config.inferredSpec fans)) := by
  simp only [check, Except.bind_eq_ok] at accepted
  obtain ⟨fans, path, done, free, -⟩ := accepted
  obtain ⟨-, starts, counted⟩ := SchemaPack.checkPathFrom_eq_ok path
  simp only [reshapeModel, counted] at reshaped
  obtain ⟨cls, edited, present, edit, rfl⟩ := SchemaPack.editClass_eq_ok reshaped
  simp only [Except.pure_eq_ok] at edit
  subst edit
  have unused : cls.isNameTaken config.relationName = false := by
    cases taken : cls.isNameTaken config.relationName
    · rfl
    · rw [SchemaPack.requireNameFree_of_isNameTaken present taken] at free
      cases free
  simp only [ClassDef.isNameTaken, Bool.or_eq_false_iff] at unused
  exact ⟨cls, fans, present, unused.2, starts, counted, rfl⟩


/-- Inferring a relation in a conforming pack with distinct ids links every resource of the class
without fault, and the result conforms to the model with the relation added. The name is free in
the class, so no resource of the class has an instance of it yet, and a path that cannot fan out
forwards reaches no target or one, which is accepted. -/
theorem conforms_reshapeData (conforms : Conforms model data)
    (classesDistinct : (Table.keys model.classes).Nodup)
    (idsDistinct : ∀ cls, (Table.keys (data.classResources cls)).Nodup)
    (accepted : config.check model = .ok ()) (reshaped : config.reshapeModel model = .ok output) :
    ∃ result, config.reshapeData data output = .ok result ∧ Conforms output result := by
  obtain ⟨cls, fans, present, free, starts, walked, rfl⟩ :=
    reshapeModel_eq_ok_of_check accepted reshaped
  have stated : (model.withClass config.className (cls.withRelation config.relationName
      (config.inferredSpec fans))).requireRelation config.className config.relationName =
        .ok (config.inferredSpec fans) := by
    rw [SchemaPack.requireRelation_of_cls? (SchemaPack.cls?_withClass_self ..)]
    simp [ClassDef.relation?, ClassDef.withRelation, Table.get?_insert_self]
  have unlinked : ∀ resource ∈ data.classResources config.className,
      Table.get? resource.2.links config.relationName = none := by
    intro resource listed
    apply Table.get?_eq_none_of_not_mem_keys
    intro linked
    have declared :=
      conforms.declared _ (Table.mem_of_get?_eq_some present) resource listed _ linked
    rw [← Table.contains_eq_true_iff] at declared
    simp [declared] at free
  have linked : config.reshapeData data (model.withClass config.className
      (cls.withRelation config.relationName (config.inferredSpec fans))) =
        .ok (data.mapClass config.className (config.linkInferred data fans.target)) := by
    unfold reshapeData
    simp only [stated, pure_bind]
    apply DataPack.editResources_eq_ok
    rintro ⟨id, resource⟩ -
    cases many : fans.target with
    | true => simp [inferredSpec, many, linkInferred, inferredTargets, resolvePath]
    | false =>
      have single : (Resolver.new data config.relationPath).resolveSingle id "infer_relation" =
          .ok ((Resolver.new data config.relationPath).resolve id).head? :=
        Resolver.resolveSingle_eq_ok (resolve_subsingleton conforms walked many id)
      simp [inferredSpec, many, single, linkInferred, inferredTargets, resolvePath]
      cases ((Resolver.new data config.relationPath).resolve id).head? <;> rfl
  have keepsContent : ∀ id resource,
      (config.linkInferred data fans.target id resource).content = resource.content := by
    intro id resource
    unfold linkInferred
    cases config.inferredTargets data fans.target id <;> rfl
  refine ⟨_, linked, conforms.editClass classesDistinct present
    (conforms.contents_mapClass present rfl keepsContent) ?_ ?_⟩
  · intro resource listed relation linkedHere
    rw [ClassDef.withRelation, Table.mem_keys_insert]
    exact (mem_keys_links_linkInferred linkedHere).imp_left
      (conforms.declared _ (Table.mem_of_get?_eq_some present) resource listed relation)
  · intro relation member
    rcases Table.mem_of_mem_insert member with kept | rfl
    · have differ : relation.1 ≠ config.relationName := by
        intro same
        have contained := (Table.contains_eq_true_iff _ _).mpr
          (same ▸ Table.mem_keys_of_mem kept)
        simp [contained] at free
      exact Or.inl ⟨kept, fun resource _ => get?_links_linkInferred_of_ne differ⟩
    · exact Or.inr (relationConforms_linkInferred conforms idsDistinct starts walked unlinked)


end InferRelationConfig

/-! ### Relation edits never fail -/

/-- A handler built for `infer_relation` or `delete_relations` transforms every data pack its
input validator accepts, and the result conforms to the output model. Class names and the ids
of each class are distinct, as in every pack read from JSON (`keyed_of_ofText`). -/
theorem run_eq_ok_of_relationEdit {transformation : Transformation} {model : SchemaPack}
    {handler : Handler} {data : DataPack}
    (relational : (∃ config, transformation = .inferRelation config) ∨
      ∃ config, transformation = .deleteRelations config)
    (built : Handler.new transformation model = .ok handler)
    (classesDistinct : (Table.keys model.classes).Nodup)
    (idsDistinct : ∀ cls, (Table.keys (data.classResources cls)).Nodup)
    (accepted : handler.input.check data = .ok ()) :
    ∃ output, handler.run data = .ok output ∧ Conforms handler.outputModel output := by
  obtain ⟨rfl, inputBuilt, checked, reshaped, outputBuilt⟩ := Handler.new_eq_ok built
  have conforms := ModelValidator.conforms_of_check_eq_ok inputBuilt accepted
  have edited : ∃ output, handler.transformation.reshapeData data handler.outputModel = .ok output ∧
      Conforms handler.outputModel output := by
    rcases relational with ⟨config, named⟩ | ⟨config, named⟩
    · rw [named] at checked reshaped ⊢
      exact InferRelationConfig.conforms_reshapeData conforms classesDistinct idsDistinct checked
        reshaped
    · rw [named] at checked reshaped ⊢
      exact DeleteRelationsConfig.conforms_reshapeData conforms classesDistinct checked reshaped
  obtain ⟨output, transformed, conformsAfter⟩ := edited
  exact ⟨output, Handler.run_eq_ok.mpr ⟨accepted, transformed,
    ModelValidator.check_eq_ok_of_conforms outputBuilt conformsAfter⟩, conformsAfter⟩

/-- Files held by samples get the sample holding them: the path walks the samples' relation
backwards, so each file reaches one sample at most, and the run succeeds. -/
theorem fileSample_inferred :
    let anything : Json := .obj [("$schema", .str "http://json-schema.org/draft-04/schema#")]
    let files : RelationSpec := { targetClass := "File", multiple := ⟨false, true⟩ }
    let model : SchemaPack :=
      { classes := [
          ("Sample",
            { id := { propertyName := "id" }, content := anything, relations := [("files", files)] }),
          ("File", { id := { propertyName := "id" }, content := anything })] }
    let data : DataPack :=
      { resources := [
          ("Sample", [("s1", { links := [("files", ⟨"File", .many ["f1", "f2"]⟩)] }),
            ("s2", { links := [("files", ⟨"File", .many ["f3"]⟩)] })]),
          ("File", [("f1", {}), ("f2", {}), ("f3", {}), ("f4", {})])] }
    let transformation : Transformation := .inferRelation
      { className := "File", relationName := "sample",
        relationPath := ⟨[⟨.passive, "File", "Sample", "files"⟩], "File<(files)Sample"⟩ }
    ∃ handler, Handler.new transformation model = .ok handler ∧
      (Table.keys model.classes).Nodup ∧ (∀ cls, (Table.keys (data.classResources cls)).Nodup) ∧
        handler.input.check data = .ok () ∧
          ∃ output, handler.run data = .ok output ∧ Conforms handler.outputModel output := by
  intro anything files model data transformation
  obtain ⟨handler, built, computed⟩ := Except.exists_eq_ok_of_toOption_map
    (show ((Handler.new transformation model).toOption.map fun handler =>
      (handler.input.check data).isOk) = some true by decide +kernel)
  obtain ⟨⟨⟩, accepted⟩ := Except.exists_eq_ok_of_isOk computed
  have classesDistinct : (Table.keys model.classes).Nodup := by decide
  have idsDistinct : ∀ cls, (Table.keys (data.classResources cls)).Nodup := by
    intro cls
    simp only [data, DataPack.classResources, DataPack.classResources?, Table.get?]
    split_ifs <;> decide
  exact ⟨handler, built, classesDistinct, idsDistinct, accepted,
    run_eq_ok_of_relationEdit (Or.inl ⟨_, rfl⟩) built classesDistinct idsDistinct accepted⟩

end Recast
