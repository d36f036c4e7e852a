import Recast.Proofs.Transform.RelationEdits
/-!
Transformations that edit contents fail only where the edited content schema refuses.

`add_content_property`, `count_references` and `delete_content_properties` each rewrite the
content schema of one class and, in step, the members of the content of every resource of that
class: a property set to a value or to a count, or properties removed. Relations, links and ids
stay, so of the invariants of a data pack only the contents of that class are at stake. On
contents that are objects the data stage succeeds, and the run then succeeds exactly when every
edited content passes the edited content schema (`run_eq_ok_iff_contents_admitted`).

Whether it does depends on keywords of the content schema that no assumption check reads: a
schema that bounds the number of members refuses a property added to a content already at the
bound (`maxProperties_refuses_added_property`). Nor does any check ask for contents to be objects:
a content schema without `type` admits a number (`nonObjectContent_faults`), and the data stage
stops with a fault exactly at the first content of the class that is not an object
(`run_eq_fault_iff_nonObject`).
-/

namespace Recast

open Json

/-! ### Rewriting the members of a content -/

namespace Resource

/-- A resource whose content object has its members rewritten; any other content is kept. -/
def withFields (edit : Table Json → Table Json) (resource : Resource) : Resource :=
  match resource.content with
  | .obj fields => { resource with content := .obj (edit fields) }
  | _ => resource

theorem links_withFields (edit : Table Json → Table Json) (resource : Resource) :
    (resource.withFields edit).links = resource.links := by
  unfold withFields
  split <;> rfl

theorem editContent_eq_ok {transformation cls id : String} {resource : Resource}
    {edit : Table Json → Table Json} {fields : Table Json} (object : resource.content = .obj fields) :
    resource.editContent transformation cls id edit = .ok (resource.withFields edit) := by
  simp [editContent, withFields, object]

end Resource

/-- Rewriting the content members of every resource of a class whose contents are objects never
fails. -/
theorem DataPack.editResources_withFields {data : DataPack} {cls transformation : String}
    {edit : String → Table Json → Table Json}
    (objects : ∀ resource ∈ data.classResources cls, ∃ fields, resource.2.content = .obj fields) :
    data.editResources cls (fun id resource => resource.editContent transformation cls id (edit id)) =
      .ok (data.mapClass cls fun id resource => resource.withFields (edit id)) :=
  DataPack.editResources_eq_ok fun entry listed => by
    obtain ⟨fields, object⟩ := objects entry listed
    exact Resource.editContent_eq_ok object

/-- A class edit that changes only the content schema keeps the class's relations. -/
theorem SchemaPack.editClass_eq_ok_of_keeps {pack output : SchemaPack} {name : String}
    {missing : ReshapeError} {edit : ClassDef → Except ReshapeError ClassDef}
    (keeps : ∀ cls edited, edit cls = .ok edited → edited.relations = cls.relations)
    (reshaped : pack.editClass name missing edit = .ok output) :
    ∃ cls edited, pack.cls? name = some cls ∧ edited.relations = cls.relations ∧
      output = pack.withClass name edited := by
  obtain ⟨cls, edited, present, changed, rfl⟩ := SchemaPack.editClass_eq_ok reshaped
  exact ⟨cls, edited, present, keeps cls edited changed, rfl⟩

/-- Adding a property changes only the content schema of the class, extending its `required` list
only when the property is required. -/
theorem AddPropertyConfig.reshapeModel_eq_ok {config : AddPropertyConfig} {model output : SchemaPack}
    (reshaped : config.reshapeModel model = .ok output) :
    ∃ found edited, model.cls? config.className = some found ∧
      edited.relations = found.relations ∧ output = model.withClass config.className edited := by
  refine SchemaPack.editClass_eq_ok_of_keeps ?_ reshaped
  intro cls edited changed
  simp only [Except.bind_eq_ok] at changed
  obtain ⟨content, -, rest⟩ := changed
  cases required : config.required <;>
    simp only [required, Bool.false_eq_true, if_false, if_true, pure_bind, Except.bind_eq_ok,
      Except.pure_eq_ok] at rest
  · subst rest
    rfl
  · obtain ⟨final, -, rfl⟩ := rest
    rfl

/-- Counting references changes only the content schema of the class. -/
theorem CountReferencesConfig.reshapeModel_eq_ok {config : CountReferencesConfig}
    {model output : SchemaPack} (reshaped : config.reshapeModel model = .ok output) :
    ∃ found edited, model.cls? config.className = some found ∧
      edited.relations = found.relations ∧ output = model.withClass config.className edited := by
  refine SchemaPack.editClass_eq_ok_of_keeps ?_ reshaped
  intro cls edited changed
  simp only [Except.bind_eq_ok, Except.pure_eq_ok] at changed
  obtain ⟨content, -, final, -, rfl⟩ := changed
  rfl

/-- Deleting properties changes only the content schema of the class. -/
theorem DeletePropertiesConfig.reshapeModel_eq_ok {config : DeletePropertiesConfig}
    {model output : SchemaPack} (reshaped : config.reshapeModel model = .ok output) :
    ∃ found edited, model.cls? config.className = some found ∧
      edited.relations = found.relations ∧ output = model.withClass config.className edited := by
  refine SchemaPack.editClass_eq_ok_of_keeps ?_ reshaped
  intro cls edited changed
  simp only [Except.bind_eq_ok, Except.pure_eq_ok] at changed
  obtain ⟨content, -, rfl⟩ := changed
  rfl

/-! ### Runs that edit the contents of one class -/

section Runs

variable {handler : Handler} {model : SchemaPack} {data : DataPack} {cls : String}
  {found edited : ClassDef} {edit : String → Table Json → Table Json}

/-- Once the contents of one class are rewritten in a conforming pack with distinct class names,
the pack conforms to the model with the class's content schema rewritten exactly when the
rewritten contents pass the rewritten schema. -/
theorem conforms_mapClass_withFields (conforms : Conforms model data)
    (classesDistinct : (Table.keys model.classes).Nodup)
    (dataDistinct : (Table.keys data.resources).Nodup)
    (present : model.cls? cls = some found) (relations : edited.relations = found.relations)
    (admitted : ∀ schema, JsonSchema.Validator.compile edited.content = .ok schema →
      ∀ resource ∈ (data.mapClass cls fun id resource => resource.withFields (edit id)).classResources
        cls, schema.check resource.2.content = none) :
    Conforms (model.withClass cls edited)
      (data.mapClass cls fun id resource => resource.withFields (edit id)) := by
  have resultDistinct : (Table.keys
      (data.mapClass cls fun id resource => resource.withFields (edit id)).resources).Nodup := by
    show (DataPack.classNames _).Nodup
    rw [DataPack.classNames_mapClass]
    exact dataDistinct
  refine conforms.editClass classesDistinct present ?_ ?_ ?_
  · -- each entry of the result holds the resources of its class, rewritten only for the class
    intro entry member other foundOther schema compiled resource listed
    have inClass := DataPack.mem_classResources_of_mem_resources resultDistinct member listed
    by_cases same : entry.1 = cls
    · rw [same, SchemaPack.cls?_withClass_self, Option.some.injEq] at foundOther
      subst foundOther
      rw [same] at inClass
      exact admitted schema compiled resource inClass
    · rw [SchemaPack.cls?_withClass_of_ne _ _ same] at foundOther
      rw [DataPack.classResources_mapClass_of_ne same] at inClass
      obtain ⟨original, originalMember, named, inOriginal⟩ :=
        DataPack.mem_resources_of_mem_classResources inClass
      exact conforms.contents original originalMember other (named ▸ foundOther) schema compiled
        resource inOriginal
  · intro resource listed relation linked
    rw [Resource.links_withFields] at linked
    rw [relations]
    exact conforms.declared _ (Table.mem_of_get?_eq_some present) resource listed relation linked
  · intro relation member
    exact Or.inl ⟨relations ▸ member, fun resource _ => by rw [Resource.links_withFields]⟩

/-- A run whose data stage rewrites the contents of one class succeeds exactly when the
rewritten contents pass the rewritten content schema. -/
theorem run_eq_ok_iff_of_withFields
    (inputBuilt : ModelValidator.new model = .ok handler.input)
    (outputBuilt : ModelValidator.new handler.outputModel = .ok handler.output)
    (classesDistinct : (Table.keys model.classes).Nodup)
    (dataDistinct : (Table.keys data.resources).Nodup)
    (accepted : handler.input.check data = .ok ())
    (present : model.cls? cls = some found) (relations : edited.relations = found.relations)
    (output : handler.outputModel = model.withClass cls edited)
    (reshaped : handler.transformation.reshapeData data handler.outputModel =
      .ok (data.mapClass cls fun id resource => resource.withFields (edit id))) :
    handler.run data = .ok (data.mapClass cls fun id resource => resource.withFields (edit id)) ↔
      ∀ schema, JsonSchema.Validator.compile edited.content = .ok schema →
        ∀ resource ∈ (data.mapClass cls fun id resource =>
          resource.withFields (edit id)).classResources cls,
            schema.check resource.2.content = none := by
  have conforms := ModelValidator.conforms_of_check_eq_ok inputBuilt accepted
  rw [Handler.run_eq_ok]
  simp only [accepted, reshaped, true_and]
  constructor
  · intro checked schema compiled resource listed
    have after := ModelValidator.conforms_of_check_eq_ok outputBuilt checked
    rw [output] at after
    obtain ⟨entry, member, named, inEntry⟩ := DataPack.mem_resources_of_mem_classResources listed
    exact after.contents entry member edited (by rw [named, SchemaPack.cls?_withClass_self])
      schema compiled resource inEntry
  · intro admitted
    apply ModelValidator.check_eq_ok_of_conforms outputBuilt
    rw [output]
    exact conforms_mapClass_withFields conforms classesDistinct dataDistinct present relations
      admitted

end Runs

/-! ### Content edits fail only on refused contents -/

/-- The transformations that rewrite the contents of the resources of one class. -/
inductive EditsContents : Transformation → String → Prop
  | addContentProperty (config : AddPropertyConfig) :
      EditsContents (.addContentProperty config) config.className
  | countReferences (config : CountReferencesConfig) :
      EditsContents (.countReferences config) config.className
  | deleteContentProperties (config : DeletePropertiesConfig) :
      EditsContents (.deleteContentProperties config) config.className

namespace EditsContents

variable {transformation : Transformation} {cls : String}

/-- A content edit changes only the content schema of its class. -/
theorem reshapeModel_eq_ok (editing : EditsContents transformation cls) {model output : SchemaPack}
    (reshaped : transformation.reshapeModel model = .ok output) :
    ∃ found edited, model.cls? cls = some found ∧ edited.relations = found.relations ∧
      output = model.withClass cls edited := by
  cases editing with
  | addContentProperty config => exact AddPropertyConfig.reshapeModel_eq_ok reshaped
  | countReferences config => exact CountReferencesConfig.reshapeModel_eq_ok reshaped
  | deleteContentProperties config => exact DeletePropertiesConfig.reshapeModel_eq_ok reshaped

/-- The data stage of a content edit rewrites the content members of every resource of its class,
naming the transformation in its faults. -/
theorem reshapeData_eq (editing : EditsContents transformation cls) (data : DataPack)
    (output : SchemaPack) :
    ∃ edit : String → Table Json → Table Json, transformation.reshapeData data output =
      data.editResources cls fun id resource =>
        resource.editContent transformation.name cls id (edit id) := by
  cases editing with
  | addContentProperty config =>
    exact ⟨fun _ fields => Table.insert fields config.propertyName config.value, rfl⟩
  | countReferences config =>
    exact ⟨fun id fields => Table.insert fields config.contentProperty
      (.nat ((Resolver.new data config.relationPath).resolve id).length), rfl⟩
  | deleteContentProperties config =>
    exact ⟨fun _ fields => Content.eraseAll fields config.propertyNames, rfl⟩

end EditsContents

/-- A handler built for a transformation that rewrites the contents of one class, run on a pack
its input validator accepts whose contents in the class are objects, rewrites those contents
without fault and leaves ids and relation instances alone; the run then succeeds exactly when
the output content schema of the class admits every rewritten content. Class names are distinct
in the model and in the pack, as in every pack read from JSON (`keyed_of_ofText`). Every kind of
such transformation replaces the class by one with the same relations and rewrites members of its
contents. -/
theorem run_eq_ok_iff_contents_admitted {transformation : Transformation} {cls : String}
    {model : SchemaPack} {handler : Handler} {data : DataPack}
    (editing : EditsContents transformation cls)
    (built : Handler.new transformation model = .ok handler)
    (classesDistinct : (Table.keys model.classes).Nodup)
    (dataDistinct : (Table.keys data.resources).Nodup)
    (accepted : handler.input.check data = .ok ())
    (objects : ∀ resource ∈ data.classResources cls, ∃ fields, resource.2.content = .obj fields) :
    ∃ edited, handler.transformation.reshapeData data handler.outputModel = .ok edited ∧
      (∀ other, (edited.classResources other).map (fun entry => (entry.1, entry.2.links)) =
        (data.classResources other).map fun entry => (entry.1, entry.2.links)) ∧
      (handler.run data = .ok edited ↔ ∀ found, handler.outputModel.cls? cls = some found →
        ∀ schema, JsonSchema.Validator.compile found.content = .ok schema →
          ∀ resource ∈ edited.classResources cls, schema.check resource.2.content = none) := by
  obtain ⟨named, inputBuilt, -, reshaped, outputBuilt⟩ := Handler.new_eq_ok built
  obtain ⟨found, edited, present, relations, output⟩ := editing.reshapeModel_eq_ok reshaped
  obtain ⟨edit, rewrites⟩ := editing.reshapeData_eq data handler.outputModel
  have rewritten : handler.transformation.reshapeData data handler.outputModel =
      .ok (data.mapClass cls fun id resource => resource.withFields (edit id)) := by
    rw [named, rewrites]
    exact DataPack.editResources_withFields objects
  refine ⟨_, rewritten, fun other => ?_, ?_⟩
  · rw [DataPack.classResources_mapClass]
    split
    · next same =>
      subst same
      simp [Function.comp_def, Resource.links_withFields]
    · rfl
  · rw [run_eq_ok_iff_of_withFields inputBuilt outputBuilt classesDistinct dataDistinct accepted
      present relations output rewritten, output, SchemaPack.cls?_withClass_self]
    simp

/-! ### A content schema that admits no member -/

/-- Samples whose content schema, read in the default edition, admits no member. -/
def cappedSamples : SchemaPack :=
  { classes := [("Sample",
      { id := { propertyName := "id" }, content := .obj [("maxProperties", .nat 0)] })] }

/-- One sample with an empty content. -/
def emptySample : DataPack :=
  { resources := [("Sample", [("s1", {})])] }

/-- Adds the optional property `b`, of any value, with value 1 to every sample. -/
def sampleAddition : Transformation :=
  .addContentProperty
    { className := "Sample", propertyName := "b", schema := .obj [], value := .nat 1,
      required := false }

/-- The addition is built for capped samples and accepts the empty sample, whose run then fails:
the whole pipeline evaluated once. -/
theorem cappedSamples_addition : ∃ handler, Handler.new sampleAddition cappedSamples = .ok handler ∧
    handler.input.check emptySample = .ok () ∧ (handler.run emptySample).isOk = false := by
  obtain ⟨handler, built, computed⟩ := Except.exists_eq_ok_of_toOption_map
    (show ((Handler.new sampleAddition cappedSamples).toOption.map fun handler =>
      ((handler.input.check emptySample).isOk, (handler.run emptySample).isOk)) =
        some (true, false) by decide +kernel)
  obtain ⟨checked, refused⟩ := Prod.mk.inj computed
  obtain ⟨⟨⟩, accepted⟩ := Except.exists_eq_ok_of_isOk checked
  exact ⟨handler, built, accepted, refused⟩

/-- The theorem applies to the capped samples: their names are distinct, the empty sample is
accepted and its content is an object. -/
theorem cappedSamples_contents_admitted :
    ∃ handler, Handler.new sampleAddition cappedSamples = .ok handler ∧
      (Table.keys cappedSamples.classes).Nodup ∧ (Table.keys emptySample.resources).Nodup ∧
        handler.input.check emptySample = .ok () ∧
          (∀ resource ∈ emptySample.classResources "Sample", ∃ fields,
            resource.2.content = .obj fields) ∧
      ∃ edited, handler.transformation.reshapeData emptySample handler.outputModel = .ok edited ∧
        (∀ other, (edited.classResources other).map (fun entry => (entry.1, entry.2.links)) =
          (emptySample.classResources other).map fun entry => (entry.1, entry.2.links)) ∧
        (handler.run emptySample = .ok edited ↔ ∀ found,
          handler.outputModel.cls? "Sample" = some found →
            ∀ schema, JsonSchema.Validator.compile found.content = .ok schema →
              ∀ resource ∈ edited.classResources "Sample", schema.check resource.2.content = none) := by
  obtain ⟨handler, built, accepted, -⟩ := cappedSamples_addition
  have classesDistinct : (Table.keys cappedSamples.classes).Nodup := by decide
  have dataDistinct : (Table.keys emptySample.resources).Nodup := by decide
  have objects : ∀ resource ∈ emptySample.classResources "Sample", ∃ fields,
      resource.2.content = .obj fields := by
    simp [emptySample, DataPack.classResources, DataPack.classResources?, Table.get?]
  exact ⟨handler, built, classesDistinct, dataDistinct, accepted, objects,
    run_eq_ok_iff_contents_admitted (.addContentProperty _) built classesDistinct dataDistinct
      accepted objects⟩

/-- A content schema that admits no member refuses the property `add_content_property` adds: the
assumptions hold and the pack is accepted, yet the run fails when its result is checked. -/
theorem maxProperties_refuses_added_property :
    ∃ handler, Handler.new sampleAddition cappedSamples = .ok handler ∧
      handler.input.check emptySample = .ok () ∧ ∀ output, handler.run emptySample ≠ .ok output := by
  obtain ⟨handler, built, accepted, refused⟩ := cappedSamples_addition
  refine ⟨handler, built, accepted, fun output ran => ?_⟩
  rw [ran] at refused
  simp [Except.isOk, Except.toBool] at refused

/-! ### A content that is not an object -/

/-- Rewriting the members of a content fails exactly on a content that is not an object, with a
fault naming the resource. -/
theorem Resource.editContent_eq_error {transformation cls id : String} {resource : Resource}
    {edit : Table Json → Table Json} {fault : DataFault} :
    resource.editContent transformation cls id edit = .error fault ↔
      (∀ fields, resource.content ≠ .obj fields) ∧
        fault = ⟨transformation, "content of resource '" ++ cls ++ "/" ++ id ++ "' is not an object"⟩ := by
  unfold Resource.editContent
  split
  · next fields object => simp [object]
  · next notObject =>
    simp only [Except.error.injEq]
    exact ⟨fun same => ⟨notObject, same.symm⟩, fun both => both.2.symm⟩

/-- Rewriting the content members of the resources of a class stops at the first resource whose
content is not an object, with a fault naming it; every resource before it holds an object. -/
theorem DataPack.editResources_editContent_eq_error {data : DataPack} {cls transformation : String}
    {edit : String → Table Json → Table Json} {fault : DataFault} :
    data.editResources cls (fun id resource => resource.editContent transformation cls id (edit id)) =
        .error fault ↔
      ∃ pre id resource post, data.classResources cls = pre ++ (id, resource) :: post ∧
        (∀ earlier ∈ pre, ∃ fields, earlier.2.content = .obj fields) ∧
        (∀ fields, resource.content ≠ .obj fields) ∧
        fault = ⟨transformation, "content of resource '" ++ cls ++ "/" ++ id ++ "' is not an object"⟩ := by
  unfold DataPack.editResources
  cases found : data.classResources? cls with
  | none =>
    have empty : data.classResources cls = [] := by simp [DataPack.classResources, found]
    simp [empty]
  | some resources =>
    have listed : data.classResources cls = resources := by simp [DataPack.classResources, found]
    simp only [listed, Except.bind_eq_error, pure, Except.pure, reduceCtorEq, and_false,
      exists_false, or_false]
    rw [mapM_except_eq_error_iff (fun entry => ∃ fields, entry.2.content = .obj fields)
      (fun entry failure => (∀ fields, entry.2.content ≠ .obj fields) ∧ failure =
        ⟨transformation, "content of resource '" ++ cls ++ "/" ++ entry.1 ++ "' is not an object"⟩)]
    · constructor
      · rintro ⟨pre, ⟨id, resource⟩, post, split, earlier, failed⟩
        exact ⟨pre, id, resource, post, split, earlier, failed⟩
      · rintro ⟨pre, id, resource, post, split, earlier, failed⟩
        exact ⟨pre, (id, resource), post, split, earlier, failed⟩
    · rintro ⟨id, resource⟩
      cases content : resource.content <;> simp [Resource.editContent, content]
    · rintro ⟨id, resource⟩ failure
      simp only [Except.bind_eq_error, Resource.editContent_eq_error]
      simp

/-- A handler built for a transformation that rewrites the contents of one class, run on a pack its
input validator accepts, stops on a fault exactly when a content of the class is not an object; the
fault names the first such resource, every resource before it holding an object. Whether the input
validator accepts such a content is up to the content schema, which need not ask for an object. -/
theorem run_eq_fault_iff_nonObject {transformation : Transformation} {cls : String}
    {model : SchemaPack} {handler : Handler} {data : DataPack} {fault : DataFault}
    (editing : EditsContents transformation cls)
    (built : Handler.new transformation model = .ok handler)
    (accepted : handler.input.check data = .ok ()) :
    handler.run data = .error (.fault fault) ↔
      ∃ pre id resource post, data.classResources cls = pre ++ (id, resource) :: post ∧
        (∀ earlier ∈ pre, ∃ fields, earlier.2.content = .obj fields) ∧
        (∀ fields, resource.content ≠ .obj fields) ∧
        fault = ⟨transformation.name,
          "content of resource '" ++ cls ++ "/" ++ id ++ "' is not an object"⟩ := by
  obtain ⟨named, -⟩ := Handler.new_eq_ok built
  obtain ⟨edit, rewrites⟩ := editing.reshapeData_eq data handler.outputModel
  rw [Handler.run_eq_fault, named, rewrites]
  simp only [accepted, true_and]
  exact DataPack.editResources_editContent_eq_error

/-- Samples whose content schema `{}` admits every value. -/
def unrestrictedSamples : SchemaPack :=
  { classes := [("Sample", { id := { propertyName := "id" }, content := .obj [] })] }

/-- One sample whose content is the number 1. -/
def numberSample : DataPack :=
  { resources := [("Sample", [("s1", { content := .nat 1 })])] }

/-- A content schema that does not ask for an object admits a number, to which the addition cannot
add a property: the assumptions hold and the pack is accepted, yet the data stage stops on a
fault naming the resource whose content is not an object, as `run_eq_fault_iff_nonObject` says of
every such run. -/
theorem nonObjectContent_faults :
    ∃ handler, Handler.new sampleAddition unrestrictedSamples = .ok handler ∧
      handler.input.check numberSample = .ok () ∧
      handler.run numberSample = .error (.fault
        ⟨"add_content_property", "content of resource 'Sample/s1' is not an object"⟩) := by
  obtain ⟨handler, built, computed⟩ := Except.exists_eq_ok_of_toOption_map
    (show ((Handler.new sampleAddition unrestrictedSamples).toOption.map fun handler =>
      ((handler.input.check numberSample).isOk,
        match handler.run numberSample with
        | .error (.fault found) => some found
        | _ => none)) =
        some (true, some ⟨"add_content_property",
          "content of resource 'Sample/s1' is not an object"⟩) by decide +kernel)
  obtain ⟨checked, faulted⟩ := Prod.mk.inj computed
  obtain ⟨⟨⟩, accepted⟩ := Except.exists_eq_ok_of_isOk checked
  refine ⟨handler, built, accepted, ?_⟩
  split at faulted
  · next found ran =>
    rw [ran, Option.some.inj faulted]
  · cases faulted

end Recast
