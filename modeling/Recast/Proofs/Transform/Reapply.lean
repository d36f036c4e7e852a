import Recast.Transform.Registry
/-!
Applying a transformation to its own output.

A transformation that adds a name to a class leaves that name taken, so the assumption check of a
second application in a row fails with `nameAlreadyExists`. One that removes names leaves the first
of them missing, so a second application fails with `contentPropertyNotFound` or
`relationNotFound`. Only a deletion of no names at all is accepted again.

The additions of a content property need nothing of the input model: whatever they produce
declares the new property. Counting references and inferring a relation also check a relation
path, which must be walked alike in the output; that holds because the output changes no relation
the path follows. For an inferred relation this rests on the accepted check: the new relation's
name was free, so no hop of the path follows it.

Main statement: `check_output_of_reshapeModel`, the check of the output is `reapplication`;
`inferRelation_reapplied` shows it at a relation inferred from a one-hop path.
-/

namespace Recast

/-! ### Paths walked in an edited model -/

/-- A hop is walked alike once the class `name` is replaced, when for a hop held by that class the
replacement declares, under the hop's property, what the class declared. -/
theorem Hop.relation_withClass {model : SchemaPack} {name : String} {cls edited : ClassDef}
    (present : model.cls? name = some cls) {hop : Hop}
    (kept : hop.holder = name → edited.relation? hop.property = cls.relation? hop.property) :
    hop.relation (model.withClass name edited) = hop.relation model := by
  apply Hop.relation_congr (SchemaPack.isSome_cls?_withClass present edited)
  by_cases same : hop.holder = name
  · rw [same, SchemaPack.requireRelation_of_cls? (SchemaPack.cls?_withClass_self ..),
      SchemaPack.requireRelation_of_cls? present, kept same]
  · simp [SchemaPack.requireRelation, SchemaPack.requireClass,
      SchemaPack.cls?_withClass_of_ne _ _ same]

/-- A path is checked alike once the class `name` is replaced by one that declares what the class
declared under every property the path follows from it. -/
theorem SchemaPack.checkPathFrom_withClass {model : SchemaPack} {name start : String}
    {cls edited : ClassDef} (present : model.cls? name = some cls) {path : RelationPath}
    (kept : ∀ hop ∈ path.elements, hop.holder = name →
      edited.relation? hop.property = cls.relation? hop.property) :
    (model.withClass name edited).checkPathFrom start path = model.checkPathFrom start path :=
  SchemaPack.checkPathFrom_congr (SchemaPack.isSome_cls?_withClass present edited)
    fun hop member => Hop.relation_withClass present (kept hop member)

/-! ### Additions -/

namespace AddPropertyConfig

/-- A model with the added property refuses the property's name. -/
theorem check_of_reshapeModel {config : AddPropertyConfig} {model output : SchemaPack}
    (reshaped : config.reshapeModel model = .ok output) :
    config.check output = .error (.nameAlreadyExists config.className config.propertyName) := by
  obtain ⟨cls, edited, _, edit, rfl⟩ := SchemaPack.editClass_eq_ok reshaped
  have taken : edited.isNameTaken config.propertyName = true := by
    cases first : Content.editProperties cls.content
        (Table.insert · config.propertyName config.schema) with
    | none => simp [first, orError, bind, Except.bind] at edit
    | some content =>
      obtain ⟨properties, inserted⟩ := Content.field?_editProperties first
      have declared : content.field? "properties" =
          some (.obj (Table.insert properties config.propertyName config.schema)) := inserted
      simp only [first, orError, bind, Except.bind] at edit
      apply ClassDef.isNameTaken_of_hasContentProperty
      split at edit
      · cases second : Content.appendRequired content config.propertyName with
        | none => simp [second] at edit
        | some final =>
          simp only [second, pure, Except.pure, Except.ok.injEq] at edit
          rw [← edit, ClassDef.hasContentProperty_eq _
            ((Content.field?_appendRequired second).trans declared)]
          exact Table.contains_insert_self ..
      · simp only [pure, Except.pure, Except.ok.injEq] at edit
        rw [← edit, ClassDef.hasContentProperty_eq _ declared]
        exact Table.contains_insert_self ..
  simp only [check, SchemaPack.requireNameFree_of_isNameTaken
    (SchemaPack.cls?_withClass_self ..) taken]
  rfl

end AddPropertyConfig

namespace CountReferencesConfig

/-- A model with the count property refuses the property's name, once the path has been checked
as in the input, which it is, since the edit leaves the class's relations. -/
theorem check_of_reshapeModel {config : CountReferencesConfig} {model output : SchemaPack}
    (accepted : config.check model = .ok ())
    (reshaped : config.reshapeModel model = .ok output) :
    config.check output = .error (.nameAlreadyExists config.className config.contentProperty) := by
  obtain ⟨cls, edited, present, edit, rfl⟩ := SchemaPack.editClass_eq_ok reshaped
  cases first : Content.editProperties cls.content
      (Table.insert · config.contentProperty countSchema) with
  | none => simp [first, orError, bind, Except.bind] at edit
  | some content =>
    obtain ⟨properties, inserted⟩ := Content.field?_editProperties first
    cases second : Content.appendRequired content config.contentProperty with
    | none => simp [first, second, orError, bind, Except.bind] at edit
    | some final =>
      simp only [first, second, orError, bind, Except.bind, pure, Except.pure,
        Except.ok.injEq] at edit
      subst edit
      have taken : ({ cls with content := final } : ClassDef).isNameTaken
          config.contentProperty = true := by
        apply ClassDef.isNameTaken_of_hasContentProperty
        rw [ClassDef.hasContentProperty_eq _ ((Content.field?_appendRequired second).trans inserted)]
        exact Table.contains_insert_self ..
      have walked : (model.withClass config.className { cls with content := final }).checkPathFrom
          config.className config.relationPath =
            model.checkPathFrom config.className config.relationPath :=
        SchemaPack.checkPathFrom_withClass present fun _ _ _ => rfl
      cases path : model.checkPathFrom config.className config.relationPath with
      | error problem => simp [check, path, bind, Except.bind] at accepted
      | ok fans =>
        simp only [check, walked, path, bind, Except.bind,
          SchemaPack.requireNameFree_of_isNameTaken (SchemaPack.cls?_withClass_self ..) taken]

end CountReferencesConfig

namespace InferRelationConfig

/-- A model with the inferred relation refuses the relation's name: the path is still walked as
in the input, since the relation's name was free there and no hop follows it. -/
theorem check_of_reshapeModel {config : InferRelationConfig} {model output : SchemaPack}
    (accepted : config.check model = .ok ())
    (reshaped : config.reshapeModel model = .ok output) :
    config.check output = .error (.nameAlreadyExists config.className config.relationName) := by
  cases path : model.checkPathFrom config.className config.relationPath with
  | error problem => simp [check, path, bind, Except.bind] at accepted
  | ok fans =>
    cases free : model.requireNameFree config.className config.relationName with
    | error problem => simp [check, path, free, bind, Except.bind] at accepted
    | ok _ =>
      have counted := SchemaPack.multiplicity_of_checkPathFrom_eq_ok path
      simp only [reshapeModel, counted] at reshaped
      obtain ⟨cls, edited, present, edit, rfl⟩ := SchemaPack.editClass_eq_ok reshaped
      simp only [pure, Except.pure, Except.ok.injEq] at edit
      subst edit
      have unused : cls.isNameTaken config.relationName = false := by
        cases taken : cls.isNameTaken config.relationName
        · rfl
        · rw [SchemaPack.requireNameFree_of_isNameTaken present taken] at free
          cases free
      have walked : (model.withClass config.className (cls.withRelation config.relationName
          { targetClass := config.relationPath.target, multiple := ⟨fans.origin, fans.target⟩ })).checkPathFrom
            config.className config.relationPath =
            model.checkPathFrom config.className config.relationPath := by
        refine SchemaPack.checkPathFrom_withClass present fun hop member same => ?_
        obtain ⟨spec, walkedBefore⟩ := RelationPath.relation_of_fansFrom_eq_ok counted hop member
        have declared := Hop.requireRelation_of_relation_eq_ok walkedBefore
        rw [same, SchemaPack.requireRelation_of_cls? present] at declared
        have followed : cls.relation? hop.property = some spec := by
          cases found : cls.relation? hop.property with
          | none => simp [found] at declared
          | some result =>
            simp only [found, Except.ok.injEq] at declared
            rw [declared]
        have differ : hop.property ≠ config.relationName := by
          intro equal
          rw [equal] at followed
          simp [ClassDef.isNameTaken_of_relation?_eq_some followed] at unused
        simp only [ClassDef.relation?, ClassDef.withRelation, Table.get?_insert_of_ne _ _ differ]
      simp only [check, walked, path, bind, Except.bind,
        SchemaPack.requireNameFree_of_isNameTaken (SchemaPack.cls?_withClass_self ..)
          (ClassDef.isNameTaken_withRelation ..)]

end InferRelationConfig

/-! ### Deletions -/

namespace DeletePropertiesConfig

/-- A model without the deleted properties misses the first of them. -/
theorem check_of_reshapeModel {config : DeletePropertiesConfig} {model output : SchemaPack}
    (reshaped : config.reshapeModel model = .ok output) :
    config.check output = match config.propertyNames with
      | [] => .ok ()
      | name :: _ => .error (.contentPropertyNotFound config.className name) := by
  obtain ⟨className, names⟩ := config
  obtain ⟨cls, edited, _, edit, rfl⟩ := SchemaPack.editClass_eq_ok reshaped
  cases first : Content.editProperties cls.content (Content.eraseAll · names) with
  | none => simp [first, orError, bind, Except.bind] at edit
  | some content =>
    simp only [first, orError, bind, Except.bind, pure, Except.pure, Except.ok.injEq] at edit
    subst edit
    obtain ⟨properties, erased⟩ := Content.field?_editProperties first
    have gone : ∀ name ∈ names,
        ({ cls with content := Content.dropRequired content names } : ClassDef).hasContentProperty
          name = false := by
      intro name member
      rw [ClassDef.hasContentProperty_eq _ ((Content.field?_dropRequired content names).trans erased)]
      cases kept : Table.contains (Content.eraseAll properties names) name
      · rfl
      · have listed := (Table.contains_eq_true_iff ..).mp kept
        simp [Content.keys_eraseAll, member] at listed
    have present := SchemaPack.requireClass_of_cls? (SchemaPack.cls?_withClass_self model
      className { cls with content := Content.dropRequired content names })
    cases names with
    | nil => simp [check, present, bind, Except.bind, pure, Except.pure]
    | cons name rest =>
      simp [check, present, gone name (List.mem_cons_self ..), bind, Except.bind, throw, throwThe,
        MonadExceptOf.throw]

end DeletePropertiesConfig

namespace DeleteRelationsConfig

/-- A model without the deleted relations misses the first of them, once the class has been
found in the input. -/
theorem check_of_reshapeModel {config : DeleteRelationsConfig} {model output : SchemaPack}
    (accepted : config.check model = .ok ())
    (reshaped : config.reshapeModel model = .ok output) :
    config.check output = match config.relationNames with
      | [] => .ok ()
      | name :: _ => .error (.relationNotFound config.className name) := by
  obtain ⟨className, names⟩ := config
  cases found : model.cls? className with
  | none => simp [check, SchemaPack.requireClass, found, bind, Except.bind] at accepted
  | some cls =>
    simp only [reshapeModel, found, Except.ok.injEq] at reshaped
    subst reshaped
    have present := SchemaPack.cls?_withClass_self model className
      { cls with relations := Content.eraseAll cls.relations names }
    have gone : ∀ name ∈ names,
        ({ cls with relations := Content.eraseAll cls.relations names } : ClassDef).relation? name =
          none :=
      fun _ member => Content.get?_eraseAll_of_mem _ member
    cases names with
    | nil => simp [check, SchemaPack.requireClass_of_cls? present, bind, Except.bind, pure, Except.pure]
    | cons name rest =>
      simp [check, SchemaPack.requireClass_of_cls? present,
        SchemaPack.requireRelation_of_relation?_eq_none present (gone name (List.mem_cons_self ..)),
        bind, Except.bind]

end DeleteRelationsConfig

/-! ### Every transformation -/

namespace Transformation

/-- What the assumption check answers for a transformation's own output: the name an addition
took is no longer free, the first name a deletion removed is no longer found, and a deletion of
nothing is accepted again. -/
def reapplication : Transformation → Except AssumptionError Unit
  | .addContentProperty config => .error (.nameAlreadyExists config.className config.propertyName)
  | .countReferences config => .error (.nameAlreadyExists config.className config.contentProperty)
  | .inferRelation config => .error (.nameAlreadyExists config.className config.relationName)
  | .deleteContentProperties config =>
    match config.propertyNames with
    | [] => .ok ()
    | name :: _ => .error (.contentPropertyNotFound config.className name)
  | .deleteRelations config =>
    match config.relationNames with
    | [] => .ok ()
    | name :: _ => .error (.relationNotFound config.className name)

/-- A transformation whose assumptions a model meets, applied to the model it produced, meets
`reapplication`: a second application in a row fails unless it deletes nothing. -/
theorem check_output_of_reshapeModel {transformation : Transformation}
    {model output : SchemaPack} (accepted : transformation.check model = .ok ())
    (reshaped : transformation.reshapeModel model = .ok output) :
    transformation.check output = transformation.reapplication := by
  cases transformation with
  | addContentProperty config => exact AddPropertyConfig.check_of_reshapeModel reshaped
  | deleteContentProperties config => exact DeletePropertiesConfig.check_of_reshapeModel reshaped
  | deleteRelations config => exact DeleteRelationsConfig.check_of_reshapeModel accepted reshaped
  | countReferences config => exact CountReferencesConfig.check_of_reshapeModel accepted reshaped
  | inferRelation config => exact InferRelationConfig.check_of_reshapeModel accepted reshaped

/-- Inferring `Dataset.documents` from the path `Dataset(files)>File` is accepted once; the model it
produces refuses the name `documents`. -/
theorem inferRelation_reapplied :
    let files : RelationSpec := { targetClass := "File", multiple := ⟨false, true⟩ }
    let model : SchemaPack :=
      { classes := [("Dataset", { ClassDef.new "id" with relations := [("files", files)] }),
          ("File", ClassDef.new "id")] }
    let transformation := Transformation.inferRelation
      ⟨"Dataset", "documents", ⟨[⟨.active, "Dataset", "File", "files"⟩], "Dataset(files)>File"⟩,
        false⟩
    transformation.check model = .ok () ∧
      ∃ output, transformation.reshapeModel model = .ok output ∧
        transformation.check output = .error (.nameAlreadyExists "Dataset" "documents") := by
  intro files model transformation
  have accepted : transformation.check model = .ok () := by rfl
  obtain ⟨output, reshaped⟩ : ∃ output, transformation.reshapeModel model = .ok output :=
    ⟨_, rfl⟩
  exact ⟨accepted, output, reshaped, check_output_of_reshapeModel accepted reshaped⟩

end Transformation

end Recast
