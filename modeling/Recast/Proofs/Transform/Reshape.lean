import Mathlib.Data.List.Perm.Basic
import Recast.Proofs.Except
import Recast.Proofs.Transform.RelationEdits
/-!
Reshaping a model that meets a transformation's assumptions: when it fails, and what it gives.

The three content edits write into the `properties` object of the content schema of their class,
and two of them also append to its `required` list. A content schema that is not an object, whose
`properties` is not an object, or whose `required` is not a list when it is appended to, cannot
take the edit, and reshaping fails with `notAnObject` exactly then (`Content.Extensible`). No
assumption check looks at these shapes. The relation edits never fail: deleting relations needs
nothing, and inferring one needs a walkable path, which the check established.

What comes out is well formed again (`SchemaPack.WellFormed`, which `SchemaPack.check` decides).
An edit replaces one class where it stands, so the classes keep their names. A name an edit adds
was free in its class, since the check said so; names an edit removes leave the others distinct.
A relation an edit adds points at the class its path ends at, which the last hop of the walkable
path found in the model.

Main statement: `reshapeModel_fails_only_on_closed_content`.
-/

namespace Recast

/-! ### Well-formed models -/

/-- The first repeat is none exactly when the names are distinct and none was seen before. -/
theorem firstRepeat_eq_none_iff : ∀ {seen names : List String},
    firstRepeat seen names = none ↔ names.Nodup ∧ ∀ name ∈ names, name ∉ seen := by
  intro seen names
  induction names generalizing seen with
  | nil => simp [firstRepeat]
  | cons name rest inductionHypothesis =>
    by_cases again : name ∈ seen
    · simp [firstRepeat, again]
    · rw [firstRepeat, if_neg (by simpa using again), inductionHypothesis]
      simp only [List.nodup_cons, List.mem_cons, forall_eq_or_imp]
      constructor
      · rintro ⟨distinct, fresh⟩
        exact ⟨⟨fun member => fresh name member (Or.inl rfl), distinct⟩, again,
          fun other member was => fresh other member (Or.inr was)⟩
      · rintro ⟨⟨absent, distinct⟩, -, fresh⟩
        refine ⟨distinct, fun other member => ?_⟩
        rintro (rfl | was)
        · exact absent member
        · exact fresh other member was

namespace SchemaPack

/-- A well-formed model: in each class no name is used twice among the identifying property, the
content properties and the relations, and every relation targets a class of the model. -/
def WellFormed (pack : SchemaPack) : Prop :=
  ∀ entry ∈ pack.classes, entry.2.usedNames.Nodup ∧
    ∀ relation ∈ entry.2.relations, relation.2.targetClass ∈ Table.keys pack.classes

variable {pack : SchemaPack}

/-- A class passes its check exactly when its names are distinct and its relations target classes of
the pack; past the names, the induction is on the relations, checked one at a time. -/
theorem checkClass_eq_ok {name : String} {cls : ClassDef} :
    pack.checkClass name cls = .ok () ↔ cls.usedNames.Nodup ∧
      ∀ relation ∈ cls.relations, relation.2.targetClass ∈ Table.keys pack.classes := by
  by_cases distinct : cls.usedNames.Nodup
  · have repeated : firstRepeat [] cls.usedNames = none :=
      firstRepeat_eq_none_iff.mpr ⟨distinct, fun _ _ => List.not_mem_nil⟩
    simp only [distinct, true_and]
    unfold checkClass
    simp only [repeated]
    generalize cls.relations = relations
    induction relations with
    | nil => simp [pure, Except.pure, bind, Except.bind]
    | cons entry rest inductionHypothesis =>
      obtain ⟨relationName, relation⟩ := entry
      by_cases known : relation.targetClass ∈ Table.keys pack.classes
      · have contained : Table.contains pack.classes relation.targetClass = true :=
          (Table.contains_eq_true_iff _ _).mpr known
        simp only [List.forIn_cons, contained, Bool.not_true, Bool.false_eq_true, if_false,
          pure_bind]
        refine inductionHypothesis.trans ?_
        rw [List.forall_mem_cons]
        exact ⟨fun later => ⟨known, later⟩, fun both => both.2⟩
      · have missing : Table.contains pack.classes relation.targetClass = false := by
          cases found : Table.contains pack.classes relation.targetClass
          · rfl
          · exact absurd ((Table.contains_eq_true_iff _ _).mp found) known
        simp [List.forIn_cons, missing, known, throw, throwThe, MonadExceptOf.throw, bind,
          Except.bind]
  · cases repeated : firstRepeat [] cls.usedNames with
    | none => exact absurd (firstRepeat_eq_none_iff.mp repeated).1 distinct
    | some found =>
      unfold checkClass
      simp [repeated, distinct, throw, throwThe, MonadExceptOf.throw]

/-- The check of a model decides that it is well formed. -/
theorem check_eq_ok_iff : pack.check = .ok () ↔ pack.WellFormed := by
  simp only [check, forM_except_eq_ok, checkClass_eq_ok]
  rfl

theorem WellFormed.of_cls? (wellFormed : pack.WellFormed) {name : String} {cls : ClassDef}
    (present : pack.cls? name = some cls) :
    cls.usedNames.Nodup ∧
      ∀ relation ∈ cls.relations, relation.2.targetClass ∈ Table.keys pack.classes :=
  wellFormed (name, cls) (Table.mem_of_get?_eq_some present)

theorem mem_keys_of_cls? {name : String} {cls : ClassDef} (present : pack.cls? name = some cls) :
    name ∈ Table.keys pack.classes :=
  Table.mem_keys_of_mem (Table.mem_of_get?_eq_some present)

/-- Replacing a class of a well-formed model by a class whose names are distinct and whose
relations target classes of the model keeps the model well formed. -/
theorem WellFormed.withClass (wellFormed : pack.WellFormed) {name : String} {old cls : ClassDef}
    (present : pack.cls? name = some old) (distinct : cls.usedNames.Nodup)
    (targets : ∀ relation ∈ cls.relations, relation.2.targetClass ∈ Table.keys pack.classes) :
    (pack.withClass name cls).WellFormed := by
  have keys : Table.keys (pack.withClass name cls).classes = Table.keys pack.classes :=
    Table.keys_insert_of_contains _ _ _ (Table.contains_of_get?_eq_some present)
  intro entry member
  rw [keys]
  rcases Table.mem_of_mem_insert member with kept | rfl
  · exact wellFormed entry kept
  · exact ⟨distinct, targets⟩

end SchemaPack

/-! ### Names of a class -/

namespace ClassDef

theorem isNameTaken_eq_false_iff {cls : ClassDef} {name : String} :
    cls.isNameTaken name = false ↔ name ∉ cls.usedNames := by
  simp only [isNameTaken, hasContentProperty, usedNames, Bool.or_eq_false_iff, beq_eq_false_iff_ne,
    List.contains_eq_mem, decide_eq_false_iff_not, List.mem_cons, List.mem_append, not_or]
  rw [← Bool.not_eq_true, Table.contains_eq_true_iff]
  constructor
  · rintro ⟨⟨named, property⟩, relation⟩
    exact ⟨Ne.symm named, property, relation⟩
  · rintro ⟨named, property, relation⟩
    exact ⟨⟨Ne.symm named, property⟩, relation⟩

/-- The names of a class with one content property added after the others. -/
theorem usedNames_perm_of_property {cls edited : ClassDef} {name : String} (id : edited.id = cls.id)
    (relations : edited.relations = cls.relations)
    (properties : edited.contentProperties = cls.contentProperties ++ [name]) :
    edited.usedNames.Perm (name :: cls.usedNames) := by
  simp only [usedNames, id, relations, properties, List.append_assoc, List.singleton_append]
  exact (List.perm_middle.cons _).trans (List.Perm.swap _ _ _)

/-- The names of a class with one relation added after the others. -/
theorem usedNames_withRelation {cls : ClassDef} {name : String} (relation : RelationSpec)
    (absent : Table.contains cls.relations name = false) :
    (cls.withRelation name relation).usedNames.Perm (name :: cls.usedNames) := by
  have added : (cls.withRelation name relation).usedNames = cls.usedNames ++ [name] := by
    simp [usedNames, withRelation, contentProperties, Table.keys_insert_of_not_contains _ _ _ absent]
  rw [added]
  exact List.perm_append_singleton _ _

/-- A class whose names are those of another with one more that the other did not use keeps its
names distinct. -/
theorem nodup_usedNames_of_perm {cls edited : ClassDef} {name : String}
    (distinct : cls.usedNames.Nodup) (free : cls.isNameTaken name = false)
    (added : edited.usedNames.Perm (name :: cls.usedNames)) : edited.usedNames.Nodup :=
  added.nodup_iff.mpr (List.nodup_cons.mpr ⟨isNameTaken_eq_false_iff.mp free, distinct⟩)

end ClassDef

theorem SchemaPack.requireClass_eq_ok {pack : SchemaPack} {name : String} {cls : ClassDef} :
    pack.requireClass name = .ok cls ↔ pack.cls? name = some cls := by
  cases present : pack.cls? name <;> simp [requireClass, present]

/-- The class a hop that can be walked arrives at is a class of the model: the class the relation
points at forwards, the class that holds it backwards. -/
theorem Hop.target_mem_keys_of_relation {hop : Hop} {pack : SchemaPack} {spec : RelationSpec}
    (walked : hop.relation pack = .ok spec) : hop.target ∈ Table.keys pack.classes := by
  cases direction : hop.direction with
  | active =>
    simp only [Hop.relation, Except.bind_eq_ok] at walked
    obtain ⟨found, present, -⟩ := walked
    rw [← Hop.referenced_of_active direction]
    exact SchemaPack.mem_keys_of_cls? (SchemaPack.requireClass_eq_ok.mp present)
  | passive =>
    obtain ⟨found, present, -⟩ :=
      SchemaPack.requireRelation_eq_ok.mp (Hop.requireRelation_of_relation_eq_ok walked)
    rw [← Hop.holder_of_passive direction]
    exact SchemaPack.mem_keys_of_cls? present

/-- The class a path checked from a class of the model ends at is a class of the model: the
target of its last hop, or the class it starts at when it takes no hop. -/
theorem RelationPath.target_mem_keys_of_checkPathFrom {path : RelationPath} {pack : SchemaPack}
    {cls : String} {fans : Sides} (checked : pack.checkPathFrom cls path = .ok fans) :
    path.target ∈ Table.keys pack.classes := by
  obtain ⟨⟨found, present⟩, starts, walked⟩ := SchemaPack.checkPathFrom_eq_ok checked
  by_cases empty : path.elements = []
  · rw [RelationPath.target_eq_source_of_elements_eq_nil empty, starts]
    exact SchemaPack.mem_keys_of_cls? present
  · obtain ⟨spec, relation, -⟩ :=
      RelationPath.fans_of_fansFrom walked _ (List.getLast_mem empty)
    rw [RelationPath.target_eq_getLast empty]
    exact Hop.target_mem_keys_of_relation relation

/-- A name is free in a class exactly when the class exists and does not use the name. -/
theorem SchemaPack.requireNameFree_eq_ok {pack : SchemaPack} {cls name : String} :
    pack.requireNameFree cls name = .ok () ↔
      ∃ found, pack.cls? cls = some found ∧ found.isNameTaken name = false := by
  cases present : pack.cls? cls with
  | none => simp [requireNameFree, requireClass, present, bind, Except.bind]
  | some found =>
    cases taken : found.isNameTaken name <;>
      simp [requireNameFree, requireClass_of_cls? present, taken, bind, Except.bind, pure,
        Except.pure, throw, throwThe, MonadExceptOf.throw]

/-! ### Content schemas that take an edit -/

namespace Content

open Json

/-- A content schema takes the edit of a content transformation: it is an object, its `properties`,
if any, is an object, and, when the edit appends to `required`, its `required`, if any, is a list. -/
def Extensible (content : Json) (appends : Bool) : Prop :=
  content.isObject = true ∧
    (∀ properties, content.field? "properties" = some properties → properties.isObject = true) ∧
    (appends = true → ∀ required, content.field? "required" = some required →
      required.isArray = true)

/-- Editing `properties` fails exactly on a schema that is not an object or whose `properties` is
not an object. -/
theorem editProperties_eq_none_iff {content : Json} {edit : Table Json → Table Json} :
    editProperties content edit = none ↔ ¬(content.isObject = true ∧
      ∀ properties, content.field? "properties" = some properties → properties.isObject = true) := by
  cases content with
  | obj fields =>
    simp only [editProperties, Json.isObject, Json.field?, true_and]
    cases found : Table.get? fields "properties" with
    | none => simp
    | some properties => cases properties <;> simp
  | _ => simp [editProperties, Json.isObject]

/-- Editing `properties` leaves an object whose `required` is the schema's. -/
theorem editProperties_eq_some {content edited : Json} {edit : Table Json → Table Json}
    (h : editProperties content edit = some edited) :
    edited.isObject = true ∧ edited.field? "required" = content.field? "required" := by
  have differ : "required" ≠ "properties" := by decide
  cases content with
  | obj fields =>
    simp only [editProperties] at h
    split at h <;> simp at h <;>
      simp [← h, Json.isObject, Json.field?, Table.get?_insert_of_ne _ _ differ]
  | _ => simp [editProperties] at h

/-- Appending to `required` of an object fails exactly when its `required` is not a list. -/
theorem appendRequired_eq_none_iff {content : Json} (object : content.isObject = true)
    (name : String) :
    appendRequired content name = none ↔ ¬∀ required, content.field? "required" = some required →
      required.isArray = true := by
  cases content with
  | obj fields =>
    simp only [appendRequired, Json.field?]
    cases found : Table.get? fields "required" with
    | none => simp
    | some required => cases required <;> simp [Json.isArray]
  | _ => simp [Json.isObject] at object

end Content

/-! ### Edits of the content schema of one class -/

/-- How reshaping through an edit of the content schema of the class `found` behaves: it fails,
with `refused`, exactly when that schema cannot take the edit, and what it gives is well formed. -/
structure EditsContent (result : Except ReshapeError SchemaPack) (refused : ReshapeError)
    (found : ClassDef) (appends : Bool) : Prop where
  fails : ∀ error, result = .error error ↔
    error = refused ∧ ¬Content.Extensible found.content appends
  yields : ∀ output, result = .ok output → output.WellFormed

/-- A class edit that rewrites the `properties` of its content schema, then finishes the content. -/
def contentEdit (refused : ReshapeError) (edit : Table Json → Table Json)
    (finish : Json → Except ReshapeError Json) (cls : ClassDef) : Except ReshapeError ClassDef := do
  let content ← orError refused (Content.editProperties cls.content edit)
  let content ← finish content
  pure { cls with content := content }

section ContentEdits

variable {pack : SchemaPack} {name : String} {found : ClassDef} {refused : ReshapeError}
  {edit : Table Json → Table Json} {finish : Json → Except ReshapeError Json} {appends : Bool}

/-- How the finishing step of a content edit behaves: it fails, with the edit's error, only when it
appends to a `required` that is not a list, and it keeps `properties`. -/
structure Finishes (refused : ReshapeError) (appends : Bool)
    (finish : Json → Except ReshapeError Json) : Prop where
  fails : ∀ content, content.isObject = true → ∀ error, finish content = .error error ↔
    error = refused ∧ appends = true ∧
      ¬∀ required, content.field? "required" = some required → required.isArray = true
  keeps : ∀ content final, finish content = .ok final →
    final.field? "properties" = content.field? "properties"

/-- An edit of the content schema of an existing class fails, with its error, exactly when the
content schema cannot take it: either the `properties` edit refuses the schema, or the finishing
step refuses the `required` list it appends to. -/
theorem editClass_contentEdit_eq_error (present : pack.cls? name = some found)
    (finishes : Finishes refused appends finish) (error : ReshapeError) :
    pack.editClass name refused (contentEdit refused edit finish) = .error error ↔
      error = refused ∧ ¬Content.Extensible found.content appends := by
  simp only [SchemaPack.editClass, present, contentEdit]
  cases edited : Content.editProperties found.content edit with
  | none =>
    have refuses := Content.editProperties_eq_none_iff.mp edited
    simp only [orError, bind, Except.bind, Except.error.injEq]
    exact ⟨fun same => ⟨same.symm, fun extensible => refuses ⟨extensible.1, extensible.2.1⟩⟩,
      fun both => both.1.symm⟩
  | some content =>
    obtain ⟨object, required⟩ := Content.editProperties_eq_some edited
    have takes : found.content.isObject = true ∧ ∀ properties,
        found.content.field? "properties" = some properties → properties.isObject = true := by
      by_contra refuses
      have none : Content.editProperties found.content edit = none :=
        Content.editProperties_eq_none_iff.mpr refuses
      rw [edited] at none
      cases none
    cases finished : finish content with
    | error problem =>
      obtain ⟨isRefused, appended, refuses⟩ := (finishes.fails content object problem).mp finished
      have closed : ¬Content.Extensible found.content appends := fun extensible =>
        refuses fun listed found' => extensible.2.2 appended listed (required.symm.trans found')
      simp only [orError, finished, bind, Except.bind, Except.error.injEq, isRefused]
      exact ⟨fun same => ⟨same.symm, closed⟩, fun both => both.1.symm⟩
    | ok final =>
      simp only [orError, finished, bind, Except.bind, pure, Except.pure, reduceCtorEq, false_iff]
      rintro ⟨-, refuses⟩
      refine refuses ⟨takes.1, takes.2, fun appended listed found' => ?_⟩
      by_contra notList
      have failed := (finishes.fails content object refused).mpr
        ⟨rfl, appended, fun lists => notList (lists listed (required.trans found'))⟩
      rw [finished] at failed
      cases failed

/-- An edit of the content schema of an existing class that succeeds replaces the class by one with
the same relations whose content properties are the edit of the old ones, as the `properties`
the edit wrote are read back through the finishing step. -/
theorem editClass_contentEdit_eq_ok (present : pack.cls? name = some found)
    (finishes : Finishes refused appends finish) {output : SchemaPack}
    (reshaped : pack.editClass name refused (contentEdit refused edit finish) = .ok output) :
    ∃ properties edited, Table.keys properties = found.contentProperties ∧
      edited.relations = found.relations ∧ edited.id = found.id ∧
      edited.contentProperties = Table.keys (edit properties) ∧
      output = pack.withClass name edited := by
  simp only [SchemaPack.editClass, present, contentEdit, Except.bind_eq_ok, orError_eq_ok,
    Except.pure_eq_ok] at reshaped
  obtain ⟨edited, ⟨content, rewritten, final, finished, rfl⟩, rfl⟩ := reshaped
  have written : ∃ properties, Table.keys properties = found.contentProperties ∧
      content.field? "properties" = some (.obj (edit properties)) := by
    cases shape : found.content with
    | obj fields =>
      rw [shape] at rewritten
      simp only [Content.editProperties] at rewritten
      split at rewritten
      · next absent =>
        refine ⟨[], ?_, ?_⟩
        · simp [ClassDef.contentProperties, shape, Json.field?, absent, Table.keys]
        · simp [← Option.some.inj rewritten, Json.field?]
      · next properties present =>
        refine ⟨properties, ?_, ?_⟩
        · simp [ClassDef.contentProperties, shape, Json.field?, present]
        · simp [← Option.some.inj rewritten, Json.field?]
      · simp at rewritten
    | _ => simp [shape, Content.editProperties] at rewritten
  obtain ⟨properties, old, new⟩ := written
  refine ⟨properties, { found with content := final }, old, rfl, rfl, ?_, rfl⟩
  simp [ClassDef.contentProperties, finishes.keeps content final finished, new]

variable (wellFormed : pack.WellFormed) (present : pack.cls? name = some found)
  (finishes : Finishes refused appends finish)
include wellFormed present finishes

/-- Adding a content property that its class does not use yet: the names stay distinct, since the
property is new to the `properties` object and goes last. -/
theorem editsContent_insert {property : String} {schema : Json}
    (unused : found.isNameTaken property = false) :
    EditsContent (pack.editClass name refused
      (contentEdit refused (Table.insert · property schema) finish)) refused found appends where
  fails := editClass_contentEdit_eq_error present finishes
  yields output reshaped := by
    obtain ⟨properties, edited, old, relations, id, new, rfl⟩ :=
      editClass_contentEdit_eq_ok present finishes reshaped
    obtain ⟨distinct, targets⟩ := wellFormed.of_cls? present
    have fresh : Table.contains properties property = false := by
      have notProperty : property ∉ found.contentProperties := fun listed =>
        (ClassDef.isNameTaken_eq_false_iff.mp unused)
          (List.mem_cons_of_mem _ (List.mem_append_left _ listed))
      rw [← old] at notProperty
      cases contained : Table.contains properties property
      · rfl
      · exact absurd ((Table.contains_eq_true_iff _ _).mp contained) notProperty
    have appended : edited.contentProperties = found.contentProperties ++ [property] := by
      rw [new, Table.keys_insert_of_not_contains _ _ _ fresh, old]
    exact wellFormed.withClass present
      (ClassDef.nodup_usedNames_of_perm distinct unused
        (ClassDef.usedNames_perm_of_property id relations appended))
      (relations ▸ targets)

/-- Removing content properties: the names left are some of the old ones. -/
theorem editsContent_eraseAll (names : List String) :
    EditsContent (pack.editClass name refused
      (contentEdit refused (Content.eraseAll · names) finish)) refused found appends where
  fails := editClass_contentEdit_eq_error present finishes
  yields output reshaped := by
    obtain ⟨properties, edited, old, relations, id, new, rfl⟩ :=
      editClass_contentEdit_eq_ok present finishes reshaped
    obtain ⟨distinct, targets⟩ := wellFormed.of_cls? present
    have kept : edited.usedNames.Sublist found.usedNames := by
      simp only [ClassDef.usedNames, id, relations, new, Content.keys_eraseAll, old]
      exact (List.filter_sublist.append (List.Sublist.refl _)).cons_cons _
    exact wellFormed.withClass present (distinct.sublist kept) (relations ▸ targets)

end ContentEdits

/-- Appending a name to `required` finishes an edit that appends. -/
theorem finishes_appendRequired (refused : ReshapeError) (name : String) :
    Finishes refused true fun content => orError refused (Content.appendRequired content name) where
  fails content object error := by
    cases appended : Content.appendRequired content name with
    | none =>
      have refuses := (Content.appendRequired_eq_none_iff object name).mp appended
      simp only [orError, Except.error.injEq, true_and]
      exact ⟨fun same => ⟨same.symm, refuses⟩, fun both => both.1.symm⟩
    | some final =>
      have lists := (Content.appendRequired_eq_none_iff object name).not.mp (by simp [appended])
      simp [orError, lists]
  keeps content final finished :=
    Content.field?_appendRequired (orError_eq_ok.mp finished)

/-- A step that rewrites the content without failing, and keeps its `properties`, finishes an edit
that does not append. -/
theorem finishes_pure (refused : ReshapeError) (rewrite : Json → Json)
    (keeps : ∀ content, (rewrite content).field? "properties" = content.field? "properties") :
    Finishes refused false fun content => pure (rewrite content) where
  fails content _ error := by simp [pure, Except.pure]
  keeps content final finished := by
    simp only [Except.pure_eq_ok] at finished
    rw [← finished, keeps]

/-! ### Each transformation -/

section Transformations

variable {model output : SchemaPack}

namespace AddPropertyConfig

variable {config : AddPropertyConfig}

/-- Adding a property finishes its content edit by appending to `required` when the property is
required. -/
theorem finishes (config : AddPropertyConfig) :
    Finishes (.notAnObject config.className) config.required fun content =>
      if config.required then
        orError (.notAnObject config.className) (Content.appendRequired content config.propertyName)
      else pure content := by
  cases config.required
  · exact finishes_pure _ id fun _ => rfl
  · exact finishes_appendRequired _ _

/-- Adding a property is an edit of the content schema of its class. The definition joins the two
branches of `required` after the `if`, and each branch agrees. -/
theorem reshapeModel_eq (config : AddPropertyConfig) (model : SchemaPack) :
    config.reshapeModel model = model.editClass config.className (.notAnObject config.className)
      (contentEdit (.notAnObject config.className) (Table.insert · config.propertyName config.schema)
        fun content => if config.required then
          orError (.notAnObject config.className) (Content.appendRequired content config.propertyName)
        else pure content) := by
  obtain ⟨className, propertyName, schema, value, required⟩ := config
  cases required <;> rfl

/-- Adding a property that the check accepted edits the content schema of an existing class. -/
theorem editsContent_of_check (wellFormed : model.WellFormed)
    (accepted : config.check model = .ok ()) :
    ∃ found, model.cls? config.className = some found ∧ EditsContent (config.reshapeModel model)
      (.notAnObject config.className) found config.required := by
  simp only [check, Except.bind_eq_ok] at accepted
  obtain ⟨⟨⟩, free, -⟩ := accepted
  obtain ⟨found, present, unused⟩ := SchemaPack.requireNameFree_eq_ok.mp free
  rw [reshapeModel_eq]
  exact ⟨found, present, editsContent_insert wellFormed present config.finishes unused⟩

end AddPropertyConfig

namespace CountReferencesConfig

variable {config : CountReferencesConfig}

/-- Counting references is an edit of the content schema of its class that appends to
`required`. -/
theorem reshapeModel_eq (config : CountReferencesConfig) (model : SchemaPack) :
    config.reshapeModel model = model.editClass config.className (.notAnObject config.className)
      (contentEdit (.notAnObject config.className)
        (Table.insert · config.contentProperty countSchema) fun content =>
          orError (.notAnObject config.className)
            (Content.appendRequired content config.contentProperty)) :=
  rfl

/-- Counting references that the check accepted edits the content schema of an existing class. -/
theorem editsContent_of_check (wellFormed : model.WellFormed)
    (accepted : config.check model = .ok ()) :
    ∃ found, model.cls? config.className = some found ∧ EditsContent (config.reshapeModel model)
      (.notAnObject config.className) found true := by
  simp only [check, Except.bind_eq_ok] at accepted
  obtain ⟨-, -, free⟩ := accepted
  obtain ⟨found, present, unused⟩ := SchemaPack.requireNameFree_eq_ok.mp free
  rw [reshapeModel_eq]
  exact ⟨found, present, editsContent_insert wellFormed present
    (finishes_appendRequired _ config.contentProperty) unused⟩

end CountReferencesConfig

namespace DeletePropertiesConfig

variable {config : DeletePropertiesConfig}

/-- Deleting properties is an edit of the content schema of its class that drops the names from
`required`, whatever shape it has. -/
theorem reshapeModel_eq (config : DeletePropertiesConfig) (model : SchemaPack) :
    config.reshapeModel model = model.editClass config.className (.notAnObject config.className)
      (contentEdit (.notAnObject config.className) (Content.eraseAll · config.propertyNames)
        fun content => pure (Content.dropRequired content config.propertyNames)) :=
  rfl

/-- Deleting properties that the check accepted edits the content schema of an existing class. -/
theorem editsContent_of_check (wellFormed : model.WellFormed)
    (accepted : config.check model = .ok ()) :
    ∃ found, model.cls? config.className = some found ∧ EditsContent (config.reshapeModel model)
      (.notAnObject config.className) found false := by
  simp only [check, Except.bind_eq_ok] at accepted
  obtain ⟨found, required, -⟩ := accepted
  have present := SchemaPack.requireClass_eq_ok.mp required
  rw [reshapeModel_eq]
  exact ⟨found, present, editsContent_eraseAll wellFormed present
    (finishes_pure _ _ fun content => Content.field?_dropRequired content _) _⟩

end DeletePropertiesConfig

/-- Deleting relations never fails, and what it gives is well formed: the names left are some of
the old ones, and the relations left target what they did. -/
theorem DeleteRelationsConfig.reshapeModel_wellFormed (config : DeleteRelationsConfig)
    (wellFormed : model.WellFormed) :
    ∃ output, config.reshapeModel model = .ok output ∧ output.WellFormed := by
  cases present : model.cls? config.className with
  | none => exact ⟨model, by simp [reshapeModel, present], wellFormed⟩
  | some found =>
    let edited : ClassDef :=
      { found with relations := Content.eraseAll found.relations config.relationNames }
    have reshaped : config.reshapeModel model = .ok (model.withClass config.className edited) := by
      simp [reshapeModel, present, edited]
    refine ⟨_, reshaped, ?_⟩
    obtain ⟨distinct, targets⟩ := wellFormed.of_cls? present
    have kept : edited.usedNames.Sublist found.usedNames := by
      simp only [edited, ClassDef.usedNames, ClassDef.contentProperties, Content.keys_eraseAll]
      exact ((List.Sublist.refl _).append List.filter_sublist).cons_cons _
    exact wellFormed.withClass present (distinct.sublist kept)
      fun relation member => targets relation (Content.mem_eraseAll.mp member).1

/-- Inferring a relation that the check accepted never fails, and what it gives is well formed: the
name was free in the class, and the new relation targets the class where the path ends while the
others keep their targets. -/
theorem InferRelationConfig.reshapeModel_wellFormed {config : InferRelationConfig}
    (wellFormed : model.WellFormed) (accepted : config.check model = .ok ()) :
    ∃ output, config.reshapeModel model = .ok output ∧ output.WellFormed := by
  simp only [InferRelationConfig.check, Except.bind_eq_ok] at accepted
  obtain ⟨fans, path, ⟨⟩, free, -⟩ := accepted
  have counted := SchemaPack.multiplicity_of_checkPathFrom_eq_ok path
  obtain ⟨found, present, unused⟩ := SchemaPack.requireNameFree_eq_ok.mp free
  have reshaped : config.reshapeModel model = .ok (model.withClass config.className
      (found.withRelation config.relationName (config.inferredSpec fans))) := by
    simp [InferRelationConfig.reshapeModel, counted, SchemaPack.editClass, present,
      InferRelationConfig.inferredSpec, pure, Except.pure, bind, Except.bind]
  refine ⟨_, reshaped, ?_⟩
  obtain ⟨distinct, targets⟩ := wellFormed.of_cls? present
  have absent : Table.contains found.relations config.relationName = false := by
    simp only [ClassDef.isNameTaken, Bool.or_eq_false_iff] at unused
    exact unused.2
  refine wellFormed.withClass present (ClassDef.nodup_usedNames_of_perm distinct unused
    (ClassDef.usedNames_withRelation _ absent)) ?_
  intro relation member
  rcases Table.mem_of_mem_insert member with kept | rfl
  · exact targets relation kept
  · exact RelationPath.target_mem_keys_of_checkPathFrom path

end Transformations

/-! ### Every transformation -/

namespace Transformation

/-- The class whose content schema a transformation edits, and whether the edit appends to
`required`: adding a property does when the property is required, counting references always
does, deleting properties never does. The relation edits leave content schemas alone. -/
def editedContent : Transformation → Option (String × Bool)
  | .addContentProperty config => some (config.className, config.required)
  | .deleteContentProperties config => some (config.className, false)
  | .deleteRelations _ => none
  | .countReferences config => some (config.className, true)
  | .inferRelation _ => none

/-- A transformation refuses a model when it edits the content schema of a class of the model that
cannot take the edit; the error names the class. -/
def Refuses (transformation : Transformation) (model : SchemaPack) (error : ReshapeError) : Prop :=
  ∃ cls appends found, transformation.editedContent = some (cls, appends) ∧
    model.cls? cls = some found ∧ ¬Content.Extensible found.content appends ∧
      error = .notAnObject cls

variable {transformation : Transformation} {model : SchemaPack}

theorem refuses_iff {cls : String} {appends : Bool} {found : ClassDef}
    (edited : transformation.editedContent = some (cls, appends))
    (present : model.cls? cls = some found) (error : ReshapeError) :
    transformation.Refuses model error ↔
      error = .notAnObject cls ∧ ¬Content.Extensible found.content appends := by
  constructor
  · rintro ⟨named, appended, schema, edited', present', closed, refused⟩
    rw [edited, Option.some.injEq, Prod.mk.injEq] at edited'
    obtain ⟨rfl, rfl⟩ := edited'
    rw [present, Option.some.injEq] at present'
    subst present'
    exact ⟨refused, closed⟩
  · rintro ⟨refused, closed⟩
    exact ⟨cls, appends, found, edited, present, closed, refused⟩

theorem not_refuses (edited : transformation.editedContent = none) (error : ReshapeError) :
    ¬transformation.Refuses model error := by
  rintro ⟨cls, appends, found, refused, -⟩
  rw [edited] at refused
  cases refused

/-- A transformation whose reshaping is an edit of the content schema of an existing class fails
exactly when it refuses the model. -/
theorem reshapes_of_editsContent {cls : String} {appends : Bool} {found : ClassDef}
    (edited : transformation.editedContent = some (cls, appends))
    (present : model.cls? cls = some found)
    (edits : EditsContent (transformation.reshapeModel model) (.notAnObject cls) found appends) :
    (∀ error, transformation.reshapeModel model = .error error ↔
      transformation.Refuses model error) ∧
    ∀ output, transformation.reshapeModel model = .ok output → output.WellFormed :=
  ⟨fun error => (edits.fails error).trans (refuses_iff edited present error).symm, edits.yields⟩

/-- A transformation that leaves content schemas alone and reshapes the model into a well-formed
one never refuses it. -/
theorem reshapes_of_eq_ok (edited : transformation.editedContent = none) {output : SchemaPack}
    (reshaped : transformation.reshapeModel model = .ok output) (formed : output.WellFormed) :
    (∀ error, transformation.reshapeModel model = .error error ↔
      transformation.Refuses model error) ∧
    ∀ other, transformation.reshapeModel model = .ok other → other.WellFormed := by
  refine ⟨fun error => ?_, fun other reshapedOther => ?_⟩
  · rw [reshaped]
    exact ⟨fun failed => (by cases failed), fun refuses => absurd refuses (not_refuses edited error)⟩
  · rw [reshaped, Except.ok.injEq] at reshapedOther
    exact reshapedOther ▸ formed

/-- Once a well-formed model meets a transformation's assumptions, reshaping it fails only where
the transformation edits a content schema that cannot take the edit, and then with the error that
names the class; the relation edits never fail. What reshaping gives passes the model check. -/
theorem reshapeModel_fails_only_on_closed_content (wellFormed : model.check = .ok ())
    (accepted : transformation.check model = .ok ()) :
    (∀ error, transformation.reshapeModel model = .error error ↔
      transformation.Refuses model error) ∧
    ∀ output, transformation.reshapeModel model = .ok output → output.check = .ok () := by
  simp only [SchemaPack.check_eq_ok_iff] at wellFormed ⊢
  cases transformation with
  | addContentProperty config =>
    obtain ⟨found, present, edits⟩ := config.editsContent_of_check wellFormed accepted
    exact reshapes_of_editsContent rfl present edits
  | deleteContentProperties config =>
    obtain ⟨found, present, edits⟩ := config.editsContent_of_check wellFormed accepted
    exact reshapes_of_editsContent rfl present edits
  | deleteRelations config =>
    obtain ⟨output, reshaped, formed⟩ := config.reshapeModel_wellFormed wellFormed
    exact reshapes_of_eq_ok rfl reshaped formed
  | countReferences config =>
    obtain ⟨found, present, edits⟩ := config.editsContent_of_check wellFormed accepted
    exact reshapes_of_editsContent rfl present edits
  | inferRelation config =>
    obtain ⟨output, reshaped, formed⟩ :=
      InferRelationConfig.reshapeModel_wellFormed wellFormed accepted
    exact reshapes_of_eq_ok rfl reshaped formed

end Transformation

/-- Samples whose content schema is `true`: it admits every content, but has no `properties` to
edit. -/
def openSamples : SchemaPack :=
  { classes := [("Sample", { id := { propertyName := "id" }, content := .bool true })] }

/-- Deleting no content property from the samples. -/
def emptyDeletion : Transformation :=
  .deleteContentProperties { className := "Sample", propertyNames := [] }

/-- The samples are well formed and deleting nothing meets its assumptions, so reshaping fails
exactly when the deletion refuses the samples. -/
theorem openSamples_emptyDeletion : openSamples.check = .ok () ∧
    emptyDeletion.check openSamples = .ok () ∧
    (∀ error, emptyDeletion.reshapeModel openSamples = .error error ↔
      emptyDeletion.Refuses openSamples error) ∧
    ∀ output, emptyDeletion.reshapeModel openSamples = .ok output → output.check = .ok () :=
  have wellFormed : openSamples.check = .ok () := rfl
  have accepted : emptyDeletion.check openSamples = .ok () := rfl
  ⟨wellFormed, accepted,
    Transformation.reshapeModel_fails_only_on_closed_content wellFormed accepted⟩

-- the `true` schema has no `properties` to delete from, even when nothing is deleted
example : emptyDeletion.reshapeModel openSamples = .error (.notAnObject "Sample") := rfl

end Recast
