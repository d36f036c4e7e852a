import Recast.Proofs.Transform.Reshape
/-!
What a transformation changes: one class, in place.

Every transformation names one class. Reshaping a model replaces that class where it stands and
leaves the other classes as they were; reshaping a data pack rewrites the resources of that class,
each under its own id and in its own place, and leaves the resources of the other classes as they
were (`SchemaPack.ChangesOneClass`, `DataPack.ChangesOneClass`). Within the class, a rewrite touches
only the members its configuration names.

The members live in ordered tables, and two kinds of write occur: setting a key (`Table.Sets`: a
key already present keeps its place, a new key goes last, no other key changes) and dropping keys
(`Table.Drops`: the other keys keep their entries and their order). Adding a content property sets
it in `properties` and, when it is required, appends its name to `required`, each member created
last when absent; counting references does the same with the count's schema. Deleting content
properties drops them from `properties` and their entries from a `required` list. Deleting
relations drops them, and inferring a relation sets it. In a resource the same writes go to the
members of its content or to its links.

Deleting content properties reaches `properties` through the accessor the additions use, which
creates the member when the content schema has none: such a schema comes out with an empty
`properties` object appended, even when nothing is deleted
(`DeletePropertiesConfig.reshapeModel_appends_empty_properties`).

Main statement: `Transformation.reshape_changes_only_its_class`.
-/

namespace Recast

open Json

/-! ### Writes to an ordered table -/

namespace Table

variable {α : Type}

/-- `after` is `before` with `key` set to `value`: a key already present keeps its place, a new
key goes last, and every other key keeps its entry. -/
structure Sets (before after : Table α) (key : String) (value : α) : Prop where
  keys_eq : keys after = if key ∈ keys before then keys before else keys before ++ [key]
  get?_eq : ∀ other, get? after other = if other = key then some value else get? before other

/-- `after` is `before` without the keys in `names`; the other keys keep their entries and their
order. -/
structure Drops (before after : Table α) (names : List String) : Prop where
  keys_eq : keys after = (keys before).filter fun key => !names.contains key
  get?_eq : ∀ other, get? after other = if other ∈ names then none else get? before other

theorem sets_insert (table : Table α) (key : String) (value : α) :
    Sets table (insert table key value) key value where
  keys_eq := by
    by_cases present : key ∈ keys table
    · rw [if_pos present]
      exact keys_insert_of_contains table key value ((contains_eq_true_iff table key).mpr present)
    · rw [if_neg present]
      apply keys_insert_of_not_contains
      cases found : contains table key
      · rfl
      · exact absurd ((contains_eq_true_iff table key).mp found) present
  get?_eq other := get?_insert table key other value

end Table

/-! ### The members of a content schema -/

namespace Content

theorem drops_eraseAll {α : Type} (table : Table α) (names : List String) :
    Table.Drops table (eraseAll table names) names where
  keys_eq := keys_eraseAll table names
  get?_eq other := by
    by_cases erased : other ∈ names
    · rw [if_pos erased, get?_eraseAll_of_mem table erased]
    · rw [if_neg erased, get?_eraseAll_of_not_mem table erased]

/-- A member of a content schema read as `value`, where an absent member reads as `empty`. -/
def Declares (fields : Table Json) (key : String) (value empty : Json) : Prop :=
  Table.get? fields key = some value ∨ Table.get? fields key = none ∧ value = empty

theorem declares_insert_of_ne {fields : Table Json} {key other : String} {written value empty : Json}
    (differ : other ≠ key) :
    Declares (Table.insert fields key written) other value empty ↔ Declares fields other value empty := by
  simp only [Declares, Table.get?_insert_of_ne fields written differ]

/-- Whether an entry of a `required` list names one of the given properties. -/
def namesOneOf (names : List String) (entry : Json) : Bool :=
  match entry.str? with
  | some name => names.contains name
  | none => false

/-- The members of a content schema once a property is added: `properties` holds the declared
properties (none when absent) with the property set to its schema and, when the property is
required, `required` holds the declared entries (none when absent) followed by its name. Each of the
two members is set in place, or last when absent; no other member changes. -/
def AddsProperty (name : String) (schema : Json) (required : Bool) (before after : Table Json) :
    Prop :=
  ∃ properties edited middle, Declares before "properties" (.obj properties) (.obj []) ∧
    Table.Sets properties edited name schema ∧ Table.Sets before middle "properties" (.obj edited) ∧
    (required = true → ∃ entries, Declares before "required" (.arr entries) (.arr []) ∧
      Table.Sets middle after "required" (.arr (entries ++ [.str name]))) ∧
    (required = false → after = middle)

/-- The members of a content schema once properties are deleted: `properties` holds the declared
properties (none when absent) without them, set in place or last when absent, and a `required`
list loses, in place, the entries naming them; no other member changes. -/
def DeletesProperties (names : List String) (before after : Table Json) : Prop :=
  ∃ properties kept middle, Declares before "properties" (.obj properties) (.obj []) ∧
    Table.Drops properties kept names ∧ Table.Sets before middle "properties" (.obj kept) ∧
    ((∃ entries, Table.get? before "required" = some (.arr entries) ∧
        Table.Sets middle after "required" (.arr (entries.filter fun entry => !namesOneOf names entry))) ∨
      (∀ entries, Table.get? before "required" ≠ some (.arr entries)) ∧ after = middle)

/-- A `properties` edit that succeeds read the declared properties of an object and wrote the
edited ones under `properties`. -/
theorem editProperties_eq_some_inv {content edited : Json} {edit : Table Json → Table Json}
    (h : editProperties content edit = some edited) :
    ∃ fields properties, content = .obj fields ∧
      Declares fields "properties" (.obj properties) (.obj []) ∧
      edited = .obj (Table.insert fields "properties" (.obj (edit properties))) := by
  cases content with
  | obj fields =>
    simp only [editProperties] at h
    split at h
    · next absent => exact ⟨fields, [], rfl, Or.inr ⟨absent, rfl⟩, (Option.some.inj h).symm⟩
    · next properties present =>
      exact ⟨fields, properties, rfl, Or.inl present, (Option.some.inj h).symm⟩
    · simp at h
  | _ => simp [editProperties] at h

/-- Appending to `required` read the declared entries and wrote them back with the name last. -/
theorem appendRequired_eq_some_inv {fields : Table Json} {name : String} {edited : Json}
    (h : appendRequired (.obj fields) name = some edited) :
    ∃ entries, Declares fields "required" (.arr entries) (.arr []) ∧
      edited = .obj (Table.insert fields "required" (.arr (entries ++ [.str name]))) := by
  simp only [appendRequired] at h
  split at h
  · next absent => exact ⟨[], Or.inr ⟨absent, rfl⟩, (Option.some.inj h).symm⟩
  · next entries present => exact ⟨entries, Or.inl present, (Option.some.inj h).symm⟩
  · simp at h

/-- Inserting a property and then appending its name to `required` adds it as a required
property: `required` is read in the schema with `properties` written, which leaves it as it was. -/
theorem addsProperty_of_appendRequired {fields properties : Table Json} {name : String}
    {schema final : Json} (declared : Declares fields "properties" (.obj properties) (.obj []))
    (finished : appendRequired
      (.obj (Table.insert fields "properties" (.obj (Table.insert properties name schema)))) name =
        some final) :
    ∃ edited, final = .obj edited ∧ AddsProperty name schema true fields edited := by
  obtain ⟨entries, listed, rfl⟩ := appendRequired_eq_some_inv finished
  have differ : "required" ≠ "properties" := by decide
  exact ⟨_, rfl, properties, _, _, declared, Table.sets_insert _ _ _, Table.sets_insert _ _ _,
    fun _ => ⟨entries, (declares_insert_of_ne differ).mp listed, Table.sets_insert _ _ _⟩,
    fun kept => absurd kept (by decide)⟩

/-- Dropping names from `required` rewrites a list in place, keeping entry by entry what does not
name a listed property, and leaves any other shape alone. -/
theorem dropRequired_obj (fields : Table Json) (names : List String) :
    ∃ edited, dropRequired (.obj fields) names = .obj edited ∧
      ((∃ entries, Table.get? fields "required" = some (.arr entries) ∧
          edited = Table.insert fields "required"
            (.arr (entries.filter fun entry => !namesOneOf names entry))) ∨
        (∀ entries, Table.get? fields "required" ≠ some (.arr entries)) ∧ edited = fields) := by
  simp only [dropRequired]
  split
  · next entries present =>
    refine ⟨_, rfl, Or.inl ⟨entries, present, ?_⟩⟩
    congr 3
    funext entry
    cases entry <;> rfl
  · next notList => exact ⟨fields, rfl, Or.inr ⟨notList, rfl⟩⟩

end Content

/-! ### Classes and resources rewritten in part -/

/-- A class whose content schema, an object, has its members rewritten, all else kept. -/
def ClassDef.RewritesContent (rewrite : Table Json → Table Json → Prop) (before after : ClassDef) :
    Prop :=
  ∃ fields edited, before.content = .obj fields ∧ after = { before with content := .obj edited } ∧
    rewrite fields edited

/-- A class whose relations are rewritten, all else kept. -/
def ClassDef.RewritesRelations (rewrite : Table RelationSpec → Table RelationSpec → Prop)
    (before after : ClassDef) : Prop :=
  ∃ relations, after = { before with relations := relations } ∧ rewrite before.relations relations

/-- A resource whose content, an object, has its members rewritten, all else kept. -/
def Resource.RewritesContent (rewrite : Table Json → Table Json → Prop) (before after : Resource) :
    Prop :=
  ∃ fields edited, before.content = .obj fields ∧ after = { before with content := .obj edited } ∧
    rewrite fields edited

/-- A resource whose links are rewritten, all else kept. -/
def Resource.RewritesLinks (rewrite : Table Link → Table Link → Prop) (before after : Resource) :
    Prop :=
  ∃ links, after = { before with links := links } ∧ rewrite before.links links

/-- An edit of the content of a resource that succeeds found an object and rewrote its members. -/
theorem Resource.editContent_eq_ok_inv {transformation cls id : String} {resource edited : Resource}
    {edit : Table Json → Table Json}
    (h : resource.editContent transformation cls id edit = .ok edited) :
    ∃ fields, resource.content = .obj fields ∧ edited = { resource with content := .obj (edit fields) } := by
  unfold editContent at h
  split at h
  · next fields object =>
    simp only [Except.ok.injEq] at h
    exact ⟨fields, object, h.symm⟩
  · simp at h

/-! ### One class changed -/

/-- A model in which one class changed, in place, as `rewrites` says: the classes keep their names
and their order, and every other class is as it was. -/
structure SchemaPack.ChangesOneClass (rewrites : ClassDef → ClassDef → Prop) (name : String)
    (model output : SchemaPack) : Prop where
  keys_classes : Table.keys output.classes = Table.keys model.classes
  cls?_of_ne : ∀ other, other ≠ name → output.cls? other = model.cls? other
  rewritten : ∀ before, model.cls? name = some before →
    ∃ after, output.cls? name = some after ∧ rewrites before after

/-- A data pack in which the resources of one class changed, each as `rewrites` says of its id:
the classes keep their names and their order, the class keeps its ids in their order, and every
other class keeps its resources. -/
structure DataPack.ChangesOneClass (rewrites : String → Resource → Resource → Prop) (cls : String)
    (data output : DataPack) : Prop where
  classNames_eq : output.classNames = data.classNames
  classResources_of_ne : ∀ other, other ≠ cls → output.classResources other = data.classResources other
  rewritten : List.Forall₂ (fun entry edited => edited.1 = entry.1 ∧ rewrites entry.1 entry.2 edited.2)
    (data.classResources cls) (output.classResources cls)

namespace SchemaPack

variable {rewrites : ClassDef → ClassDef → Prop} {model output : SchemaPack} {name : String}

theorem changesOneClass_withClass {before after : ClassDef} (present : model.cls? name = some before)
    (rewritten : rewrites before after) :
    ChangesOneClass rewrites name model (model.withClass name after) where
  keys_classes := Table.keys_insert_of_contains _ _ _ (Table.contains_of_get?_eq_some present)
  cls?_of_ne other differ := cls?_withClass_of_ne model after differ
  rewritten found listed := by
    rw [present, Option.some.injEq] at listed
    exact ⟨after, cls?_withClass_self model name after, listed ▸ rewritten⟩

/-- A model without the class is left as it is. -/
theorem changesOneClass_of_cls?_eq_none (absent : model.cls? name = none) :
    ChangesOneClass rewrites name model model where
  keys_classes := rfl
  cls?_of_ne _ _ := rfl
  rewritten before present := by
    rw [absent] at present
    cases present

/-- A class edit that succeeds changes that class only, as its edit does. -/
theorem changesOneClass_editClass {missing : ReshapeError}
    {edit : ClassDef → Except ReshapeError ClassDef}
    (rewrite : ∀ cls edited, edit cls = .ok edited → rewrites cls edited)
    (h : model.editClass name missing edit = .ok output) : ChangesOneClass rewrites name model output := by
  obtain ⟨cls, edited, present, made, rfl⟩ := editClass_eq_ok h
  exact changesOneClass_withClass present (rewrite cls edited made)

end SchemaPack

namespace DataPack

variable {rewrites : String → Resource → Resource → Prop} {data output : DataPack} {cls : String}

/-- An edit of every resource of a class that succeeds changes that class only, each resource as
the edit does to it. -/
theorem changesOneClass_editResources {edit : String → Resource → Except DataFault Resource}
    (rewrite : ∀ id resource edited, edit id resource = .ok edited → rewrites id resource edited)
    (h : data.editResources cls edit = .ok output) : ChangesOneClass rewrites cls data output := by
  unfold editResources at h
  cases present : data.classResources? cls with
  | none =>
    simp only [present, Except.ok.injEq] at h
    subst h
    have empty : data.classResources cls = [] := by simp [classResources, present]
    exact ⟨rfl, fun _ _ => rfl, empty ▸ List.Forall₂.nil⟩
  | some resources =>
    simp only [present, Except.bind_eq_ok, Except.pure_eq_ok] at h
    obtain ⟨edited, mapped, rfl⟩ := h
    have listed : data.classResources cls = resources := by simp [classResources, present]
    refine ⟨?_, fun other differ => ?_, ?_⟩
    · exact Table.keys_insert_of_contains _ _ _ (Table.contains_of_get?_eq_some present)
    · simp [classResources, classResources?, Table.get?_insert_of_ne _ _ differ]
    · have written : ({ resources := Table.insert data.resources cls edited } : DataPack).classResources cls =
          edited := by
        simp [classResources, classResources?]
      rw [listed, written]
      refine (forall₂_of_mapM_eq_ok mapped).imp ?_
      rintro ⟨id, resource⟩ ⟨id', resource'⟩ stepped
      simp only [Except.bind_eq_ok, Except.pure_eq_ok, Prod.mk.injEq] at stepped
      obtain ⟨result, made, rfl, rfl⟩ := stepped
      exact ⟨rfl, rewrite id resource result made⟩

/-- Every class keeps its ids, in their order: the rewritten class pairs its resources one to one,
under the same ids. -/
theorem ChangesOneClass.keys_classResources (changes : ChangesOneClass rewrites cls data output)
    (other : String) : Table.keys (output.classResources other) = Table.keys (data.classResources other) := by
  by_cases same : other = cls
  · rw [same]
    have paired := changes.rewritten
    generalize data.classResources cls = before at paired
    generalize output.classResources cls = after at paired
    induction paired with
    | nil => rfl
    | cons head _ inductionHypothesis =>
      simp only [Table.keys, List.map_cons] at inductionHypothesis ⊢
      rw [head.1, inductionHypothesis]
  · rw [changes.classResources_of_ne other same]

end DataPack

/-! ### Each transformation -/

section Transformations

variable {model output : SchemaPack} {data edited : DataPack}

namespace AddPropertyConfig

variable {config : AddPropertyConfig}

/-- Adding a property sets it in `properties`, and appends a required property to `required` as
well. -/
theorem changesOneClass_reshapeModel (reshaped : config.reshapeModel model = .ok output) :
    SchemaPack.ChangesOneClass
      (ClassDef.RewritesContent
        (Content.AddsProperty config.propertyName config.schema config.required))
      config.className model output := by
  rw [reshapeModel_eq] at reshaped
  refine SchemaPack.changesOneClass_editClass (fun cls after made => ?_) reshaped
  simp only [contentEdit, Except.bind_eq_ok, orError_eq_ok, Except.pure_eq_ok] at made
  obtain ⟨content, rewritten, final, finished, rfl⟩ := made
  obtain ⟨fields, properties, object, declared, rfl⟩ := Content.editProperties_eq_some_inv rewritten
  cases required : config.required with
  | false =>
    simp only [required, Bool.false_eq_true, if_false, Except.pure_eq_ok] at finished
    subst finished
    exact ⟨fields, _, object, rfl, properties, _, _, declared, Table.sets_insert _ _ _,
      Table.sets_insert _ _ _, fun appended => absurd appended (by decide), fun _ => rfl⟩
  | true =>
    simp only [required, if_true, orError_eq_ok] at finished
    obtain ⟨edited, rfl, adds⟩ := Content.addsProperty_of_appendRequired declared finished
    exact ⟨fields, edited, object, rfl, adds⟩

theorem changesOneClass_reshapeData (reshaped : config.reshapeData data = .ok edited) :
    DataPack.ChangesOneClass
      (fun _ => Resource.RewritesContent (Table.Sets · · config.propertyName config.value))
      config.className data edited := by
  refine DataPack.changesOneClass_editResources (fun id resource after made => ?_) reshaped
  obtain ⟨fields, object, rfl⟩ := Resource.editContent_eq_ok_inv made
  exact ⟨fields, _, object, rfl, Table.sets_insert _ _ _⟩

end AddPropertyConfig

namespace CountReferencesConfig

variable {config : CountReferencesConfig}

theorem changesOneClass_reshapeModel (reshaped : config.reshapeModel model = .ok output) :
    SchemaPack.ChangesOneClass
      (ClassDef.RewritesContent (Content.AddsProperty config.contentProperty countSchema true))
      config.className model output := by
  rw [reshapeModel_eq] at reshaped
  refine SchemaPack.changesOneClass_editClass (fun cls after made => ?_) reshaped
  simp only [contentEdit, Except.bind_eq_ok, orError_eq_ok, Except.pure_eq_ok] at made
  obtain ⟨content, rewritten, final, finished, rfl⟩ := made
  obtain ⟨fields, properties, object, declared, rfl⟩ := Content.editProperties_eq_some_inv rewritten
  obtain ⟨edited, rfl, adds⟩ := Content.addsProperty_of_appendRequired declared finished
  exact ⟨fields, edited, object, rfl, adds⟩

theorem changesOneClass_reshapeData (reshaped : config.reshapeData data = .ok edited) :
    DataPack.ChangesOneClass
      (fun id => Resource.RewritesContent (Table.Sets · · config.contentProperty
        (.nat (resolvePath data id config.relationPath).length)))
      config.className data edited := by
  simp only [reshapeData] at reshaped
  refine DataPack.changesOneClass_editResources (fun id resource after made => ?_) reshaped
  obtain ⟨fields, object, rfl⟩ := Resource.editContent_eq_ok_inv made
  exact ⟨fields, _, object, rfl, Table.sets_insert _ _ _⟩

end CountReferencesConfig

namespace DeletePropertiesConfig

variable {config : DeletePropertiesConfig}

/-- Deleting properties drops them from `properties`, and their entries from `required`, which is
read in the schema with `properties` written and so as it was. -/
theorem changesOneClass_reshapeModel (reshaped : config.reshapeModel model = .ok output) :
    SchemaPack.ChangesOneClass
      (ClassDef.RewritesContent (Content.DeletesProperties config.propertyNames))
      config.className model output := by
  rw [reshapeModel_eq] at reshaped
  refine SchemaPack.changesOneClass_editClass (fun cls after made => ?_) reshaped
  simp only [contentEdit, Except.bind_eq_ok, orError_eq_ok, Except.pure_eq_ok] at made
  obtain ⟨content, rewritten, final, finished, rfl⟩ := made
  obtain ⟨fields, properties, object, declared, rfl⟩ := Content.editProperties_eq_some_inv rewritten
  subst finished
  obtain ⟨kept, dropped, required⟩ := Content.dropRequired_obj
    (Table.insert fields "properties" (.obj (Content.eraseAll properties config.propertyNames)))
    config.propertyNames
  rw [dropped]
  have differ : "required" ≠ "properties" := by decide
  refine ⟨fields, kept, object, rfl, properties, _, _, declared,
    Content.drops_eraseAll properties config.propertyNames, Table.sets_insert _ _ _, ?_⟩
  simp only [Table.get?_insert_of_ne _ _ differ] at required
  rcases required with ⟨entries, listed, rfl⟩ | ⟨notList, rfl⟩
  · exact Or.inl ⟨entries, listed, Table.sets_insert _ _ _⟩
  · exact Or.inr ⟨notList, rfl⟩

/-- A content schema that declares no `properties` comes out with an empty `properties` object
appended last, whichever names are deleted, none included: deleting properties is not the identity
on such a class. A `required` list is rewritten in place, so `properties` stays last. -/
theorem reshapeModel_appends_empty_properties {cls : ClassDef} {fields : Table Json}
    (present : model.cls? config.className = some cls) (object : cls.content = .obj fields)
    (undeclared : Table.get? fields "properties" = none) :
    ∃ output after edited, config.reshapeModel model = .ok output ∧
      output.cls? config.className = some after ∧ after.content = .obj edited ∧
      Table.keys edited = Table.keys fields ++ ["properties"] ∧
      Table.get? edited "properties" = some (.obj []) := by
  have appended := Table.keys_insert_of_not_contains fields "properties" (.obj [])
    (Table.contains_eq_false_of_get?_eq_none undeclared)
  have emptied : Content.eraseAll ([] : Table Json) config.propertyNames = [] := by
    simpa [Table.keys] using Content.keys_eraseAll ([] : Table Json) config.propertyNames
  obtain ⟨edited, dropped, required⟩ := Content.dropRequired_obj
    (Table.insert fields "properties" (.obj [])) config.propertyNames
  refine ⟨model.withClass config.className { cls with content := .obj edited }, _, edited, ?_,
    SchemaPack.cls?_withClass_self _ _ _, rfl, ?_⟩
  · simp [reshapeModel_eq, SchemaPack.editClass, present, contentEdit, object,
      Content.editProperties, undeclared, emptied, dropped, orError]
  rcases required with ⟨entries, listed, rfl⟩ | ⟨-, rfl⟩
  · have differ : "properties" ≠ "required" := by decide
    refine ⟨?_, by rw [Table.get?_insert_of_ne _ _ differ, Table.get?_insert_self]⟩
    rw [Table.keys_insert_of_contains _ _ _ (Table.contains_of_get?_eq_some listed), appended]
  · exact ⟨appended, Table.get?_insert_self _ _ _⟩

theorem changesOneClass_reshapeData (reshaped : config.reshapeData data = .ok edited) :
    DataPack.ChangesOneClass
      (fun _ => Resource.RewritesContent (Table.Drops · · config.propertyNames))
      config.className data edited := by
  refine DataPack.changesOneClass_editResources (fun id resource after made => ?_) reshaped
  obtain ⟨fields, object, rfl⟩ := Resource.editContent_eq_ok_inv made
  exact ⟨fields, _, object, rfl, Content.drops_eraseAll _ _⟩

end DeletePropertiesConfig

namespace DeleteRelationsConfig

variable {config : DeleteRelationsConfig}

theorem changesOneClass_reshapeModel (reshaped : config.reshapeModel model = .ok output) :
    SchemaPack.ChangesOneClass (ClassDef.RewritesRelations (Table.Drops · · config.relationNames))
      config.className model output := by
  unfold reshapeModel at reshaped
  cases present : model.cls? config.className with
  | none =>
    simp only [present, Except.ok.injEq] at reshaped
    subst reshaped
    exact SchemaPack.changesOneClass_of_cls?_eq_none present
  | some cls =>
    simp only [present, Except.ok.injEq] at reshaped
    subst reshaped
    exact SchemaPack.changesOneClass_withClass present ⟨_, rfl, Content.drops_eraseAll _ _⟩

theorem changesOneClass_reshapeData (reshaped : config.reshapeData data = .ok edited) :
    DataPack.ChangesOneClass (fun _ => Resource.RewritesLinks (Table.Drops · · config.relationNames))
      config.className data edited := by
  refine DataPack.changesOneClass_editResources (fun id resource after made => ?_) reshaped
  simp only [Except.ok.injEq] at made
  exact ⟨_, made.symm, Content.drops_eraseAll _ _⟩

end DeleteRelationsConfig

/-- A resolution accepted by `resolveSingle` reached one target at most, which it gives. -/
theorem Resolver.resolveSingle_eq_ok_inv {resolver : Resolver}
    {source transformation : String} {found : Option String}
    (h : resolver.resolveSingle source transformation = .ok found) :
    (resolver.resolve source).length ≤ 1 ∧ found = (resolver.resolve source).head? := by
  unfold Resolver.resolveSingle at h
  split at h
  · next empty =>
    simp only [Except.ok.injEq] at h
    simp [empty, ← h]
  · next target only =>
    simp only [Except.ok.injEq] at h
    simp [only, ← h]
  · simp at h

namespace InferRelationConfig

variable {config : InferRelationConfig}

theorem changesOneClass_reshapeModel (reshaped : config.reshapeModel model = .ok output) :
    SchemaPack.ChangesOneClass
      (fun before after => ∃ fans, config.relationPath.multiplicity model = .ok fans ∧
        ClassDef.RewritesRelations (Table.Sets · · config.relationName (config.inferredSpec fans))
          before after)
      config.className model output := by
  unfold reshapeModel at reshaped
  cases counted : config.relationPath.multiplicity model with
  | error problem => simp [counted] at reshaped
  | ok fans =>
    simp only [counted] at reshaped
    refine SchemaPack.changesOneClass_editClass (fun cls after made => ?_) reshaped
    simp only [Except.pure_eq_ok] at made
    subst made
    exact ⟨fans, rfl, _, rfl, Table.sets_insert _ _ _⟩

/-- How inferring a relation rewrites one resource: the relation is read from the output model;
the resource's instance holds everything the path reaches when the relation holds several
targets, and otherwise the path reaches one target at most and the instance holds it, if any. -/
def RewritesResource (config : InferRelationConfig) (data : DataPack) (output : SchemaPack)
    (id : String) (before after : Resource) : Prop :=
  ∃ relation, output.requireRelation config.className config.relationName = .ok relation ∧
    (relation.multiple.target = false → (resolvePath data id config.relationPath).length ≤ 1) ∧
    match config.inferredTargets data relation.multiple.target id with
    | some targets => Resource.RewritesLinks
        (Table.Sets · · config.relationName ⟨config.relationPath.target, targets⟩) before after
    | none => after = before

/-- Inferring a relation links each resource of the class, to a set of targets or to one as the
relation holds several targets or not. -/
theorem changesOneClass_reshapeData (reshaped : config.reshapeData data output = .ok edited) :
    DataPack.ChangesOneClass (config.RewritesResource data output) config.className data edited := by
  unfold reshapeData at reshaped
  cases stated : output.requireRelation config.className config.relationName with
  | error problem => simp [stated, throw, throwThe, MonadExceptOf.throw] at reshaped
  | ok relation =>
    simp only [stated, pure_bind] at reshaped
    refine DataPack.changesOneClass_editResources (fun id resource after made => ?_) reshaped
    refine ⟨relation, stated, ?_⟩
    cases many : relation.multiple.target with
    | true =>
      simp only [many, ↓reduceIte, Except.pure_eq_ok] at made
      subst made
      exact ⟨fun differ => absurd differ (by decide), ⟨_, rfl, Table.sets_insert _ _ _⟩⟩
    | false =>
      simp only [many, Bool.false_eq_true, ↓reduceIte, Except.bind_eq_ok] at made
      obtain ⟨single, resolved, linkedHere⟩ := made
      obtain ⟨atMostOne, rfl⟩ := Resolver.resolveSingle_eq_ok_inv resolved
      refine ⟨fun _ => atMostOne, ?_⟩
      simp only [inferredTargets, Bool.false_eq_true, if_false, resolvePath]
      cases reached : ((Resolver.new data config.relationPath).resolve id).head? with
      | none =>
        simp only [reached, Option.map_none, Except.pure_eq_ok] at linkedHere ⊢
        exact linkedHere.symm
      | some target =>
        simp only [reached, Option.map_some, Except.pure_eq_ok] at linkedHere ⊢
        exact ⟨_, linkedHere.symm, Table.sets_insert _ _ _⟩

end InferRelationConfig

end Transformations

/-! ### Every transformation -/

namespace Transformation

/-- The class a transformation names. -/
def className : Transformation → String
  | .addContentProperty config => config.className
  | .deleteContentProperties config => config.className
  | .deleteRelations config => config.className
  | .countReferences config => config.className
  | .inferRelation config => config.className

/-- How a transformation rewrites the class it names in a model. -/
def RewritesClass : Transformation → SchemaPack → ClassDef → ClassDef → Prop
  | .addContentProperty config, _ => ClassDef.RewritesContent
      (Content.AddsProperty config.propertyName config.schema config.required)
  | .deleteContentProperties config, _ =>
    ClassDef.RewritesContent (Content.DeletesProperties config.propertyNames)
  | .deleteRelations config, _ => ClassDef.RewritesRelations (Table.Drops · · config.relationNames)
  | .countReferences config, _ => ClassDef.RewritesContent
      (Content.AddsProperty config.contentProperty CountReferencesConfig.countSchema true)
  | .inferRelation config, model => fun before after =>
    ∃ fans, config.relationPath.multiplicity model = .ok fans ∧
      ClassDef.RewritesRelations (Table.Sets · · config.relationName (config.inferredSpec fans))
        before after

/-- How a transformation rewrites a resource of the class it names, by its id, in a data pack
reshaped for an output model. -/
def RewritesResource : Transformation → DataPack → SchemaPack → String → Resource → Resource → Prop
  | .addContentProperty config, _, _, _ =>
    Resource.RewritesContent (Table.Sets · · config.propertyName config.value)
  | .deleteContentProperties config, _, _, _ =>
    Resource.RewritesContent (Table.Drops · · config.propertyNames)
  | .deleteRelations config, _, _, _ => Resource.RewritesLinks (Table.Drops · · config.relationNames)
  | .countReferences config, data, _, id => Resource.RewritesContent
      (Table.Sets · · config.contentProperty (.nat (resolvePath data id config.relationPath).length))
  | .inferRelation config, data, output, id => config.RewritesResource data output id

/-- A transformation changes only the class it names: reshaping a model replaces that class in
place, by the rewrite its configuration calls for, and keeps every other class; reshaping a data
pack rewrites each resource of that class under its own id and in its own place, and keeps every
other class's resources. -/
theorem reshape_changes_only_its_class (transformation : Transformation) :
    (∀ model output, transformation.reshapeModel model = .ok output →
      SchemaPack.ChangesOneClass (transformation.RewritesClass model) transformation.className
        model output) ∧
    ∀ data model edited, transformation.reshapeData data model = .ok edited →
      DataPack.ChangesOneClass (transformation.RewritesResource data model)
        transformation.className data edited := by
  cases transformation with
  | addContentProperty config =>
    exact ⟨fun _ _ => config.changesOneClass_reshapeModel,
      fun _ _ _ => config.changesOneClass_reshapeData⟩
  | deleteContentProperties config =>
    exact ⟨fun _ _ => config.changesOneClass_reshapeModel,
      fun _ _ _ => config.changesOneClass_reshapeData⟩
  | deleteRelations config =>
    exact ⟨fun _ _ => config.changesOneClass_reshapeModel,
      fun _ _ _ => config.changesOneClass_reshapeData⟩
  | countReferences config =>
    exact ⟨fun _ _ => config.changesOneClass_reshapeModel,
      fun _ _ _ => config.changesOneClass_reshapeData⟩
  | inferRelation config =>
    exact ⟨fun _ _ => config.changesOneClass_reshapeModel,
      fun _ _ _ => config.changesOneClass_reshapeData⟩

end Transformation

end Recast
