import Mathlib.Data.List.Nodup
import Recast.Data.Conformance
import Recast.Proofs.Except
import Recast.Proofs.Table
/-!
The data-model invariants, and the check that decides them.

`Conforms model data` states what a data pack owes its model, in the words of the data model
rather than of the loops that check it: every class of the data is a class of the model, every
content is admitted by its class's content schema, every link a resource holds is declared by its
class, and for every declared relation each resource's link has the declared target class, shape
and targets, a relation that is single at its origin never reaches one target from two resources,
and a relation mandatory at its target reaches every resource of the target class.

The check reports the first violation it meets, walking classes, resources and relations in
order, and counts references in a table as it goes. Main statement: `check_eq_ok_iff_conforms`,
the check succeeds exactly when the pack conforms.
-/

namespace Recast

/-! ### The invariants -/

/-- A resource's link for the declared relation `name`: absent only when the relation is not
mandatory at its origin; otherwise of the declared target class, one id exactly when the relation
is single at its target, not empty when mandatory at its origin, and naming existing resources of
the target class. -/
def LinkConforms (data : DataPack) (name : String) (relation : RelationSpec)
    (resource : Resource) : Prop :=
  match Table.get? resource.links name with
  | none => relation.mandatory.origin = false
  | some link =>
    link.targetClass = relation.targetClass ∧ link.targets.isMany = relation.multiple.target ∧
      (relation.mandatory.origin = true → link.targets.ids ≠ []) ∧
      ∀ target ∈ link.targets.ids, target ∈ Table.keys (data.classResources relation.targetClass)

/-- A relation `name` that class `cls` declares holds in the data. -/
structure RelationConforms (data : DataPack) (cls name : String) (relation : RelationSpec) :
    Prop where
  links : ∀ resource ∈ data.classResources cls, LinkConforms data name relation resource.2
  /-- Single at the origin: no id is a target of two resources of the class, nor listed twice by
  one (which an ordered set of targets never does). -/
  singleOrigin : relation.multiple.origin = false →
    ((data.classResources cls).flatMap fun resource => resource.2.targets name).Nodup
  /-- Mandatory at the target: every resource of the target class is some resource's target. -/
  referenced : relation.mandatory.target = true →
    ∀ target ∈ Table.keys (data.classResources relation.targetClass),
      ∃ resource ∈ data.classResources cls, target ∈ resource.2.targets name

/-- A data pack meets the invariants its model declares. -/
structure Conforms (model : SchemaPack) (data : DataPack) : Prop where
  classes : ∀ cls ∈ data.classNames, cls ∈ model.classNames
  contents : ∀ entry ∈ data.resources, ∀ cls, model.cls? entry.1 = some cls →
    ∀ schema, JsonSchema.Validator.compile cls.content = .ok schema →
      ∀ resource ∈ entry.2, schema.check resource.2.content = none
  declared : ∀ entry ∈ model.classes, ∀ resource ∈ data.classResources entry.1,
    ∀ name ∈ Table.keys resource.2.links, name ∈ Table.keys entry.2.relations
  relations : ∀ entry ∈ model.classes, ∀ relation ∈ entry.2.relations,
    RelationConforms data entry.1 relation.1 relation.2

/-! ### Counting references -/

theorem tally_cons (counts : Table Nat) (target : String) (rest : List String) :
    tally counts (target :: rest) =
      tally (Table.insert counts target ((Table.get? counts target).getD 0 + 1)) rest :=
  rfl

theorem tally_append (counts : Table Nat) (first second : List String) :
    tally counts (first ++ second) = tally (tally counts first) second :=
  List.foldl_append

/-- A tally adds to each target's count the number of times it is listed. -/
theorem getD_get?_tally (counts : Table Nat) (targets : List String) (target : String) :
    (Table.get? (tally counts targets) target).getD 0 =
      (Table.get? counts target).getD 0 + targets.count target := by
  induction targets generalizing counts with
  | nil => rfl
  | cons first rest inductionHypothesis =>
    rw [tally_cons, inductionHypothesis, Table.get?_insert, List.count_cons]
    by_cases same : target = first
    · subst same
      simp
      omega
    · have differ : (first == target) = false := by simpa using Ne.symm same
      simp [same, differ]

theorem mem_keys_tally {counts : Table Nat} {targets : List String} {target : String} :
    target ∈ Table.keys (tally counts targets) ↔ target ∈ Table.keys counts ∨ target ∈ targets := by
  induction targets generalizing counts with
  | nil => simp [tally]
  | cons first rest inductionHypothesis =>
    rw [tally_cons, inductionHypothesis, Table.mem_keys_insert]
    simp only [List.mem_cons]
    tauto

theorem nodup_keys_tally {counts : Table Nat} (distinct : (Table.keys counts).Nodup)
    (targets : List String) : (Table.keys (tally counts targets)).Nodup := by
  induction targets generalizing counts with
  | nil => exact distinct
  | cons first rest inductionHypothesis =>
    rw [tally_cons]
    exact inductionHypothesis (Table.nodup_keys_insert distinct ..)

/-- A tally from nothing knows a target exactly when it is listed. -/
theorem contains_tally_nil {targets : List String} {target : String} :
    Table.contains (tally [] targets) target = true ↔ target ∈ targets := by
  rw [Table.contains_eq_true_iff, mem_keys_tally]
  simp [Table.keys]

/-- A tally from nothing counts no target twice exactly when no target is listed twice. -/
theorem counts_tally_nil_le_one {targets : List String} :
    (∀ entry ∈ tally [] targets, entry.2 ≤ 1) ↔ targets.Nodup := by
  have distinct : (Table.keys (tally [] targets)).Nodup :=
    nodup_keys_tally (show (Table.keys ([] : Table Nat)).Nodup from List.nodup_nil) targets
  have counted : ∀ entry ∈ tally [] targets, entry.2 = targets.count entry.1 := by
    intro entry member
    have total := getD_get?_tally [] targets entry.1
    rw [Table.get?_of_mem distinct member] at total
    simpa [Table.get?] using total
  rw [List.nodup_iff_count_le_one]
  constructor
  · intro small target
    by_cases listed : target ∈ Table.keys (tally [] targets)
    · obtain ⟨entry, member, rfl⟩ := List.mem_map.mp listed
      rw [← counted entry member]
      exact small entry member
    · have absent : target ∉ targets := fun member => listed (mem_keys_tally.mpr (Or.inr member))
      simp [List.count_eq_zero_of_not_mem absent]
  · intro small entry member
    rw [counted entry member]
    exact small entry.1

/-! ### One link, one relation, one class -/

namespace ModelValidator

/-- A link passes its check exactly when it conforms, and the check gives its targets. The last
guard looks for a missing target, and none is missing when none is found. -/
theorem checkLink_eq_ok {data : DataPack} {cls name : String} {relation : RelationSpec}
    {id : String} {resource : Resource} {targets : List String} :
    checkLink data cls name relation id resource = .ok targets ↔
      LinkConforms data name relation resource ∧ targets = resource.targets name := by
  unfold checkLink LinkConforms Resource.targets
  cases found : Table.get? resource.links name with
  | none =>
    cases origin : relation.mandatory.origin <;> simp [eq_comm]
  | some link =>
    have existing : (∀ target ∈ link.targets.ids,
        target ∈ Table.keys (data.classResources relation.targetClass)) ↔
        link.targets.ids.find? (fun target =>
          !Table.contains (data.classResources relation.targetClass) target) = none := by
      simp [List.find?_eq_none, Table.contains_eq_true_iff]
    simp only [bne_iff_ne, ne_eq, Bool.and_eq_true, List.isEmpty_iff, Except.ite_error_eq_ok,
      Decidable.not_not, existing, not_and]
    cases missing : link.targets.ids.find? fun target =>
        !Table.contains (data.classResources relation.targetClass) target with
    | none => simp [@eq_comm _ targets, and_assoc]
    | some target => simp

/-- Checking the links of a class's resources one by one, and counting their targets, succeeds
exactly when every link conforms; the counts are then those of all targets in order. -/
theorem foldlM_tally_eq_ok {ε β : Type} {items : List β}
    {step : Table Nat → β → Except ε (Table Nat)} {link : β → Except ε (List String)}
    {holds : β → Prop} {targets : β → List String}
    (unfolds : ∀ counts item,
      step counts item = link item >>= fun found => pure (tally counts found))
    (linked : ∀ item found, link item = .ok found ↔ holds item ∧ found = targets item)
    {counts result : Table Nat} :
    items.foldlM step counts = .ok result ↔
      (∀ item ∈ items, holds item) ∧ result = tally counts (items.flatMap targets) := by
  induction items generalizing counts with
  | nil => simp [pure, Except.pure, eq_comm, tally]
  | cons item rest inductionHypothesis =>
    simp only [List.foldlM_cons, Except.bind_eq_ok, unfolds, linked, Except.pure_eq_ok,
      inductionHypothesis, List.mem_cons, forall_eq_or_imp, List.flatMap_cons, tally_append]
    constructor
    · rintro ⟨_, ⟨found, ⟨holdsHere, rfl⟩, rfl⟩, holdsLater, rfl⟩
      exact ⟨⟨holdsHere, holdsLater⟩, rfl⟩
    · rintro ⟨⟨holdsHere, holdsLater⟩, rfl⟩
      exact ⟨_, ⟨_, ⟨holdsHere, rfl⟩, rfl⟩, holdsLater, rfl⟩

/-- A relation passes its check exactly when its instances conform, counting the targets of the
class's links in order. -/
theorem checkRelation_eq_ok {data : DataPack} {cls name : String} {relation : RelationSpec} :
    checkRelation data cls name relation = .ok () ↔ RelationConforms data cls name relation := by
  have once : ∀ targets : List String,
      (tally [] targets).find? (fun x => decide (1 < x.snd)) = none ↔
      targets.Nodup := by
    intro targets
    rw [← counts_tally_nil_le_one, List.find?_eq_none]
    simp
  have everywhere : ∀ targets : List String,
      (Table.keys (data.classResources relation.targetClass)).find?
        (fun target => !Table.contains (tally [] targets) target) = none ↔
      ∀ target ∈ Table.keys (data.classResources relation.targetClass), target ∈ targets := by
    intro targets
    simp [List.find?_eq_none, contains_tally_nil]
  unfold checkRelation
  rw [Except.bind_eq_ok]
  constructor
  · rintro ⟨counts, folded, checked⟩
    obtain ⟨links, rfl⟩ :=
      (foldlM_tally_eq_ok (fun _ _ => rfl) (fun _ _ => checkLink_eq_ok)).mp folded
    simp only at checked
    generalize listed : (data.classResources cls).flatMap (fun x => x.2.targets name) = all
      at checked
    have double : relation.multiple.origin = false → all.Nodup := by
      intro single
      rw [← once]
      cases found : (tally [] all).find? (fun x => decide (1 < x.snd)) with
      | none => rfl
      | some entry =>
        obtain ⟨target, count⟩ := entry
        simp [single, found] at checked
    have missing : relation.mandatory.target = true →
        ∀ target ∈ Table.keys (data.classResources relation.targetClass), target ∈ all := by
      intro mandatory
      rw [← everywhere]
      cases found : (Table.keys (data.classResources relation.targetClass)).find?
          (fun target => !Table.contains (tally [] all) target) with
      | none => rfl
      | some target =>
        cases origin : relation.multiple.origin
        · simp [origin, (once all).mpr (double origin), mandatory, found] at checked
        · simp [origin, mandatory, found] at checked
    refine ⟨links, fun single => listed ▸ double single, ?_⟩
    intro mandatory target member
    exact List.mem_flatMap.mp (listed ▸ missing mandatory target member)
  · intro conforms
    refine ⟨_, (foldlM_tally_eq_ok (fun _ _ => rfl) (fun _ _ => checkLink_eq_ok)).mpr
      ⟨conforms.links, rfl⟩, ?_⟩
    simp only
    generalize listed : (data.classResources cls).flatMap (fun x => x.2.targets name) = all
    have double : relation.multiple.origin = false →
        (tally [] all).find? (fun x => decide (1 < x.snd)) = none :=
      fun single => (once all).mpr (listed ▸ conforms.singleOrigin single)
    have missing : relation.mandatory.target = true →
        (Table.keys (data.classResources relation.targetClass)).find?
          (fun target => !Table.contains (tally [] all) target) = none := by
      intro mandatory
      refine (everywhere all).mpr fun target member => ?_
      exact listed ▸ List.mem_flatMap.mpr (conforms.referenced mandatory target member)
    cases origin : relation.multiple.origin <;> cases mandatory : relation.mandatory.target <;>
      simp [origin, mandatory, double, missing]

/-- The relations of a class pass their check exactly when each conforms and every link is
declared; the undeclared links are looked for with `find?`, which finds none exactly when all are
declared. -/
theorem checkClassRelations_eq_ok {data : DataPack} {name : String} {cls : ClassDef} :
    checkClassRelations data name cls = .ok () ↔
      (∀ relation ∈ cls.relations, RelationConforms data name relation.1 relation.2) ∧
        ∀ resource ∈ data.classResources name, ∀ relation ∈ Table.keys resource.2.links,
          relation ∈ Table.keys cls.relations := by
  simp only [checkClassRelations, Except.bind_eq_ok, forM_except_eq_ok, checkRelation_eq_ok,
    exists_const]
  have undeclared : ∀ resource : String × Resource,
      (Table.keys resource.2.links).find? (fun relation => !Table.contains cls.relations relation) =
        none ↔ ∀ relation ∈ Table.keys resource.2.links, relation ∈ Table.keys cls.relations := by
    intro resource
    simp [List.find?_eq_none, Table.contains_eq_true_iff]
  refine and_congr Iff.rfl (forall₂_congr fun resource _ => ?_)
  rw [← undeclared]
  cases (Table.keys resource.2.links).find? (fun relation => !Table.contains cls.relations relation)
  <;> simp

/-! ### The whole pack -/

theorem checkClasses_eq_ok {validator : ModelValidator} {data : DataPack} {done : Unit} :
    validator.checkClasses data = .ok done ↔
      ∀ cls ∈ data.classNames, cls ∈ validator.model.classNames := by
  have unknown : data.classNames.find? (fun cls => !Table.contains validator.model.classes cls) =
      none ↔ ∀ cls ∈ data.classNames, cls ∈ validator.model.classNames := by
    simp [List.find?_eq_none, Table.contains_eq_true_iff, SchemaPack.classNames]
  rw [← unknown]
  unfold checkClasses
  cases data.classNames.find? fun cls => !Table.contains validator.model.classes cls <;> simp

theorem checkContents_eq_ok {validator : ModelValidator} {data : DataPack} {done : Unit} :
    validator.checkContents data = .ok done ↔
      ∀ entry ∈ data.resources, ∀ schema, Table.get? validator.contents entry.1 = some schema →
        ∀ resource ∈ entry.2, schema.check resource.2.content = none := by
  simp only [checkContents, forM_except_eq_ok]
  refine forall₂_congr fun entry _ => ?_
  cases Table.get? validator.contents entry.1 with
  | none => simp
  | some schema =>
    simp only [forM_except_eq_ok, Option.some.injEq, forall_eq']
    refine forall₂_congr fun resource _ => ?_
    cases schema.check resource.2.content <;> simp

/-- The content schemas are prepared in class order, each class's under its name. -/
theorem get?_prepareContents {classes : Table ClassDef} {contents : Table JsonSchema.Validator}
    (prepared : prepareContents classes = .ok contents) (name : String) :
    Table.get? contents name =
      (Table.get? classes name).bind fun cls =>
        (JsonSchema.Validator.compile cls.content).toOption := by
  induction classes generalizing contents with
  | nil =>
    simp only [prepareContents, Except.ok.injEq] at prepared
    subst prepared
    rfl
  | cons entry rest inductionHypothesis =>
    obtain ⟨className, cls⟩ := entry
    simp only [prepareContents] at prepared
    cases compiled : JsonSchema.Validator.compile cls.content with
    | error failure => simp [compiled] at prepared
    | ok schema =>
      simp only [compiled, Except.bind_eq_ok, Except.pure_eq_ok] at prepared
      obtain ⟨others, preparedRest, rfl⟩ := prepared
      by_cases same : className = name
      · simp [Table.get?, same, compiled, Except.toOption]
      · simp [Table.get?, same, inductionHypothesis preparedRest]

/-- A validator that was built holds its model, and for each class the compiled content schema. -/
theorem new_eq_ok {model : SchemaPack} {validator : ModelValidator}
    (built : ModelValidator.new model = .ok validator) :
    validator.model = model ∧ ∀ name schema, Table.get? validator.contents name = some schema ↔
      ∃ cls, model.cls? name = some cls ∧
        JsonSchema.Validator.compile cls.content = .ok schema := by
  simp only [new, Except.bind_eq_ok, Except.pure_eq_ok] at built
  obtain ⟨_, _, contents, prepared, rfl⟩ := built
  refine ⟨rfl, fun name schema => ?_⟩
  rw [get?_prepareContents prepared name, Option.bind_eq_some_iff]
  refine exists_congr fun cls => and_congr Iff.rfl ?_
  cases JsonSchema.Validator.compile cls.content <;> simp [Except.toOption]

/-- The content check of a built validator asks each resource's content to pass the schema its
class's content compiles to. -/
theorem checkContents_eq_ok_of_new {model : SchemaPack} {validator : ModelValidator}
    (built : ModelValidator.new model = .ok validator) {data : DataPack} {done : Unit} :
    validator.checkContents data = .ok done ↔
      ∀ entry ∈ data.resources, ∀ cls, model.cls? entry.1 = some cls →
        ∀ schema, JsonSchema.Validator.compile cls.content = .ok schema →
          ∀ resource ∈ entry.2, schema.check resource.2.content = none := by
  rw [checkContents_eq_ok]
  refine forall₂_congr fun entry _ => ?_
  simp only [(new_eq_ok built).2]
  constructor
  · intro admitted cls present schema compiled
    exact admitted schema ⟨cls, present, compiled⟩
  · rintro admitted schema ⟨cls, present, compiled⟩
    exact admitted cls present schema compiled

/-- The check runs its three stages in turn and succeeds when each does. -/
theorem check_eq_ok_iff_stages {validator : ModelValidator} {data : DataPack} :
    validator.check data = .ok () ↔
      validator.checkClasses data = .ok () ∧ validator.checkContents data = .ok () ∧
        ∀ entry ∈ validator.model.classes, checkClassRelations data entry.1 entry.2 = .ok () := by
  simp only [check, Except.bind_eq_ok, forM_except_eq_ok]
  constructor
  · rintro ⟨⟨⟩, classes, ⟨⟩, contents, relations⟩
    exact ⟨classes, contents, relations⟩
  · rintro ⟨classes, contents, relations⟩
    exact ⟨(), classes, (), contents, relations⟩

theorem conforms_of_check_eq_ok {model : SchemaPack} {validator : ModelValidator}
    (built : ModelValidator.new model = .ok validator) {data : DataPack}
    (checked : validator.check data = .ok ()) : Conforms model data := by
  obtain ⟨classes, admitted, perClass⟩ := check_eq_ok_iff_stages.mp checked
  have relations := fun entry member => checkClassRelations_eq_ok.mp (perClass entry member)
  obtain ⟨rfl, -⟩ := new_eq_ok built
  exact ⟨checkClasses_eq_ok.mp classes, (checkContents_eq_ok_of_new built).mp admitted,
    fun entry member => (relations entry member).2, fun entry member => (relations entry member).1⟩

theorem check_eq_ok_of_conforms {model : SchemaPack} {validator : ModelValidator}
    (built : ModelValidator.new model = .ok validator) {data : DataPack}
    (conforms : Conforms model data) : validator.check data = .ok () := by
  have admitted : validator.checkContents data = .ok () :=
    (checkContents_eq_ok_of_new built).mpr conforms.contents
  obtain ⟨rfl, -⟩ := new_eq_ok built
  refine check_eq_ok_iff_stages.mpr ⟨checkClasses_eq_ok.mpr conforms.classes, admitted, ?_⟩
  intro entry member
  exact checkClassRelations_eq_ok.mpr
    ⟨conforms.relations entry member, conforms.declared entry member⟩

/-- The check of a built validator decides the data-model invariants: it succeeds on a data pack
exactly when the pack conforms to the model. -/
theorem check_eq_ok_iff_conforms {model : SchemaPack} {validator : ModelValidator}
    (built : ModelValidator.new model = .ok validator) (data : DataPack) :
    validator.check data = .ok () ↔ Conforms model data :=
  ⟨conforms_of_check_eq_ok built, check_eq_ok_of_conforms built⟩

/-- A sample holding two files through a relation that is mandatory at its origin: the pack is
checked, and conforms. The content schemas are the draft-04 schema that admits everything. -/
theorem sampleFiles_conforms :
    let anything : Json := .obj [("$schema", .str "http://json-schema.org/draft-04/schema#")]
    let files : RelationSpec :=
      { targetClass := "File", multiple := ⟨false, true⟩, mandatory := ⟨true, false⟩ }
    let model : SchemaPack :=
      { classes := [
          ("Sample",
            { id := { propertyName := "id" }, content := anything, relations := [("files", files)] }),
          ("File", { id := { propertyName := "id" }, content := anything })] }
    let data : DataPack :=
      { resources := [("Sample", [("s1", { links := [("files", ⟨"File", .many ["f1", "f2"]⟩)] })]),
          ("File", [("f1", {}), ("f2", {})])] }
    ∃ validator, ModelValidator.new model = .ok validator ∧
      validator.check data = .ok () ∧ Conforms model data := by
  intro anything files model data
  obtain ⟨validator, built, computed⟩ := Except.exists_eq_ok_of_toOption_map
    (show ((ModelValidator.new model).toOption.map fun validator =>
      (validator.check data).isOk) = some true by decide +kernel)
  obtain ⟨⟨⟩, checked⟩ := Except.exists_eq_ok_of_isOk computed
  exact ⟨validator, built, checked, (check_eq_ok_iff_conforms built data).mp checked⟩

end ModelValidator

end Recast
