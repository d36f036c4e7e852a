import Recast.Schema.Check
import Recast.Data.Basic
import Recast.JsonSchema.Compile
import Recast.Text.Quote
/-!
Whether a data pack conforms to a schema pack.

A `ModelValidator` is a well-formed schema pack whose content schemas have all been prepared.
Checking a data pack reports the first violation in a fixed order: classes the model does not
define, then the content of every resource, then, class by class in model order, each declared
relation over the class's resources, and last the relations resources hold that their class
does not declare.

For one relation, every resource of the class is looked at in order: a mandatory relation must
be present and non-empty, its target class must be the declared one, its shape (one id or a
set) must follow `multiple.target`, and each target must exist. Then a relation that is not
`multiple.origin` may reference each target once at most, and one that is `mandatory.target`
must reference every resource of the target class.
-/

namespace Recast

/-- How a data pack fails to conform to a schema pack. -/
inductive Violation where
  | unknownClass (cls : String)
  | invalidContent (cls resource message : String)
  | unknownRelation (cls resource relation : String)
  | targetClassMismatch (cls resource relation expected actual : String)
  | targetShapeMismatch (cls resource relation : String) (many : Bool)
  | missingTarget (cls resource relation targetClass target : String)
  | missingMandatoryRelation (cls resource relation : String)
  | targetReferencedMultipleTimes (cls relation targetClass target : String)
  | unreferencedMandatoryTarget (cls relation targetClass target : String)
  deriving DecidableEq, Inhabited, Repr

namespace Violation

/-- The text of a violation. -/
def message : Violation → String
  | .unknownClass cls =>
    "Data pack contains resources of class '" ++ cls ++ "', which the model does not define"
  | .invalidContent cls resource message =>
    "Content of resource '" ++ cls ++ "/" ++ resource ++ "' is invalid: " ++ message
  | .unknownRelation cls resource relation =>
    "Resource '" ++ cls ++ "/" ++ resource ++ "' has an undeclared relation '" ++ relation ++ "'"
  | .targetClassMismatch cls resource relation expected actual =>
    "Relation '" ++ relation ++ "' of resource '" ++ cls ++ "/" ++ resource ++
      "' targets class '" ++ actual ++ "', expected '" ++ expected ++ "'"
  | .targetShapeMismatch cls resource relation many =>
    "Relation '" ++ relation ++ "' of resource '" ++ cls ++ "/" ++ resource ++ "' must hold " ++
      (if many then "a set of" else "a single") ++ " target(s)"
  | .missingTarget cls resource relation targetClass target =>
    "Relation '" ++ relation ++ "' of resource '" ++ cls ++ "/" ++ resource ++
      "' references missing resource '" ++ targetClass ++ "/" ++ target ++ "'"
  | .missingMandatoryRelation cls resource relation =>
    "Mandatory relation '" ++ relation ++ "' of resource '" ++ cls ++ "/" ++ resource ++
      "' has no targets"
  | .targetReferencedMultipleTimes cls relation targetClass target =>
    "Resource '" ++ targetClass ++ "/" ++ target ++ "' is referenced more than once through '" ++
      cls ++ "." ++ relation ++ "'"
  | .unreferencedMandatoryTarget cls relation targetClass target =>
    "Resource '" ++ targetClass ++ "/" ++ target ++ "' must be referenced through '" ++ cls ++
      "." ++ relation ++ "', but is not"

/-- The name of the kind of violation. -/
def kind : Violation → String
  | .unknownClass .. => "UnknownClass"
  | .invalidContent .. => "InvalidContent"
  | .unknownRelation .. => "UnknownRelation"
  | .targetClassMismatch .. => "TargetClassMismatch"
  | .targetShapeMismatch .. => "TargetShapeMismatch"
  | .missingTarget .. => "MissingTarget"
  | .missingMandatoryRelation .. => "MissingMandatoryRelation"
  | .targetReferencedMultipleTimes .. => "TargetReferencedMultipleTimes"
  | .unreferencedMandatoryTarget .. => "UnreferencedMandatoryTarget"

end Violation

/-- Adds one reference to each target's count, keeping first-reference order. -/
def tally (counts : Table Nat) (targets : List String) : Table Nat :=
  targets.foldl (fun counts target => Table.insert counts target ((Table.get? counts target).getD 0 + 1))
    counts

/-- A well-formed schema pack with its content schemas prepared. -/
structure ModelValidator where
  model : SchemaPack
  contents : Table JsonSchema.Validator

namespace ModelValidator

/-- Prepares the content schemas of a pack in class order; the first that cannot be prepared
makes the pack invalid. -/
def prepareContents : Table ClassDef → Except PackError (Table JsonSchema.Validator)
  | [] => .ok []
  | (name, cls) :: rest =>
    match JsonSchema.Validator.compile cls.content with
    | .error failure => .error (.invalidContentSchema name failure.message)
    | .ok validator => do
      let others ← prepareContents rest
      pure ((name, validator) :: others)

/-- Checks a schema pack and prepares its content schemas. -/
def new (model : SchemaPack) : Except PackError ModelValidator := do
  model.check
  let contents ← prepareContents model.classes
  pure ⟨model, contents⟩

/-- The first data class the model does not define. -/
def checkClasses (validator : ModelValidator) (data : DataPack) : Except Violation Unit :=
  match data.classNames.find? fun cls => !Table.contains validator.model.classes cls with
  | some cls => .error (.unknownClass cls)
  | none => .ok ()

/-- The first resource whose content its class schema refuses. -/
def checkContents (validator : ModelValidator) (data : DataPack) : Except Violation Unit :=
  data.resources.forM fun (cls, resources) =>
    match Table.get? validator.contents cls with
    | none => .ok ()
    | some schema =>
      resources.forM fun (id, resource) =>
        match schema.check resource.content with
        | some failure => .error (.invalidContent cls id failure.message)
        | none => .ok ()

/-- Checks one resource's instance of a relation; the target ids it adds to the counts. -/
def checkLink (data : DataPack) (cls relationName : String) (relation : RelationSpec)
    (id : String) (resource : Resource) : Except Violation (List String) :=
  match Table.get? resource.links relationName with
  | none =>
    if relation.mandatory.origin then .error (.missingMandatoryRelation cls id relationName)
    else .ok []
  | some link =>
    if link.targetClass != relation.targetClass then
      .error (.targetClassMismatch cls id relationName relation.targetClass link.targetClass)
    else if link.targets.isMany != relation.multiple.target then
      .error (.targetShapeMismatch cls id relationName relation.multiple.target)
    else if relation.mandatory.origin && link.targets.ids.isEmpty then
      .error (.missingMandatoryRelation cls id relationName)
    else
      let existing := data.classResources relation.targetClass
      match link.targets.ids.find? fun target => !Table.contains existing target with
      | some target => .error (.missingTarget cls id relationName relation.targetClass target)
      | none => .ok link.targets.ids

/-- Checks one declared relation of a class over all its resources. -/
def checkRelation (data : DataPack) (cls relationName : String) (relation : RelationSpec) :
    Except Violation Unit := do
  let counts ← (data.classResources cls).foldlM
    (fun counts (id, resource) => do
      let targets ← checkLink data cls relationName relation id resource
      pure (tally counts targets)) []
  if !relation.multiple.origin then
    match counts.find? fun (_, count) => 1 < count with
    | some (target, _) =>
      throw (.targetReferencedMultipleTimes cls relationName relation.targetClass target)
    | none => pure ()
  if relation.mandatory.target then
    match (Table.keys (data.classResources relation.targetClass)).find?
        fun target => !Table.contains counts target with
    | some target =>
      throw (.unreferencedMandatoryTarget cls relationName relation.targetClass target)
    | none => pure ()

/-- Checks the relations of one class: each declared relation, then undeclared ones. -/
def checkClassRelations (data : DataPack) (name : String) (cls : ClassDef) :
    Except Violation Unit := do
  cls.relations.forM fun (relationName, relation) =>
    checkRelation data name relationName relation
  (data.classResources name).forM fun (id, resource) =>
    match (Table.keys resource.links).find? fun relation => !Table.contains cls.relations relation with
    | some relation => .error (.unknownRelation name id relation)
    | none => .ok ()

/-- Checks a data pack: the first violation, in the order the module describes. -/
def check (validator : ModelValidator) (data : DataPack) : Except Violation Unit := do
  validator.checkClasses data
  validator.checkContents data
  validator.model.classes.forM fun (name, cls) => checkClassRelations data name cls

/-- The debugging text of a validator: the names of its classes. -/
def debugText (validator : ModelValidator) : String :=
  "SchemaPackValidator \x7b classes: [" ++
    ", ".intercalate (validator.model.classNames.map Text.quoteDiagnostic) ++ "] \x7d"

end ModelValidator

end Recast
