import Recast.Schema.Check
/-!
What a transformation assumes of the model it is given, and the ways those assumptions fail.

Each transformation states what it needs of its input model before it changes anything: that
a class exists, that a name is free, that a relation path can be walked. `AssumptionError`
names what is missing; `requireClass` and `requireRelation` are the lookups every check shares.
-/

namespace Recast

/-- Why a model does not meet a transformation's assumptions. -/
inductive AssumptionError where
  | classNotFound (cls : String)
  | contentPropertyNotFound (cls property : String)
  | relationNotFound (cls relation : String)
  | nameAlreadyExists (cls name : String)
  /-- A relation on a path points at a class other than the one the path goes to. -/
  | targetClassMismatch (cls relation expected actual : String)
  /-- A path does not start at the class it is used from. -/
  | pathSourceMismatch (path actual expected : String)
  | invalidConfig (cls reason : String)
  /-- The model itself is not well formed. -/
  | invalidModel (error : PackError)
  /-- A path can reach more resources than the transformation allows. -/
  | multiplicity (subject reason : String)
  deriving DecidableEq, Inhabited, Repr

/-- The text of an assumption error. -/
def AssumptionError.message : AssumptionError → String
  | .classNotFound cls => "Class '" ++ cls ++ "' does not exist in the model"
  | .contentPropertyNotFound cls property =>
    "Class '" ++ cls ++ "' has no content property '" ++ property ++ "'"
  | .relationNotFound cls relation => "Class '" ++ cls ++ "' has no relation '" ++ relation ++ "'"
  | .nameAlreadyExists cls name =>
    "Class '" ++ cls ++ "' already defines a property or relation named '" ++ name ++ "'"
  | .targetClassMismatch cls relation expected actual =>
    "Relation '" ++ cls ++ "." ++ relation ++ "' targets class '" ++ actual ++
      "', but the relation path expects '" ++ expected ++ "'"
  | .pathSourceMismatch path actual expected =>
    "Relation path '" ++ path ++ "' starts at class '" ++ actual ++ "', expected '" ++ expected ++ "'"
  | .invalidConfig cls reason => "Invalid configuration for class '" ++ cls ++ "': " ++ reason
  | .invalidModel error => "Input model is not well formed: " ++ error.message
  | .multiplicity subject reason =>
    "Multiplicity of '" ++ subject ++ "' is not supported: " ++ reason

namespace SchemaPack

/-- The class under a name, or `classNotFound`. -/
def requireClass (pack : SchemaPack) (name : String) : Except AssumptionError ClassDef :=
  match pack.cls? name with
  | some cls => .ok cls
  | none => .error (.classNotFound name)

/-- A relation of a class, or the error for the missing class or relation. -/
def requireRelation (pack : SchemaPack) (cls relation : String) :
    Except AssumptionError RelationSpec := do
  let found ← pack.requireClass cls
  match found.relation? relation with
  | some spec => pure spec
  | none => throw (.relationNotFound cls relation)

/-- Fails with `nameAlreadyExists` when a class already uses a name. -/
def requireNameFree (pack : SchemaPack) (cls name : String) : Except AssumptionError Unit := do
  let found ← pack.requireClass cls
  if found.isNameTaken name then throw (.nameAlreadyExists cls name)

theorem requireClass_of_cls? {pack : SchemaPack} {name : String} {cls : ClassDef}
    (present : pack.cls? name = some cls) : pack.requireClass name = .ok cls := by
  simp [requireClass, present]

/-- A check that only asks whether a class exists answers alike in two packs with the same
classes. -/
theorem requireClass_bind_congr {β : Type} {pack other : SchemaPack} {name : String}
    (same : (other.cls? name).isSome = (pack.cls? name).isSome)
    (next : Except AssumptionError β) :
    (do let _ ← other.requireClass name; next) = (do let _ ← pack.requireClass name; next) := by
  cases found : pack.cls? name <;> cases otherFound : other.cls? name <;>
    simp_all [requireClass, bind, Except.bind]

/-- A name a class already uses is refused. -/
theorem requireNameFree_of_isNameTaken {pack : SchemaPack} {name taken : String} {cls : ClassDef}
    (present : pack.cls? name = some cls) (used : cls.isNameTaken taken = true) :
    pack.requireNameFree name taken = .error (.nameAlreadyExists name taken) := by
  simp [requireNameFree, requireClass_of_cls? present, used, bind, Except.bind, throw,
    throwThe, MonadExceptOf.throw]

/-- The relation of an existing class is looked up in that class alone. -/
theorem requireRelation_of_cls? {pack : SchemaPack} {name : String} {cls : ClassDef}
    (present : pack.cls? name = some cls) (relation : String) :
    pack.requireRelation name relation = match cls.relation? relation with
      | some spec => .ok spec
      | none => .error (.relationNotFound name relation) := by
  cases found : cls.relation? relation <;>
    simp [requireRelation, requireClass_of_cls? present, found, bind, Except.bind, throw,
      throwThe, MonadExceptOf.throw, pure, Except.pure]

/-- A relation a class does not declare is not found. -/
theorem requireRelation_of_relation?_eq_none {pack : SchemaPack} {name relation : String}
    {cls : ClassDef} (present : pack.cls? name = some cls) (missing : cls.relation? relation = none) :
    pack.requireRelation name relation = .error (.relationNotFound name relation) := by
  simp [requireRelation, requireClass_of_cls? present, missing, bind, Except.bind, throw,
    throwThe, MonadExceptOf.throw]

end SchemaPack

end Recast
