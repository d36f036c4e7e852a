import Recast.Json.Basic
/-!
Data packs: the resources of a model's classes.

A data pack groups resources by class and, within a class, by id, both in order. A resource
has a content value, which its class's content schema describes, and links: for each relation
it holds, the class it points at and the ids of its targets. A link holds either one id or an
ordered set of ids; which of the two it must be is fixed by the relation's `multiple.target`.
-/

namespace Recast

/-- The targets of a link: one id, or an ordered set of ids. -/
inductive Targets where
  | single (id : String)
  | many (ids : List String)
  deriving DecidableEq, Inhabited, Repr

namespace Targets

/-- The ids in order. -/
def ids : Targets → List String
  | .single id => [id]
  | .many ids => ids

/-- Whether an id is a target. -/
def contains (targets : Targets) (id : String) : Bool :=
  targets.ids.contains id

/-- The number of targets. -/
def count (targets : Targets) : Nat :=
  targets.ids.length

/-- Whether the targets are a set rather than one id. -/
def isMany : Targets → Bool
  | .single _ => false
  | .many _ => true

end Targets

/-- The references a resource holds through one relation. -/
structure Link where
  targetClass : String
  targets : Targets
  deriving DecidableEq, Inhabited, Repr

/-- One resource: its content and its links by relation name. -/
structure Resource where
  content : Json := .obj []
  links : Table Link := []
  deriving Inhabited

/-- Resources grouped by class, then by id, both in order. -/
structure DataPack where
  resources : Table (Table Resource) := []
  deriving Inhabited

namespace Resource

/-- The target ids of a relation, none when the resource does not hold it. -/
def targets (resource : Resource) (relation : String) : List String :=
  match Table.get? resource.links relation with
  | some link => link.targets.ids
  | none => []

/-- Adds or replaces a link. -/
def withLink (resource : Resource) (relation : String) (link : Link) : Resource :=
  { resource with links := Table.insert resource.links relation link }

end Resource

namespace DataPack

/-- The resources of a class. -/
def classResources? (pack : DataPack) (cls : String) : Option (Table Resource) :=
  Table.get? pack.resources cls

/-- The resources of a class, none when the class is absent. -/
def classResources (pack : DataPack) (cls : String) : Table Resource :=
  (pack.classResources? cls).getD []

/-- One resource. -/
def resource? (pack : DataPack) (cls id : String) : Option Resource :=
  (pack.classResources? cls).bind fun resources => Table.get? resources id

/-- Adds or replaces a resource; a new class goes last. -/
def insertResource (pack : DataPack) (cls id : String) (resource : Resource) : DataPack :=
  { resources := Table.insert pack.resources cls
      (Table.insert (pack.classResources cls) id resource) }

/-- The number of resources of all classes. -/
def resourceCount (pack : DataPack) : Nat :=
  (pack.resources.map fun entry => entry.2.length).foldr (· + ·) 0

/-- The class names in order. -/
def classNames (pack : DataPack) : List String :=
  Table.keys pack.resources

end DataPack

end Recast
