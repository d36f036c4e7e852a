import Recast.Path.Basic
import Recast.Data.Basic
import Recast.Data.Fault
/-!
Resolving a relation path in a data pack.

From one resource of the path's source class, a path reaches a set of resources of its target
class. The walk keeps an ordered set of ids, starting with the source id. An active hop replaces
each id by the targets that the resource of the hop's source class with that id holds through the
hop's relation; a passive hop replaces each id by the resources of the hop's target class that
hold it through the relation, in data order. The results of all ids are joined in order, each id
kept once, where it first appears; a missing resource or link adds nothing, and the class a link
names is not consulted. The walk stops early once nothing is left.

Passive hops look ids up in a `referrerIndex`, built once per hop when a `Resolver` is made, so
that many resolutions share it.
-/

namespace Recast

/-- For one relation of one class: each target id with the ids of the resources that reference
it, in data order. -/
def referrerIndex (data : DataPack) (cls relation : String) : Table (List String) :=
  (data.classResources cls).foldl (fun index entry =>
    (entry.2.targets relation).foldl (fun index target =>
      Table.insert index target (OrderedSet.add ((Table.get? index target).getD []) entry.1))
      index) []

/-- A path made ready to resolve in one data pack: one referrer index per passive hop. -/
structure Resolver where
  data : DataPack
  path : RelationPath
  indexes : List (Option (Table (List String)))

namespace Resolver

/-- Prepares a path for a data pack. -/
def new (data : DataPack) (path : RelationPath) : Resolver :=
  { data, path
    indexes := path.elements.map fun hop =>
      match hop.direction with
      | .active => none
      | .passive => some (referrerIndex data hop.holder hop.property) }

/-- One hop of the walk. -/
def step (data : DataPack) (hop : Hop) (index : Option (Table (List String)))
    (current : List String) : List String :=
  match index with
  | none =>
    current.foldl (fun reached id =>
      match data.resource? hop.source id with
      | some resource => OrderedSet.addAll reached (resource.targets hop.property)
      | none => reached) []
  | some index =>
    current.foldl (fun reached id =>
      OrderedSet.addAll reached ((Table.get? index id).getD [])) []

/-- Walks the hops, stopping once nothing is left. -/
def walk (data : DataPack) : List (Hop × Option (Table (List String))) → List String → List String
  | [], current => current
  | (hop, index) :: rest, current =>
    let next := step data hop index current
    if next.isEmpty then next else walk data rest next

/-- The ids of the target class's resources that the path reaches from one source id. -/
def resolve (resolver : Resolver) (source : String) : List String :=
  walk resolver.data (resolver.path.elements.zip resolver.indexes) [source]

/-- The one resource the path reaches, if any; reaching more than one is a fault of the
transformation named. -/
def resolveSingle (resolver : Resolver) (source transformation : String) :
    Except DataFault (Option String) :=
  match resolver.resolve source with
  | [] => .ok none
  | [target] => .ok (some target)
  | targets => .error ⟨transformation, "relation path '" ++ resolver.path.canonical ++
      "' resolved to more than one resource for '" ++ source ++ "': " ++ ", ".intercalate targets⟩

end Resolver

/-- Resolves a path from one source id with a resolver of its own. -/
def resolvePath (data : DataPack) (source : String) (path : RelationPath) : List String :=
  (Resolver.new data path).resolve source

end Recast
