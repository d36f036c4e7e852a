import Recast.Data.Basic
import Recast.Json.Decode
/-!
Data packs as JSON.

A data pack is written `{"resources": {class: {id: resource}}}`; a resource
`{"content", "relations"?}`, with `relations` left out when the resource holds no link; a link
`{"targetClass", "targetResources"}`, where the targets are a string for one id and an array for
a set of ids. Reading an array of ids keeps the first occurrence of each. A missing `content` is
the empty object, and members that are not fields are skipped.
-/

namespace Recast

open Json

namespace Targets

/-- The ids of an array that holds only strings. -/
def stringItems : List Json → Option (List String)
  | [] => some []
  | .str id :: rest => (stringItems rest).map (id :: ·)
  | _ :: _ => none

/-- Reads targets: a string is one id, an array of strings a set of ids; anything else
matches neither form. -/
def decode : Decoder Targets := fun node =>
  match Decoder.json node with
  | .error error => .error error
  | .ok (.str id) => .ok (.single id)
  | .ok (.arr items) =>
    match stringItems items with
    | some ids => .ok (.many (OrderedSet.ofList ids))
    | none => .error (.unplaced "data did not match any variant of untagged enum RelationTargets")
  | .ok _ => .error (.unplaced "data did not match any variant of untagged enum RelationTargets")

/-- Writes targets. -/
def toJson : Targets → Json
  | .single id => .str id
  | .many ids => .arr (ids.map Json.str)

end Targets

namespace Link

/-- How a link is read. -/
def record : RecordSpec :=
  ⟨"RelationInstance", [.required "targetClass" Decoder.string,
    .required "targetResources" Targets.decode], false⟩

/-- Reads a link. -/
def decode : Decoder Link := fun node => do
  let present ← record.read node
  pure { targetClass := ← Decoder.field present "targetClass" Decoder.string
         targets := ← Decoder.field present "targetResources" Targets.decode }

/-- Writes a link. -/
def toJson (link : Link) : Json :=
  .obj [("targetClass", .str link.targetClass), ("targetResources", link.targets.toJson)]

end Link

namespace Resource

/-- How a resource is read. -/
def record : RecordSpec :=
  ⟨"Resource", [.defaulted "content" Decoder.json, .defaulted "relations" (Decoder.table Link.decode)],
    false⟩

/-- Reads a resource. -/
def decode : Decoder Resource := fun node => do
  let present ← record.read node
  pure { content := ← Decoder.fieldOr present "content" Decoder.json (.obj [])
         links := ← Decoder.fieldOr present "relations" (Decoder.table Link.decode) [] }

/-- Writes a resource. -/
def toJson (resource : Resource) : Json :=
  match resource.links with
  | [] => .obj [("content", resource.content)]
  | links => .obj [("content", resource.content), ("relations", .obj (Table.mapValues links Link.toJson))]

end Resource

namespace DataPack

/-- How a data pack is read. -/
def record : RecordSpec :=
  ⟨"DataPack", [.required "resources" (Decoder.table (Decoder.table Resource.decode))], false⟩

/-- Reads a data pack. -/
def decode : Decoder DataPack := fun node => do
  let present ← record.read node
  pure { resources := ← Decoder.field present "resources" (Decoder.table (Decoder.table Resource.decode)) }

/-- Writes a data pack. -/
def toJson (pack : DataPack) : Json :=
  .obj [("resources", .obj (Table.mapValues pack.resources fun resources =>
    .obj (Table.mapValues resources Resource.toJson)))]

end DataPack

end Recast
