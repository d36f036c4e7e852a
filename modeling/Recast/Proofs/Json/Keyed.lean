import Recast.Proofs.Except
import Recast.Proofs.Table
import Recast.Schema.Codec
import Recast.Data.Codec
import Recast.Workflow.Definition
/-!
What reading a document guarantees of its tables.

A JSON object may repeat a key; reading it into a table keeps one entry per key, the key in its
first place and its last value. So every table a document is read into has distinct keys,
whatever the text: the classes of a schema pack and the relations of each class, the classes of a
data pack and the ids within each class, the steps and the artifacts of a workflow. The results
about packs and workflows that assume distinct keys assume only what `SchemaPack.Keyed`,
`DataPack.Keyed` and `Workflow.Keyed` collect, and reading builds these.

The induction is on the members of an object: inserting a key into a table with distinct keys
keeps them distinct (`Table.nodup_keys_insert`), and every value the table then holds was decoded
from some member.

Main statement: `keyed_of_ofText`, from `SchemaPack.keyed_of_decode`, `DataPack.keyed_of_decode`
and `Workflow.keyed_of_decode`.
-/

namespace Recast

open Json

namespace Json.Decoder

variable {α : Type} {decode : Decoder α}

/-- Decoding members into a table with distinct keys keeps the keys distinct, and each entry of
the result was in the table or holds a value decoded from a member. -/
theorem members_eq_ok :
    ∀ {table result : Table α} {nodes : List (String × Pos × Node × Pos × Option ReadError)},
      members decode table nodes = .ok result → (Table.keys table).Nodup →
        (Table.keys result).Nodup ∧
          ∀ entry ∈ result, entry ∈ table ∨ ∃ node, decode node = .ok entry.2
  | table, result, [], read, distinct => by
    simp only [members, Except.ok.injEq] at read
    subst read
    exact ⟨distinct, fun entry member => Or.inl member⟩
  | table, result, (key, _, node, settle, _) :: rest, read, distinct => by
    simp only [members, Except.bind_eq_ok] at read
    obtain ⟨value, decoded, later⟩ := read
    have first : decode node = .ok value := Except.mapError_eq_ok.mp decoded
    obtain ⟨keys, entries⟩ := members_eq_ok later (Table.nodup_keys_insert distinct key value)
    refine ⟨keys, fun entry member => ?_⟩
    rcases entries entry member with inserted | fromMember
    · rcases Table.mem_of_mem_insert inserted with kept | rfl
      · exact Or.inl kept
      · exact Or.inr ⟨node, first⟩
    · exact Or.inr fromMember

/-- A table read from an object has distinct keys, and every value in it was decoded from a
member. -/
theorem table_eq_ok {node : Node} {result : Table α}
    (read : Decoder.table decode node = .ok result) :
    (Table.keys result).Nodup ∧ ∀ entry ∈ result, ∃ member, decode member = .ok entry.2 := by
  cases node with
  | obj nodes cut start stop =>
    simp only [Decoder.table, Except.bind_eq_ok, Except.pure_eq_ok] at read
    obtain ⟨values, membersRead, -, -, rfl⟩ := read
    obtain ⟨keys, entries⟩ := members_eq_ok membersRead List.nodup_nil
    refine ⟨keys, fun entry member => ?_⟩
    rcases entries entry member with empty | fromMember
    · cases empty
    · exact fromMember
  | _ => simp [Decoder.table] at read

/-- A field that decodes was decoded from some node. -/
theorem exists_of_field_eq_ok {present : Table Node} {name : String} {value : α}
    (read : Decoder.field present name decode = .ok value) : ∃ node, decode node = .ok value := by
  unfold Decoder.field at read
  split at read
  · next node _ => exact ⟨node, read⟩
  · cases read

/-- A field with a default that decodes gave the default or was decoded from some node. -/
theorem exists_of_fieldOr_eq_ok {present : Table Node} {name : String} {default value : α}
    (read : Decoder.fieldOr present name decode default = .ok value) :
    value = default ∨ ∃ node, decode node = .ok value := by
  unfold Decoder.fieldOr at read
  split at read
  · next node _ => exact Or.inr ⟨node, read⟩
  · exact Or.inl (Except.ok.inj read).symm

/-- A table field with the empty table for its default that decodes has distinct keys. -/
theorem nodup_of_fieldOr_table_eq_ok {present : Table Node} {name : String} {value : Table α}
    (read : Decoder.fieldOr present name (Decoder.table decode) [] = .ok value) :
    (Table.keys value).Nodup := by
  rcases exists_of_fieldOr_eq_ok read with rfl | ⟨node, decoded⟩
  · exact List.nodup_nil
  · exact (table_eq_ok decoded).1

/-- A whole text that decodes was decoded from the node read from it. -/
theorem exists_of_ofText_eq_ok {text : String} {value : α}
    (read : Decoder.ofText decode text = .ok value) : ∃ node, decode node = .ok value := by
  simp only [Decoder.ofText, Except.bind_eq_ok] at read
  obtain ⟨decoded, first, rest⟩ := read
  refine ⟨(Node.read text).1, ?_⟩
  split at rest
  · cases rest
  · rw [first, Except.pure_eq_ok.mp rest]

end Json.Decoder

/-! ### Packs and workflows -/

/-- The keys a schema pack read from JSON holds once each: its class names, and the relation names
of each class. -/
structure SchemaPack.Keyed (pack : SchemaPack) : Prop where
  classes : (Table.keys pack.classes).Nodup
  relations : ∀ entry ∈ pack.classes, (Table.keys entry.2.relations).Nodup

/-- The keys a data pack read from JSON holds once each: its class names, and the ids of each
class. -/
structure DataPack.Keyed (data : DataPack) : Prop where
  classes : (Table.keys data.resources).Nodup
  ids : ∀ cls, (Table.keys (data.classResources cls)).Nodup

/-- The keys a workflow read from JSON holds once each: its step names and its artifact names. -/
structure Workflow.Keyed (workflow : Workflow) : Prop where
  steps : (Table.keys workflow.steps).Nodup
  artifacts : (Table.keys workflow.artifacts).Nodup

/-- A class read from JSON has distinct relation names. -/
theorem ClassDef.nodup_relations_of_decode {node : Node} {cls : ClassDef}
    (read : ClassDef.decode node = .ok cls) : (Table.keys cls.relations).Nodup := by
  simp only [ClassDef.decode, Except.bind_eq_ok, Except.pure_eq_ok] at read
  obtain ⟨present, -, id, -, content, -, relations, relationsRead, description, -, rfl⟩ := read
  exact Decoder.nodup_of_fieldOr_table_eq_ok relationsRead

/-- Every schema pack read from JSON has distinct class names and, in each class, distinct
relation names. -/
theorem SchemaPack.keyed_of_decode {node : Node} {pack : SchemaPack}
    (read : SchemaPack.decode node = .ok pack) : pack.Keyed := by
  simp only [SchemaPack.decode, Except.bind_eq_ok, Except.pure_eq_ok] at read
  obtain ⟨present, -, classes, classesRead, rfl⟩ := read
  obtain ⟨member, decoded⟩ := Decoder.exists_of_field_eq_ok classesRead
  obtain ⟨distinct, entries⟩ := Decoder.table_eq_ok decoded
  refine ⟨distinct, fun entry listed => ?_⟩
  obtain ⟨classNode, classRead⟩ := entries entry listed
  exact ClassDef.nodup_relations_of_decode classRead

/-- Every data pack read from JSON has distinct class names and, in each class, distinct ids: an
absent class has no ids, and a present one holds a table read from its own object. -/
theorem DataPack.keyed_of_decode {node : Node} {data : DataPack}
    (read : DataPack.decode node = .ok data) : data.Keyed := by
  simp only [DataPack.decode, Except.bind_eq_ok, Except.pure_eq_ok] at read
  obtain ⟨present, -, resources, resourcesRead, rfl⟩ := read
  obtain ⟨member, decoded⟩ := Decoder.exists_of_field_eq_ok resourcesRead
  obtain ⟨distinct, entries⟩ := Decoder.table_eq_ok decoded
  refine ⟨distinct, fun cls => ?_⟩
  cases found : Table.get? resources cls with
  | none => simp [DataPack.classResources, DataPack.classResources?, found, Table.keys]
  | some ids =>
    obtain ⟨idsNode, idsRead⟩ := entries (cls, ids) (Table.mem_of_get?_eq_some found)
    simpa [DataPack.classResources, DataPack.classResources?, found] using
      (Decoder.table_eq_ok idsRead).1

/-- Every workflow read from JSON has distinct step names and distinct artifact names. -/
theorem Workflow.keyed_of_decode {node : Node} {workflow : Workflow}
    (read : Workflow.decode node = .ok workflow) : workflow.Keyed := by
  simp only [Workflow.decode, Except.bind_eq_ok, Except.pure_eq_ok] at read
  obtain ⟨present, -, description, -, steps, stepsRead, artifacts, artifactsRead, rfl⟩ := read
  obtain ⟨member, decoded⟩ := Decoder.exists_of_field_eq_ok stepsRead
  exact ⟨(Decoder.table_eq_ok decoded).1, Decoder.nodup_of_fieldOr_table_eq_ok artifactsRead⟩

/-- Every schema pack, data pack and workflow loaded from a text holds its keys once each, whatever
the text: the results that assume distinct keys hold of every document the program reads. -/
theorem keyed_of_ofText {text : String} :
    (∀ pack, Decoder.ofText SchemaPack.decode text = .ok pack → pack.Keyed) ∧
    (∀ data, Decoder.ofText DataPack.decode text = .ok data → data.Keyed) ∧
    ∀ workflow, Decoder.ofText Workflow.decode text = .ok workflow → workflow.Keyed := by
  refine ⟨fun pack read => ?_, fun data read => ?_, fun workflow read => ?_⟩
  · obtain ⟨node, decoded⟩ := Decoder.exists_of_ofText_eq_ok read
    exact SchemaPack.keyed_of_decode decoded
  · obtain ⟨node, decoded⟩ := Decoder.exists_of_ofText_eq_ok read
    exact DataPack.keyed_of_decode decoded
  · obtain ⟨node, decoded⟩ := Decoder.exists_of_ofText_eq_ok read
    exact Workflow.keyed_of_decode decoded

end Recast
