import Recast.Schema.Assumption
import Recast.Data.Fault
import Recast.Data.Basic
import Recast.Json.Decode
import Recast.Path.Basic
/-!
What every transformation is made of.

A transformation reshapes a model and, consistently, every data pack valid against it. It does
so in three stages: a check of its assumptions on the input model (failing with an
`AssumptionError`), the reshaping of the model (failing with a `ReshapeError`), and the
reshaping of each data pack (failing with a `DataFault`, which the check should have made
impossible).

This module holds the edits the stages share: of a content schema's `properties` and
`required`, of one class of a model, and of every resource of one class of a data pack.
-/

namespace Recast

/-- Why a transformation could not produce its output model. -/
inductive ReshapeError where
  /-- The content schema of a class does not have the shape the edit needs. -/
  | contentSchema (cls reason : String)
  /-- The output model is not well formed. -/
  | invalidOutputModel (error : PackError)
  deriving DecidableEq, Inhabited, Repr

/-- The text of a reshape error. -/
def ReshapeError.message : ReshapeError → String
  | .contentSchema cls reason =>
    "Content schema of class '" ++ cls ++ "' cannot be modified: " ++ reason
  | .invalidOutputModel error => "Transformed model is not well formed: " ++ error.message

/-- The error for a content schema that cannot take an edit. -/
def ReshapeError.notAnObject (cls : String) : ReshapeError :=
  .contentSchema cls "content schema is not an object"

/-- An optional value, or an error. -/
def orError {ε α : Type} (error : ε) : Option α → Except ε α
  | some value => .ok value
  | none => .error error

theorem orError_eq_ok {ε α : Type} {error : ε} {option : Option α} {value : α} :
    orError error option = .ok value ↔ option = some value := by
  cases option <;> simp [orError]

/-! ### Content schemas -/

namespace Content

/-- Edits the `properties` of a content schema, creating them empty at the end when absent.
Nothing when the schema or its `properties` is not an object. -/
def editProperties (content : Json) (edit : Table Json → Table Json) : Option Json :=
  match content with
  | .obj fields =>
    match Table.get? fields "properties" with
    | none => some (.obj (Table.insert fields "properties" (.obj (edit []))))
    | some (.obj properties) => some (.obj (Table.insert fields "properties" (.obj (edit properties))))
    | some _ => none
  | _ => none

/-- Appends a name to the `required` list of a content schema, creating the list at the end
when absent. Nothing when the schema is not an object or `required` is not a list. -/
def appendRequired (content : Json) (name : String) : Option Json :=
  match content with
  | .obj fields =>
    match Table.get? fields "required" with
    | none => some (.obj (Table.insert fields "required" (.arr [.str name])))
    | some (.arr names) => some (.obj (Table.insert fields "required" (.arr (names ++ [.str name]))))
    | some _ => none
  | _ => none

/-- Drops the given names from a `required` list, keeping every other entry in order; a schema
without such a list is left as it is. -/
def dropRequired (content : Json) (names : List String) : Json :=
  match content with
  | .obj fields =>
    match Table.get? fields "required" with
    | some (.arr entries) =>
      .obj (Table.insert fields "required" (.arr (entries.filter fun
        | .str name => !names.contains name
        | _ => true)))
    | _ => content
  | _ => content

/-- Removes keys from a table, keeping the order of the rest. -/
def eraseAll {α : Type} (table : Table α) (names : List String) : Table α :=
  names.foldl Table.erase table

/-- Erasing several keys keeps the other keys in their order. -/
theorem keys_eraseAll {α : Type} (table : Table α) (names : List String) :
    Table.keys (eraseAll table names) = (Table.keys table).filter (fun key => !names.contains key) := by
  induction names generalizing table with
  | nil => exact (List.filter_eq_self.mpr fun _ _ => rfl).symm
  | cons name rest inductionHypothesis =>
    have step : eraseAll table (name :: rest) = eraseAll (Table.erase table name) rest := rfl
    rw [step, inductionHypothesis, Table.keys_erase, List.filter_filter]
    congr 1
    funext key
    by_cases same : key = name <;> simp [same]

theorem get?_eraseAll_of_mem {α : Type} (table : Table α) {names : List String} {key : String}
    (erased : key ∈ names) : Table.get? (eraseAll table names) key = none := by
  apply Table.get?_eq_none_of_not_mem_keys
  simp [keys_eraseAll, erased]

/-- Editing `properties` leaves them an object: the edit of the old ones, or of none. -/
theorem field?_editProperties {content edited : Json} {edit : Table Json → Table Json}
    (h : editProperties content edit = some edited) :
    ∃ properties, edited.field? "properties" = some (.obj (edit properties)) := by
  cases content with
  | obj fields =>
    simp only [editProperties] at h
    split at h
    · exact ⟨[], by simp [← Option.some.inj h, Json.field?]⟩
    · rename_i properties _
      exact ⟨properties, by simp [← Option.some.inj h, Json.field?]⟩
    · simp at h
  | _ => simp [editProperties] at h

theorem field?_appendRequired {content edited : Json} {name : String}
    (h : appendRequired content name = some edited) :
    edited.field? "properties" = content.field? "properties" := by
  have differ : "properties" ≠ "required" := by decide
  cases content with
  | obj fields =>
    simp only [appendRequired] at h
    split at h
    · simp [← Option.some.inj h, Json.field?, Table.get?_insert_of_ne _ _ differ]
    · simp [← Option.some.inj h, Json.field?, Table.get?_insert_of_ne _ _ differ]
    · simp at h
  | _ => simp [appendRequired] at h

theorem field?_dropRequired (content : Json) (names : List String) :
    (dropRequired content names).field? "properties" = content.field? "properties" := by
  have differ : "properties" ≠ "required" := by decide
  cases content with
  | obj fields =>
    simp only [dropRequired]
    split
    · simp [Json.field?, Table.get?_insert_of_ne _ _ differ]
    · rfl
  | _ => rfl

end Content

/-! ### Models -/

namespace SchemaPack

/-- Edits one class in place; `missing` when the model has no such class. -/
def editClass (pack : SchemaPack) (name : String) (missing : ReshapeError)
    (edit : ClassDef → Except ReshapeError ClassDef) : Except ReshapeError SchemaPack :=
  match pack.cls? name with
  | none => .error missing
  | some cls => do
    let edited ← edit cls
    pure (pack.withClass name edited)

/-- A class edit that succeeds replaced an existing class by the edited one. -/
theorem editClass_eq_ok {pack output : SchemaPack} {name : String} {missing : ReshapeError}
    {edit : ClassDef → Except ReshapeError ClassDef} (h : pack.editClass name missing edit = .ok output) :
    ∃ cls edited, pack.cls? name = some cls ∧ edit cls = .ok edited ∧
      output = pack.withClass name edited := by
  unfold editClass at h
  cases present : pack.cls? name with
  | none => simp [present] at h
  | some cls =>
    cases edited : edit cls with
    | error problem => simp [present, edited, bind, Except.bind] at h
    | ok result =>
      simp only [present, edited, bind, Except.bind, pure, Except.pure, Except.ok.injEq] at h
      exact ⟨cls, result, rfl, edited, h.symm⟩

end SchemaPack

/-! ### Data packs -/

namespace DataPack

/-- Edits every resource of one class in order; a class without resources in the pack is
left alone. -/
def editResources (data : DataPack) (cls : String)
    (edit : String → Resource → Except DataFault Resource) : Except DataFault DataPack :=
  match data.classResources? cls with
  | none => .ok data
  | some resources => do
    let edited ← resources.mapM fun (id, resource) => do
      let resource ← edit id resource
      pure (id, resource)
    pure { resources := Table.insert data.resources cls edited }

end DataPack

namespace Resource

/-- Edits the members of a resource's content, which must be an object. -/
def editContent (transformation cls id : String) (resource : Resource)
    (edit : Table Json → Table Json) : Except DataFault Resource :=
  match resource.content with
  | .obj fields => .ok { resource with content := .obj (edit fields) }
  | _ => .error ⟨transformation, "content of resource '" ++ cls ++ "/" ++ id ++ "' is not an object"⟩

end Resource

/-! ### Configuration values -/

/-- Reads a relation path from its text; a text that is no path fails with the path's error. -/
def RelationPath.decode : Json.Decoder RelationPath := fun node => do
  let text ← Json.Decoder.string node
  match RelationPath.parse text with
  | .ok path => pure path
  | .error error => throw (.unplaced error.message)

end Recast
