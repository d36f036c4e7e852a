import Mathlib.Data.List.Nodup
import Recast.Json.Decode
import Recast.Proofs.Table
/-!
Decoding what a value writes.

A value decoded from JSON rather than from text is first turned into a node with no places
(`Node.ofJson`), and the decoders read that node as they would read one from text. This file
says what they make of it. The one thing a JSON value can hold that reading back loses is a key
written twice in an object: reading keeps one member per key. A value whose objects have
distinct keys at every depth (`Json.Storable`) is read back as itself.

Records are read by walking their members: when every member is a field of the record whose
value passes the field's check, no key repeats and no required field is left out, the walk keeps
every member in order (`RecordSpec.read_ofJson_obj`), and each field then decodes from the node
of its own member.
-/

namespace Recast

/-! ### Values with distinct keys -/

namespace Json

mutual

/-- Every object in the value, at every depth, has distinct keys. -/
def Storable : Json → Prop
  | .arr items => StorableItems items
  | .obj fields => (Table.keys fields).Nodup ∧ StorableFields fields
  | _ => True

/-- Every item has distinct keys at every depth. -/
def StorableItems : List Json → Prop
  | [] => True
  | item :: rest => Storable item ∧ StorableItems rest

/-- Every member's value has distinct keys at every depth. -/
def StorableFields : List (String × Json) → Prop
  | [] => True
  | (_, value) :: rest => Storable value ∧ StorableFields rest

end

end Json

/-- Writing a key that is not there yet appends it. -/
theorem Table.insert_of_not_mem_keys {α : Type} {table : Table α} {key : String} (value : α)
    (absent : key ∉ Table.keys table) : Table.insert table key value = table ++ [(key, value)] := by
  induction table with
  | nil => rfl
  | cons entry rest inductionHypothesis =>
    obtain ⟨name, old⟩ := entry
    simp only [Table.keys, List.map_cons, List.mem_cons, not_or] at absent
    simp only [Table.insert, Ne.symm absent.1, if_false, List.cons_append]
    rw [inductionHypothesis absent.2]

/-- While members under distinct keys are read in order, the next key has not been read yet,
and the keys stay distinct once it is. -/
theorem Table.next_key_fresh {α β : Type} {read : Table α} {key : String} {value : β}
    {rest : Table β} (distinct : (Table.keys read ++ Table.keys ((key, value) :: rest)).Nodup) :
    key ∉ Table.keys read ∧
      ∀ stored : α, (Table.keys (read ++ [(key, stored)]) ++ Table.keys rest).Nodup := by
  refine ⟨fun present => ?_, fun _ => by simpa [Table.keys] using distinct⟩
  exact (List.nodup_append.mp distinct).2.2 key present key (by simp [Table.keys]) rfl

namespace Json.Node

mutual

/-- A value with distinct keys is the value of its node. -/
theorem toJson_ofJson : ∀ value : Json, value.Storable → (ofJson value).toJson = .ok value
  | .null, _ => rfl
  | .bool _, _ => rfl
  | .num _, _ => rfl
  | .str _, _ => rfl
  | .arr items, storable => by
    simp only [ofJson, toJson, itemsToJson_ofItems items storable]
    rfl
  | .obj fields, ⟨distinct, storable⟩ => by
    have members := membersToJson_ofFields [] fields (by simpa [Table.keys] using distinct) storable
    simp only [ofJson, toJson, members]
    rfl

theorem itemsToJson_ofItems : ∀ items : List Json, Json.StorableItems items →
    itemsToJson (ofItems items) = .ok items
  | [], _ => rfl
  | item :: rest, ⟨storable, storableRest⟩ => by
    simp only [ofItems, itemsToJson, toJson_ofJson item storable,
      itemsToJson_ofItems rest storableRest]
    rfl

theorem membersToJson_ofFields : ∀ (read fields : Table Json),
    (Table.keys read ++ Table.keys fields).Nodup → Json.StorableFields fields →
      membersToJson read (ofFields fields) = .ok (read ++ fields)
  | read, [], _, _ => by simp [ofFields, membersToJson]
  | read, (key, value) :: rest, distinct, ⟨storable, storableRest⟩ => by
    obtain ⟨absent, distinctAfter⟩ := Table.next_key_fresh distinct
    simp only [ofFields, membersToJson, toJson_ofJson value storable, bind, Except.bind]
    rw [Table.insert_of_not_mem_keys value absent,
      membersToJson_ofFields _ rest (distinctAfter value) storableRest, List.append_assoc]
    rfl

end

end Json.Node

theorem Table.get?_mapValues {α β : Type} (table : Table α) (change : α → β) (key : String) :
    Table.get? (Table.mapValues table change) key = (Table.get? table key).map change := by
  induction table with
  | nil => rfl
  | cons entry rest inductionHypothesis =>
    obtain ⟨name, value⟩ := entry
    by_cases same : name = key <;>
      simp [Table.mapValues, Table.get?, same, ← inductionHypothesis]

theorem Table.keys_mapValues {α β : Type} (table : Table α) (change : α → β) :
    Table.keys (Table.mapValues table change) = Table.keys table := by
  simp [Table.keys, Table.mapValues]

namespace Json.Decoder

variable {α : Type}

@[simp] theorem string_ofJson_str (text : String) :
    Decoder.string (Node.ofJson (.str text)) = .ok text := rfl

@[simp] theorem bool_ofJson_bool (value : Bool) :
    Decoder.bool (Node.ofJson (.bool value)) = .ok value := rfl

@[simp] theorem option_string_ofJson_str (text : String) :
    Decoder.option Decoder.string (Node.ofJson (.str text)) = .ok (some text) := rfl

/-- A value with distinct keys is read back whole. -/
theorem json_ofJson {value : Json} (storable : value.Storable) :
    Decoder.json (Node.ofJson value) = .ok value := by
  simp [Decoder.json, Node.toJson_ofJson value storable]

/-- Items that each read back are read back as a list, one by one, each where the last one
ended. -/
theorem list_ofJson_map {decode : Decoder α} {encode : α → Json} :
    ∀ {values : List α}, (∀ value ∈ values, decode (Node.ofJson (encode value)) = .ok value) →
      Decoder.list decode (Node.ofJson (.arr (values.map encode))) = .ok values := by
  have readItems : ∀ values : List α,
      (∀ value ∈ values, decode (Node.ofJson (encode value)) = .ok value) →
        items decode (Node.ofItems (values.map encode)) = .ok values := by
    intro values
    induction values with
    | nil => intro _; rfl
    | cons value rest inductionHypothesis =>
      intro roundTrip
      obtain ⟨here, later⟩ := List.forall_mem_cons.mp roundTrip
      simp only [List.map_cons, Node.ofItems, items, here, inductionHypothesis later]
      rfl
  intro values roundTrip
  simp only [list, Node.ofJson, readItems values roundTrip]
  rfl

/-- Members that each read back, under distinct keys, are read back as a table. -/
theorem members_ofFields_mapValues {decode : Decoder α} {encode : α → Json} :
    ∀ (read table : Table α), (Table.keys read ++ Table.keys table).Nodup →
      (∀ entry ∈ table, decode (Node.ofJson (encode entry.2)) = .ok entry.2) →
        members decode read (Node.ofFields (Table.mapValues table encode)) = .ok (read ++ table)
  | read, [], _, _ => by simp [Table.mapValues, Node.ofFields, members]
  | read, (key, value) :: rest, distinct, roundTrip => by
    obtain ⟨here, later⟩ := List.forall_mem_cons.mp roundTrip
    obtain ⟨absent, distinctAfter⟩ := Table.next_key_fresh distinct
    simp only [Table.mapValues, List.map_cons, Node.ofFields, members, here, bind, Except.bind,
      Except.mapError]
    rw [Table.insert_of_not_mem_keys value absent]
    rw [show rest.map (fun entry => (entry.1, encode entry.2)) = Table.mapValues rest encode from rfl,
      members_ofFields_mapValues _ rest (distinctAfter value) later, List.append_assoc]
    rfl

/-- An object of members that each read back, under distinct keys, is read back as a table. -/
theorem table_ofJson_mapValues {decode : Decoder α} {encode : α → Json} {table : Table α}
    (distinct : (Table.keys table).Nodup)
    (roundTrip : ∀ entry ∈ table, decode (Node.ofJson (encode entry.2)) = .ok entry.2) :
    Decoder.table decode (Node.ofJson (.obj (Table.mapValues table encode))) = .ok table := by
  have read := members_ofFields_mapValues [] table (by simpa [Table.keys] using distinct) roundTrip
  simp only [Decoder.table, Node.ofJson, read]
  rfl

end Json.Decoder

namespace Json.RecordSpec

section Fields

variable {α : Type} (name : String) (decode : Decoder α)

@[simp] theorem name_required : (FieldSpec.required name decode).name = name := rfl

@[simp] theorem optional_required : (FieldSpec.required name decode).optional = false := rfl

@[simp] theorem check_required (node : Node) :
    (FieldSpec.required name decode).check node = (decode node).map fun _ => () := rfl

@[simp] theorem name_defaulted : (FieldSpec.defaulted name decode).name = name := rfl

@[simp] theorem optional_defaulted : (FieldSpec.defaulted name decode).optional = true := rfl

@[simp] theorem check_defaulted (node : Node) :
    (FieldSpec.defaulted name decode).check node = (decode node).map fun _ => () := rfl

end Fields

variable {spec : RecordSpec}

/-- Members that are all fields, each passing its check, under keys that do not repeat, are
kept in order. -/
theorem walkMembers_ofFields :
    ∀ (present : Table Node) (fields : Table Json),
      (Table.keys present ++ Table.keys fields).Nodup →
      (∀ entry ∈ fields, ∃ field, spec.field? entry.1 = some field ∧
        field.check (Node.ofJson entry.2) = .ok ()) →
      spec.walkMembers present (Node.ofFields fields) =
        .ok (present ++ Table.mapValues fields Node.ofJson)
  | present, [], _, _ => by simp [Node.ofFields, walkMembers, Table.mapValues]
  | present, (key, value) :: rest, distinct, checked => by
    obtain ⟨⟨field, found, passes⟩, later⟩ := List.forall_mem_cons.mp checked
    obtain ⟨absent, distinctAfter⟩ := Table.next_key_fresh distinct
    have notContained : Table.contains present key = false := by
      rw [Bool.eq_false_iff, ne_eq, Table.contains_eq_true_iff]
      exact absent
    simp only at found passes
    simp only [Node.ofFields, walkMembers, found, notContained, passes, Bool.false_eq_true,
      if_false, Except.mapError, bind, Except.bind]
    rw [Table.insert_of_not_mem_keys _ absent, walkMembers_ofFields _ rest (distinctAfter _) later]
    simp [Table.mapValues]

/-- No field is missing when every required one is present. -/
theorem firstMissing_eq_none {present : Table Node}
    (complete : ∀ field ∈ spec.fields, field.optional = false → field.name ∈ Table.keys present) :
    spec.firstMissing present = none := by
  simp only [firstMissing, Option.map_eq_none_iff, List.find?_eq_none, Bool.and_eq_true,
    Bool.not_eq_true', not_and, Bool.not_eq_false]
  intro field member required
  rw [Table.contains_eq_true_iff]
  exact complete field member required

/-- An object whose members are fields of the record, each passing its check, under distinct keys
and with every required field present, is read as its members' nodes in order. -/
theorem read_ofJson_obj {fields : Table Json} (distinct : (Table.keys fields).Nodup)
    (checked : ∀ entry ∈ fields, ∃ field, spec.field? entry.1 = some field ∧
      field.check (Node.ofJson entry.2) = .ok ())
    (complete : ∀ field ∈ spec.fields, field.optional = false → field.name ∈ Table.keys fields) :
    spec.read (Node.ofJson (.obj fields)) = .ok (Table.mapValues fields Node.ofJson) := by
  have walked := walkMembers_ofFields [] fields (by simpa [Table.keys] using distinct) checked
  have present : spec.firstMissing (Table.mapValues fields Node.ofJson) = none :=
    firstMissing_eq_none (by simpa [Table.keys_mapValues] using complete)
  simp only [read, Node.ofJson, walked, List.nil_append, bind, Except.bind, Decoder.cutOff,
    present]
  rfl

/-- A record is read back from an object it writes: when the object is read as its members' nodes
(`read_ofJson_obj`), the value is whatever the fields decode to from those nodes. Each record's
decoder reads its fields and then builds the value from them, so its read-back is this lemma with
the record's own members. -/
theorem read_bind_ofJson_obj {β : Type} {fields : Table Json}
    {build : Table Node → Except DecodeError β} {value : β} (distinct : (Table.keys fields).Nodup)
    (checked : ∀ entry ∈ fields, ∃ field, spec.field? entry.1 = some field ∧
      field.check (Node.ofJson entry.2) = .ok ())
    (complete : ∀ field ∈ spec.fields, field.optional = false → field.name ∈ Table.keys fields)
    (rebuilt : build (Table.mapValues fields Node.ofJson) = .ok value) :
    (spec.read (Node.ofJson (.obj fields)) >>= build) = .ok value := by
  rw [read_ofJson_obj distinct checked complete]
  exact rebuilt

end Json.RecordSpec

namespace Json.Decoder

variable {α : Type}

/-- A field present in the object decodes from the node of its member. -/
theorem field_mapValues {fields : Table Json} {name : String} {value : Json}
    (found : Table.get? fields name = some value) (decode : Decoder α) :
    Decoder.field (Table.mapValues fields Node.ofJson) name decode = decode (Node.ofJson value) := by
  simp [Decoder.field, Table.get?_mapValues, found]

/-- A field present in the object decodes from the node of its member, whatever the default. -/
theorem fieldOr_mapValues {fields : Table Json} {name : String} {value : Json}
    (found : Table.get? fields name = some value) (decode : Decoder α) (default : α) :
    Decoder.fieldOr (Table.mapValues fields Node.ofJson) name decode default =
      decode (Node.ofJson value) := by
  simp [Decoder.fieldOr, Table.get?_mapValues, found]

/-- A field absent from the object takes its default. -/
theorem fieldOr_mapValues_of_get?_eq_none {fields : Table Json} {name : String}
    (absent : Table.get? fields name = none) (decode : Decoder α) (default : α) :
    Decoder.fieldOr (Table.mapValues fields Node.ofJson) name decode default = .ok default := by
  simp [Decoder.fieldOr, Table.get?_mapValues, absent]

end Json.Decoder

end Recast
