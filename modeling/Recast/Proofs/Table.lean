import Recast.Data.Basic
/-!
Tables whose keys are distinct, and where entries stand.

A table read from JSON has each key once, and writing to a table keeps it so: a written key either
replaces its entry in place or goes last. For such a table a lookup finds every entry that the
list holds. These are the facts that let statements about the entries of a table, which follow the
loops of the library, be read as statements about lookups, which follow the data model.
-/

namespace Recast

namespace Table

variable {α : Type}

theorem mem_keys_insert {table : Table α} {key other : String} {value : α} :
    other ∈ keys (insert table key value) ↔ other ∈ keys table ∨ other = key := by
  cases present : contains table key with
  | true =>
    rw [keys_insert_of_contains table key value present]
    have listed := (contains_eq_true_iff table key).mp present
    constructor
    · exact Or.inl
    · rintro (member | rfl)
      · exact member
      · exact listed
  | false =>
    rw [keys_insert_of_not_contains table key value present]
    simp

theorem nodup_keys_insert {table : Table α} (distinct : (keys table).Nodup) (key : String)
    (value : α) : (keys (insert table key value)).Nodup := by
  cases present : contains table key with
  | true => rwa [keys_insert_of_contains table key value present]
  | false =>
    rw [keys_insert_of_not_contains table key value present, List.nodup_append]
    have absent : key ∉ keys table := by
      intro listed
      rw [← contains_eq_true_iff] at listed
      simp [listed] at present
    refine ⟨distinct, by simp, ?_⟩
    intro first firstMember second secondMember same
    simp only [List.mem_singleton] at secondMember
    rw [same, secondMember] at firstMember
    exact absent firstMember

theorem get?_insert (table : Table α) (key other : String) (value : α) :
    get? (insert table key value) other = if other = key then some value else get? table other := by
  by_cases same : other = key
  · subst same
    simp
  · simp [same, get?_insert_of_ne table value same]

/-- Writing a key leaves the other entries and adds the written one. -/
theorem mem_of_mem_insert {table : Table α} {key : String} {value : α} {entry : String × α}
    (member : entry ∈ insert table key value) : entry ∈ table ∨ entry = (key, value) := by
  induction table with
  | nil => simpa [insert] using member
  | cons first rest inductionHypothesis =>
    obtain ⟨name, old⟩ := first
    by_cases same : name = key
    · simp only [insert, same, if_true, List.mem_cons] at member
      rcases member with written | kept
      · exact Or.inr written
      · exact Or.inl (List.mem_cons_of_mem _ kept)
    · simp only [insert, same, if_false, List.mem_cons] at member
      rcases member with here | later
      · exact Or.inl (here ▸ List.mem_cons_self)
      · exact (inductionHypothesis later).imp_left (List.mem_cons_of_mem _)

/-- Erasing a key keeps exactly the entries under the other keys. -/
theorem mem_erase {table : Table α} {key : String} {entry : String × α} :
    entry ∈ erase table key ↔ entry ∈ table ∧ entry.1 ≠ key := by
  induction table with
  | nil => simp [erase]
  | cons first rest inductionHypothesis =>
    obtain ⟨name, value⟩ := first
    by_cases same : name = key
    · subst same
      simp only [erase, if_true, inductionHypothesis, List.mem_cons]
      constructor
      · rintro ⟨kept, differ⟩
        exact ⟨Or.inr kept, differ⟩
      · rintro ⟨rfl | kept, differ⟩
        · exact absurd rfl differ
        · exact ⟨kept, differ⟩
    · simp only [erase, same, if_false, List.mem_cons, inductionHypothesis]
      constructor
      · rintro (rfl | ⟨kept, differ⟩)
        · exact ⟨Or.inl rfl, same⟩
        · exact ⟨Or.inr kept, differ⟩
      · rintro ⟨rfl | kept, differ⟩
        · exact Or.inl rfl
        · exact Or.inr ⟨kept, differ⟩

theorem get?_erase_of_ne (table : Table α) {key other : String} (differ : other ≠ key) :
    get? (erase table key) other = get? table other := by
  induction table with
  | nil => rfl
  | cons first rest inductionHypothesis =>
    obtain ⟨name, value⟩ := first
    by_cases same : name = key
    · subst same
      simp only [erase, get?, if_true, inductionHypothesis, Ne.symm differ, if_false]
    · simp only [erase, get?, same, if_false, inductionHypothesis]

/-- Erasing keys one after another keeps exactly the entries under the other keys. -/
theorem mem_foldl_erase {table : Table α} {keys : List String} {entry : String × α} :
    entry ∈ keys.foldl erase table ↔ entry ∈ table ∧ entry.1 ∉ keys := by
  induction keys generalizing table with
  | nil => simp
  | cons key rest inductionHypothesis =>
    rw [List.foldl_cons, inductionHypothesis, mem_erase, List.mem_cons, not_or, and_assoc]

/-- Erasing keys one after another leaves what another key holds. -/
theorem get?_foldl_erase_of_not_mem (table : Table α) {keys : List String} {key : String}
    (kept : key ∉ keys) : get? (keys.foldl erase table) key = get? table key := by
  induction keys generalizing table with
  | nil => rfl
  | cons other rest inductionHypothesis =>
    rw [List.mem_cons, not_or] at kept
    rw [List.foldl_cons, inductionHypothesis _ kept.2, get?_erase_of_ne _ kept.1]

/-- A lookup finds an entry the table holds. -/
theorem mem_of_get?_eq_some {table : Table α} {key : String} {value : α}
    (found : get? table key = some value) : (key, value) ∈ table := by
  induction table with
  | nil => simp [get?] at found
  | cons entry rest inductionHypothesis =>
    obtain ⟨name, stored⟩ := entry
    by_cases same : name = key
    · simp only [get?, same, if_true, Option.some.injEq] at found
      simp [same, found]
    · simp only [get?, same, if_false] at found
      exact List.mem_cons_of_mem _ (inductionHypothesis found)

/-- A key whose lookup finds nothing is not in the table. -/
theorem contains_eq_false_of_get?_eq_none {table : Table α} {key : String}
    (absent : get? table key = none) : contains table key = false := by
  induction table with
  | nil => rfl
  | cons entry rest inductionHypothesis =>
    obtain ⟨name, stored⟩ := entry
    by_cases same : name = key
    · simp [get?, same] at absent
    · simp only [get?, same, if_false] at absent
      simp [contains, same, inductionHypothesis absent]

/-- In a table with distinct keys, every entry is what a lookup of its key finds. -/
theorem get?_of_mem {table : Table α} (distinct : (keys table).Nodup) {key : String} {value : α}
    (member : (key, value) ∈ table) : get? table key = some value := by
  induction table with
  | nil => cases member
  | cons entry rest inductionHypothesis =>
    obtain ⟨name, stored⟩ := entry
    simp only [keys, List.map_cons, List.nodup_cons] at distinct
    rcases List.mem_cons.mp member with here | later
    · simp only [Prod.mk.injEq] at here
      obtain ⟨rfl, rfl⟩ := here
      simp [get?]
    · have differ : name ≠ key := by
        rintro rfl
        exact distinct.1 (List.mem_map.mpr ⟨_, later, rfl⟩)
      simp only [get?, differ, if_false]
      exact inductionHypothesis distinct.2 later

/-- In a table with distinct keys, an entry is determined by its key. -/
theorem eq_of_mem_of_fst_eq {table : Table α} (distinct : (keys table).Nodup)
    {first second : String × α} (firstMember : first ∈ table) (secondMember : second ∈ table)
    (same : first.1 = second.1) : first = second := by
  have firstFound := get?_of_mem distinct firstMember
  have secondFound := get?_of_mem distinct secondMember
  rw [same, secondFound, Option.some.injEq] at firstFound
  exact Prod.ext same firstFound.symm

theorem mem_keys_of_mem {table : Table α} {key : String} {value : α}
    (member : (key, value) ∈ table) : key ∈ keys table :=
  List.mem_map.mpr ⟨_, member, rfl⟩

/-- Erasing every key a table has leaves it empty. -/
theorem foldl_erase_eq_nil {table : Table α} {keys : List String}
    (covered : ∀ key ∈ Table.keys table, key ∈ keys) : keys.foldl erase table = [] := by
  refine List.eq_nil_iff_forall_not_mem.mpr fun entry member => ?_
  obtain ⟨held, outside⟩ := mem_foldl_erase.mp member
  exact outside (covered entry.1 (mem_keys_of_mem held))

end Table

namespace DataPack

/-- The resources of a class are those of the pack's entry for the class. -/
theorem mem_resources_of_mem_classResources {data : DataPack} {cls : String}
    {resource : String × Resource} (member : resource ∈ data.classResources cls) :
    ∃ entry ∈ data.resources, entry.1 = cls ∧ resource ∈ entry.2 := by
  cases found : data.classResources? cls with
  | none => simp [classResources, found] at member
  | some resources =>
    simp only [classResources, found, Option.getD_some] at member
    exact ⟨(cls, resources), Table.mem_of_get?_eq_some found, rfl, member⟩

/-- In a pack whose class names are distinct, the resources of an entry are those of its class. -/
theorem mem_classResources_of_mem_resources {data : DataPack}
    (distinct : (Table.keys data.resources).Nodup) {entry : String × Table Resource}
    (member : entry ∈ data.resources) {resource : String × Resource} (listed : resource ∈ entry.2) :
    resource ∈ data.classResources entry.1 := by
  simpa [classResources, classResources?, Table.get?_of_mem distinct member] using listed

end DataPack

end Recast
