/-!
Tables keyed by strings that remember the order in which their keys arrived.

Every named collection of this library is such a table: the classes of a schema pack, the
resources of a data pack, the steps of a workflow, the members of a JSON object. A table is a
plain list of entries, so that the order is the list's order and every lemma about lists
applies. Writing a key that is already present replaces its value where it stands; writing a
new key appends it; erasing a key closes the gap and keeps the order of the rest.

Main statements: `get?_insert_self` (a written value is read back), `keys_insert_of_contains`
and `keys_insert_of_not_contains` (where a written key stands), `keys_erase` (erasing keeps
the order of the rest).
-/

namespace Recast

/-- A table keyed by strings, in the order the keys arrived. -/
abbrev Table (α : Type) := List (String × α)

namespace Table

variable {α β : Type}

/-- The value stored under a key, if any. -/
def get? : Table α → String → Option α
  | [], _ => none
  | (name, value) :: rest, key => if name = key then some value else get? rest key

/-- Whether a key is present. -/
def contains : Table α → String → Bool
  | [], _ => false
  | (name, _) :: rest, key => name == key || contains rest key

/-- The keys in order. -/
def keys (table : Table α) : List String :=
  table.map (·.1)

/-- The values in order. -/
def values (table : Table α) : List α :=
  table.map (·.2)

/-- Writes a value: an existing key keeps its place, a new key goes last. -/
def insert : Table α → String → α → Table α
  | [], key, value => [(key, value)]
  | (name, old) :: rest, key, value =>
    if name = key then (key, value) :: rest else (name, old) :: insert rest key value

/-- Removes a key and keeps the order of the others. -/
def erase : Table α → String → Table α
  | [], _ => []
  | (name, value) :: rest, key =>
    if name = key then erase rest key else (name, value) :: erase rest key

/-- Changes the value under a key where it stands; a missing key leaves the table alone. -/
def modify : Table α → String → (α → α) → Table α
  | [], _, _ => []
  | (name, value) :: rest, key, change =>
    if name = key then (name, change value) :: modify rest key change
    else (name, value) :: modify rest key change

/-- Applies a function to every value. -/
def mapValues (table : Table α) (f : α → β) : Table β :=
  table.map (fun entry => (entry.1, f entry.2))

/-- Builds a table from entries in order; a repeated key keeps its first place and its last
value. -/
def ofList (entries : List (String × α)) : Table α :=
  entries.foldl (fun table entry => insert table entry.1 entry.2) []

/-! ### Reading back what was written -/

theorem contains_eq_true_iff (table : Table α) (key : String) :
    contains table key = true ↔ key ∈ keys table := by
  induction table with
  | nil => simp [contains, keys]
  | cons entry rest inductionHypothesis =>
    obtain ⟨name, value⟩ := entry
    simp only [keys] at inductionHypothesis
    simp only [contains, keys, List.map_cons, List.mem_cons, Bool.or_eq_true, beq_iff_eq,
      inductionHypothesis]
    exact ⟨fun found => found.elim (fun here => Or.inl here.symm) Or.inr,
      fun found => found.elim (fun here => Or.inl here.symm) Or.inr⟩

@[simp]
theorem get?_insert_self (table : Table α) (key : String) (value : α) :
    get? (insert table key value) key = some value := by
  induction table with
  | nil => simp [insert, get?]
  | cons entry rest inductionHypothesis =>
    obtain ⟨name, old⟩ := entry
    by_cases same : name = key
    · simp [insert, get?, same]
    · simp [insert, get?, same, inductionHypothesis]

theorem get?_insert_of_ne (table : Table α) {key other : String} (value : α)
    (differ : other ≠ key) : get? (insert table key value) other = get? table other := by
  induction table with
  | nil => simp [insert, get?, Ne.symm differ]
  | cons entry rest inductionHypothesis =>
    obtain ⟨name, old⟩ := entry
    by_cases same : name = key
    · subst same
      simp [insert, get?, Ne.symm differ]
    · simp [insert, get?, same, inductionHypothesis]

theorem contains_insert_self (table : Table α) (key : String) (value : α) :
    contains (insert table key value) key = true := by
  induction table with
  | nil => simp [insert, contains]
  | cons entry rest inductionHypothesis =>
    obtain ⟨name, old⟩ := entry
    by_cases same : name = key
    · simp [insert, contains, same]
    · simp [insert, contains, same, inductionHypothesis]

theorem contains_of_get?_eq_some {table : Table α} {key : String} {value : α}
    (found : get? table key = some value) : contains table key = true := by
  induction table with
  | nil => simp [get?] at found
  | cons entry rest inductionHypothesis =>
    obtain ⟨name, old⟩ := entry
    by_cases same : name = key
    · simp [contains, same]
    · simp only [get?, same, if_false] at found
      simp [contains, inductionHypothesis found]

/-- A key that is not among the keys reads as nothing. -/
theorem get?_eq_none_of_not_mem_keys {table : Table α} {key : String}
    (absent : key ∉ keys table) : get? table key = none := by
  induction table with
  | nil => rfl
  | cons entry rest inductionHypothesis =>
    obtain ⟨name, value⟩ := entry
    simp only [keys, List.map_cons, List.mem_cons, not_or] at absent
    simp only [get?, Ne.symm absent.1, if_false]
    exact inductionHypothesis absent.2

/-! ### Where keys stand -/

theorem keys_insert_of_contains (table : Table α) (key : String) (value : α)
    (present : contains table key = true) : keys (insert table key value) = keys table := by
  induction table with
  | nil => simp [contains] at present
  | cons entry rest inductionHypothesis =>
    obtain ⟨name, old⟩ := entry
    by_cases same : name = key
    · simp [insert, keys, same]
    · have restPresent : contains rest key = true := by
        simpa [contains, same] using present
      have restKeys := inductionHypothesis restPresent
      simp only [keys] at restKeys
      simp [insert, keys, same, restKeys]

theorem keys_insert_of_not_contains (table : Table α) (key : String) (value : α)
    (absent : contains table key = false) :
    keys (insert table key value) = keys table ++ [key] := by
  induction table with
  | nil => simp [insert, keys]
  | cons entry rest inductionHypothesis =>
    obtain ⟨name, old⟩ := entry
    have same : name ≠ key := by
      intro equal
      simp [contains, equal] at absent
    have restAbsent : contains rest key = false := by
      simpa [contains, same] using absent
    have restKeys := inductionHypothesis restAbsent
    simp only [keys] at restKeys
    simp [insert, keys, same, restKeys]

theorem keys_erase (table : Table α) (key : String) :
    keys (erase table key) = (keys table).filter (· != key) := by
  induction table with
  | nil => rfl
  | cons entry rest inductionHypothesis =>
    obtain ⟨name, value⟩ := entry
    simp only [keys] at inductionHypothesis
    by_cases same : name = key
    · simp [erase, keys, same, inductionHypothesis]
    · simp [erase, keys, same, inductionHypothesis]

end Table

/-! ### Ordered sets -/

namespace OrderedSet

/-- Appends an item unless it is present: an ordered set keeps each item's first place. -/
def add (set : List String) (item : String) : List String :=
  if set.contains item then set else set ++ [item]

/-- The items in order of first occurrence, each once. -/
def ofList (items : List String) : List String :=
  items.foldl add []

/-- Adds items in order. -/
def addAll (set : List String) (items : List String) : List String :=
  items.foldl add set

end OrderedSet

end Recast
