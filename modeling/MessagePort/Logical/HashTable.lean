import Mathlib.Data.List.AList
import Mathlib.Data.List.Perm.Basic

/-!
# Hash tables

A hash table is an association list with distinct keys, read through `lookup`.
Nothing may depend on the order of its entries: the one operation that visits
them, `find`, takes the visiting order as an argument.
-/

namespace MessagePort.Logical

/-- Finite tables with distinct keys. -/
abbrev HashTable (Key Value : Type) := AList fun _ : Key => Value

namespace HashTable

variable {Key Value : Type} [DecidableEq Key]

theorem lookup_insert_eq (table : HashTable Key Value) (key other : Key) (value : Value) :
    (AList.insert key value table).lookup other =
      if other = key then some value else table.lookup other := by
  split
  case isTrue same =>
    rw [same, AList.lookup_insert]
  case isFalse different =>
    exact AList.lookup_insert_ne different

theorem lookup_erase_eq (table : HashTable Key Value) (key other : Key) :
    (AList.erase key table).lookup other = if other = key then none else table.lookup other := by
  split
  case isTrue same =>
    rw [same, AList.lookup_erase]
  case isFalse different =>
    exact AList.lookup_erase_ne different

/-- An entry of a table after an insertion is the new one, or an old one under another key. -/
theorem lookup_insert_some {table : HashTable Key Value} {key other : Key} {value found : Value} :
    (AList.insert key value table).lookup other = some found ↔
      (other = key ∧ value = found) ∨ (other ≠ key ∧ table.lookup other = some found) := by
  rw [lookup_insert_eq]
  by_cases same : other = key
  · simp [same]
  · simp [same]

/-- An entry of a table after a removal is one under another key. -/
theorem lookup_erase_some {table : HashTable Key Value} {key other : Key} {found : Value} :
    (AList.erase key table).lookup other = some found ↔
      other ≠ key ∧ table.lookup other = some found := by
  rw [lookup_erase_eq]
  by_cases same : other = key
  · simp [same]
  · simp [same]

omit [DecidableEq Key] in
/-- A table without keys is empty. -/
theorem eq_empty_of_mem {table : HashTable Key Value} (absent : ∀ key, key ∉ table) :
    table = ∅ := by
  have keys : table.keys = [] := by
    refine List.eq_nil_iff_forall_not_mem.mpr fun key member => ?_
    exact absent key (AList.mem_keys.mpr member)
  exact AList.ext (List.map_eq_nil_iff.mp keys)

/-- A table in which nothing is found is empty. -/
theorem eq_empty_of_lookup {table : HashTable Key Value} (absent : ∀ key, table.lookup key = none) :
    table = ∅ :=
  eq_empty_of_mem fun key => AList.lookup_eq_none.mp (absent key)

/-- Change the value under a key, if there is one. -/
def modify (table : HashTable Key Value) (key : Key) (change : Value → Value) :
    HashTable Key Value :=
  match table.lookup key with
  | none => table
  | some value => table.insert key (change value)

theorem lookup_modify_eq (table : HashTable Key Value) (key other : Key) (change : Value → Value) :
    (table.modify key change).lookup other =
      if other = key then (table.lookup key).map change else table.lookup other := by
  unfold modify
  cases present : table.lookup key with
  | none =>
      by_cases same : other = key
      · rw [if_pos same, same]
        exact present
      · rw [if_neg same]
  | some value => exact lookup_insert_eq table key other (change value)

/-- A value that was just stored is replaced. -/
theorem modify_insert (table : HashTable Key Value) (key : Key) (value : Value)
    (change : Value → Value) :
    HashTable.modify (AList.insert key value table) key change =
      AList.insert key (change value) table := by
  unfold modify
  rw [AList.lookup_insert]
  exact AList.insert_insert _

theorem lookup_isSome_iff {table : HashTable Key Value} {key : Key} :
    key ∈ table ↔ ∃ value, table.lookup key = some value := by
  rw [← AList.lookup_isSome, Option.isSome_iff_exists]

/-- The order in which a traversal visits the keys: `visit` when it is an order
of these keys at all, the order of the entries otherwise. -/
def visitOrder (table : HashTable Key Value) (visit : List Key) : List Key :=
  if visit.Perm table.keys then visit else table.keys

theorem visitOrder_perm (table : HashTable Key Value) (visit : List Key) :
    (table.visitOrder visit).Perm table.keys := by
  unfold visitOrder
  split
  · assumption
  · rfl

theorem mem_visitOrder {table : HashTable Key Value} {visit : List Key} {key : Key} :
    key ∈ table.visitOrder visit ↔ key ∈ table := by
  rw [(visitOrder_perm table visit).mem_iff, AList.mem_keys]

/-- Every order of the keys is the visiting order of some traversal. -/
theorem visitOrder_of_perm {table : HashTable Key Value} {visit : List Key}
    (order : visit.Perm table.keys) : table.visitOrder visit = visit :=
  if_pos order

/-- The first key visited whose value is accepted. -/
def find (table : HashTable Key Value) (visit : List Key) (accepts : Value → Bool) : Option Key :=
  (table.visitOrder visit).find? fun key => (table.lookup key).any accepts

/-- A found key is in the table and its value is accepted. -/
theorem find_some {table : HashTable Key Value} {visit : List Key} {accepts : Value → Bool}
    {key : Key} (found : table.find visit accepts = some key) :
    ∃ value, table.lookup key = some value ∧ accepts value = true := by
  have accepted := List.find?_some found
  simpa [Option.any_eq_true] using accepted

/-- Nothing is found exactly when no value is accepted. -/
theorem find_eq_none {table : HashTable Key Value} {visit : List Key} {accepts : Value → Bool} :
    table.find visit accepts = none ↔
      ∀ key value, table.lookup key = some value → accepts value = false := by
  simp only [find, List.find?_eq_none, Option.any_eq_true, not_exists, not_and, Bool.not_eq_true]
  constructor
  · intro none key value present
    exact none key (mem_visitOrder.mpr (lookup_isSome_iff.mpr ⟨value, present⟩)) value present
  · intro none key _ value present
    exact none key value present

/-- Any accepted key can be the one found: some order visits it first. -/
theorem exists_find_eq {table : HashTable Key Value} {accepts : Value → Bool} {key : Key}
    {value : Value} (present : table.lookup key = some value) (accepted : accepts value = true) :
    ∃ visit, table.find visit accepts = some key := by
  have member : key ∈ table.keys := AList.mem_keys.mp (lookup_isSome_iff.mpr ⟨value, present⟩)
  refine ⟨key :: table.keys.erase key, ?_⟩
  rw [find, visitOrder_of_perm (List.perm_cons_erase member).symm]
  simp [present, accepted]

end HashTable

end MessagePort.Logical
