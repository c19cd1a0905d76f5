import MessagePort.Logical.HashTable

/-!
# Hash tables that own their keys

Strings on a heap, and hash tables whose keys are such strings: a key is compared by
its text, stored by its address, and freed by the table. `Holds` says which table of
texts one stands for. While it holds, and nobody else frees a key, nothing is misused.
-/

namespace MessagePort.Logical

/-- An address on the heap. -/
abbrev Pointer := Nat

/-- The strings on the heap. One that was freed is not there any more. -/
abbrev Strings := HashTable Pointer String

/-- What goes wrong with a string that is not there. -/
inductive Misuse where
  | readAfterFree
  | freedTwice
  | nullRead
deriving DecidableEq

namespace Strings

/-- Read a string. -/
def read (strings : Strings) (pointer : Pointer) : Except Misuse String :=
  match strings.lookup pointer with
  | none => .error .readAfterFree
  | some text => .ok text

/-- Free a string. -/
def free (strings : Strings) (pointer : Pointer) : Except Misuse Strings :=
  if pointer ∈ strings then .ok (strings.erase pointer) else .error .freedTwice

/-- The address of a new string: the allocator's, unless a string is there. -/
def place (strings : Strings) (allocated : Pointer) : Pointer :=
  if allocated ∈ strings then strings.keys.max?.getD 0 + 1 else allocated

theorem place_fresh (strings : Strings) (allocated : Pointer) :
    strings.place allocated ∉ strings := by
  unfold place
  split
  · intro there
    have bound := List.le_max?_getD_of_mem (k := 0) (AList.mem_keys.mp there)
    omega
  · assumption

theorem read_ok {strings : Strings} {pointer : Pointer} {text : String}
    (there : strings.lookup pointer = some text) : strings.read pointer = .ok text := by
  rw [read, there]

theorem free_ok {strings : Strings} {pointer : Pointer} (there : pointer ∈ strings) :
    strings.free pointer = .ok (strings.erase pointer) :=
  if_pos there

end Strings

namespace OwnedTable

variable {Value : Type}

/-- The first key with this text. Every key on the way is read. -/
def search (strings : Strings) (text : String) : List Pointer → Except Misuse (Option Pointer)
  | [] => .ok none
  | key :: next =>
      match strings.read key with
      | .error misuse => .error misuse
      | .ok found => if found = text then .ok (some key) else search strings text next

/-- The stored key with the text of a key, and its value. -/
def lookup (strings : Strings) (table : HashTable Pointer Value) (key : Pointer) :
    Except Misuse (Option (Pointer × Value)) :=
  match strings.read key with
  | .error misuse => .error misuse
  | .ok text =>
      match search strings text table.keys with
      | .error misuse => .error misuse
      | .ok none => .ok none
      | .ok (some stored) => .ok ((table.lookup stored).map fun value => (stored, value))

/-- Insert a value, and return the value that it replaces. A key that is stored already
stays, and the new one is freed. -/
def insert (strings : Strings) (table : HashTable Pointer Value) (key : Pointer) (value : Value) :
    Except Misuse (Strings × HashTable Pointer Value × Option Value) :=
  match lookup strings table key with
  | .error misuse => .error misuse
  | .ok none => .ok (strings, table.insert key value, none)
  | .ok (some (stored, old)) =>
      match strings.free key with
      | .error misuse => .error misuse
      | .ok left => .ok (left, table.insert stored value, some old)

/-- Remove a value, and return it. The stored key is freed. -/
def remove (strings : Strings) (table : HashTable Pointer Value) (key : Pointer) :
    Except Misuse (Strings × HashTable Pointer Value × Option Value) :=
  match lookup strings table key with
  | .error misuse => .error misuse
  | .ok none => .ok (strings, table, none)
  | .ok (some (stored, old)) =>
      match strings.free stored with
      | .error misuse => .error misuse
      | .ok left => .ok (left, table.erase stored, some old)

/-- A table stands for one of texts. -/
structure Holds (strings : Strings) (table : HashTable Pointer Value)
    (contents : HashTable String Value) :
    Prop where
  entry : ∀ {key value}, table.lookup key = some value →
    ∃ text, strings.lookup key = some text ∧ contents.lookup text = some value
  covered : ∀ {text value}, contents.lookup text = some value →
    ∃ key, strings.lookup key = some text ∧ table.lookup key = some value
  /-- No text has two keys. -/
  alone : ∀ {key other text}, key ∈ table → other ∈ table → strings.lookup key = some text →
    strings.lookup other = some text → key = other

variable {strings : Strings} {table : HashTable Pointer Value} {contents : HashTable String Value}

/-- A search among strings that are there finds one with the text, or there is none. -/
theorem search_ok {text : String} {keys : List Pointer}
    (there : ∀ key ∈ keys, ∃ found, strings.lookup key = some found) :
    (∃ key ∈ keys, strings.lookup key = some text ∧ search strings text keys = .ok (some key)) ∨
      (∀ key ∈ keys, strings.lookup key ≠ some text) ∧ search strings text keys = .ok none := by
  induction keys with
  | nil => exact .inr ⟨by simp, rfl⟩
  | cons head next ih =>
      obtain ⟨found, here⟩ := there head List.mem_cons_self
      simp only [search, Strings.read_ok here]
      by_cases same : found = text
      · rw [if_pos same]
        exact .inl ⟨head, List.mem_cons_self, same ▸ here, rfl⟩
      · rw [if_neg same]
        rcases ih fun key member => there key (List.mem_cons_of_mem _ member) with
          ⟨key, member, equal, hit⟩ | ⟨others, missed⟩
        · exact .inl ⟨key, List.mem_cons_of_mem _ member, equal, hit⟩
        · refine .inr ⟨fun key member equal => ?_, missed⟩
          rcases List.mem_cons.mp member with rfl | later
          · exact same (Option.some.inj (here.symm.trans equal))
          · exact others key later equal

namespace Holds

theorem empty : Holds ∅ (∅ : HashTable Pointer Value) ∅ where
  entry found := by cases found
  covered found := by cases found
  alone there := by simp at there

/-- A stored key is a string that is there. -/
theorem live (holds : Holds strings table contents) {key : Pointer} (member : key ∈ table) :
    ∃ text, strings.lookup key = some text := by
  obtain ⟨value, found⟩ := HashTable.lookup_isSome_iff.mp member
  obtain ⟨text, there, _⟩ := holds.entry found
  exact ⟨text, there⟩

/-- A lookup by the text of any string finds what the table of texts has, and misuses nothing. -/
theorem lookup_ok (holds : Holds strings table contents) {key : Pointer} {text : String}
    (there : strings.lookup key = some text) :
    (contents.lookup text = none ∧ OwnedTable.lookup strings table key = .ok none) ∨
      ∃ stored value, contents.lookup text = some value ∧ strings.lookup stored = some text ∧
        table.lookup stored = some value ∧
        OwnedTable.lookup strings table key = .ok (some (stored, value)) := by
  unfold OwnedTable.lookup
  rw [Strings.read_ok there]
  rcases @search_ok strings text table.keys fun key member =>
      holds.live (AList.mem_keys.mpr member) with
    ⟨stored, member, equal, hit⟩ | ⟨others, missed⟩
  · obtain ⟨value, found⟩ := HashTable.lookup_isSome_iff.mp (AList.mem_keys.mpr member)
    obtain ⟨same, present, holding⟩ := holds.entry found
    obtain rfl := Option.some.inj (present.symm.trans equal)
    simp only [hit, found, Option.map_some]
    exact .inr ⟨stored, value, holding, equal, found, rfl⟩
  · simp only [missed]
    refine .inl ⟨Option.eq_none_iff_forall_ne_some.mpr fun value found => ?_, trivial⟩
    obtain ⟨stored, equal, present⟩ := holds.covered found
    exact others stored (AList.mem_keys.mp (HashTable.lookup_isSome_iff.mpr ⟨value, present⟩)) equal

/-- A value is stored under a text that was not there; the table owns the key now. -/
theorem insert_new (holds : Holds strings table contents) {key : Pointer} {text : String}
    (value : Value) (there : strings.lookup key = some text)
    (missing : contents.lookup text = none) :
    OwnedTable.insert strings table key value = .ok (strings, table.insert key value, none) ∧
      Holds strings (table.insert key value) (contents.insert text value) := by
  constructor
  · rcases holds.lookup_ok there with ⟨_, missed⟩ | ⟨_, _, found, _⟩
    · simp only [OwnedTable.insert, missed]
    · rw [missing] at found
      cases found
  · have fresh {other : Pointer} (member : other ∈ table) : strings.lookup other ≠ some text := by
      intro equal
      obtain ⟨held, found⟩ := HashTable.lookup_isSome_iff.mp member
      obtain ⟨same, present, holding⟩ := holds.entry found
      obtain rfl := Option.some.inj (present.symm.trans equal)
      rw [missing] at holding
      cases holding
    constructor
    · intro other held found
      rcases HashTable.lookup_insert_some.mp found with ⟨rfl, rfl⟩ | ⟨_, found⟩
      · exact ⟨text, there, AList.lookup_insert _⟩
      · obtain ⟨same, present, holding⟩ := holds.entry found
        refine ⟨same, present, HashTable.lookup_insert_some.mpr (.inr ⟨?_, holding⟩)⟩
        rintro rfl
        exact fresh (HashTable.lookup_isSome_iff.mpr ⟨held, found⟩) present
    · intro other held found
      rcases HashTable.lookup_insert_some.mp found with ⟨rfl, rfl⟩ | ⟨different, found⟩
      · exact ⟨key, there, AList.lookup_insert _⟩
      · obtain ⟨stored, equal, present⟩ := holds.covered found
        refine ⟨stored, equal, HashTable.lookup_insert_some.mpr (.inr ⟨?_, present⟩)⟩
        rintro rfl
        exact different (Option.some.inj (equal.symm.trans there))
    · intro first second same member member' equal equal'
      rcases (AList.mem_insert table).mp member with rfl | old
      · rcases (AList.mem_insert table).mp member' with rfl | old'
        · rfl
        · exact absurd (equal'.trans (equal.symm.trans there)) (fresh old')
      · rcases (AList.mem_insert table).mp member' with rfl | old'
        · exact absurd (equal.trans (equal'.symm.trans there)) (fresh old)
        · exact holds.alone old old' equal equal'

/-- A value is removed together with its key, which is freed. -/
theorem remove_found (holds : Holds strings table contents) {key : Pointer} {text : String}
    {value : Value} (there : strings.lookup key = some text)
    (found : contents.lookup text = some value) :
    ∃ stored, stored ∈ table ∧ strings.lookup stored = some text ∧
      OwnedTable.remove strings table
        key = .ok (strings.erase stored, table.erase stored, some value) ∧
      Holds (strings.erase stored) (table.erase stored) (contents.erase text) := by
  rcases holds.lookup_ok there with ⟨missing, _⟩ | ⟨stored, old, found', equal, present, hit⟩
  · rw [missing] at found
    cases found
  obtain rfl := Option.some.inj (found'.symm.trans found)
  have member : stored ∈ table := HashTable.lookup_isSome_iff.mpr ⟨old, present⟩
  have live : stored ∈ strings := HashTable.lookup_isSome_iff.mpr ⟨text, equal⟩
  refine ⟨stored, member, equal, ?_, ?_⟩
  · simp only [OwnedTable.remove, hit, Strings.free_ok live]
  · constructor
    · intro other held left
      obtain ⟨different, kept⟩ := HashTable.lookup_erase_some.mp left
      obtain ⟨same, present', holding⟩ := holds.entry kept
      refine ⟨same, HashTable.lookup_erase_some.mpr ⟨different, present'⟩,
        HashTable.lookup_erase_some.mpr ⟨?_, holding⟩⟩
      rintro rfl
      exact different
        (holds.alone (HashTable.lookup_isSome_iff.mpr ⟨held, kept⟩) member present' equal)
    · intro other held found
      obtain ⟨different, found⟩ := HashTable.lookup_erase_some.mp found
      obtain ⟨at_, equal', present'⟩ := holds.covered found
      have apart : at_ ≠ stored := by
        rintro rfl
        exact different (Option.some.inj (equal'.symm.trans equal))
      exact ⟨at_, HashTable.lookup_erase_some.mpr ⟨apart, equal'⟩,
        HashTable.lookup_erase_some.mpr ⟨apart, present'⟩⟩
    · intro first second same member' member'' equal' equal''
      exact holds.alone (AList.mem_erase.mp member').2 (AList.mem_erase.mp member'').2
        (HashTable.lookup_erase_some.mp equal').2 (HashTable.lookup_erase_some.mp equal'').2

/-- More strings do not matter. -/
theorem mono {more : Strings} (holds : Holds strings table contents)
    (kept : ∀ {key text}, strings.lookup key = some text → more.lookup key = some text) :
    Holds more table contents where
  entry found := by
    obtain ⟨text, there, holding⟩ := holds.entry found
    exact ⟨text, kept there, holding⟩
  covered found := by
    obtain ⟨key, there, present⟩ := holds.covered found
    exact ⟨key, kept there, present⟩
  alone member member' equal equal' := by
    obtain ⟨text, there⟩ := holds.live member
    obtain ⟨text', there'⟩ := holds.live member'
    obtain rfl := Option.some.inj ((kept there).symm.trans equal)
    obtain rfl := Option.some.inj ((kept there').symm.trans equal')
    exact holds.alone member member' there there'

end Holds

end OwnedTable

end MessagePort.Logical
