/-!
# Maps sorted by name

A map from names to values, kept as a list of entries in ascending order of the names. The order is
that of code points, so listing a map gives its entries sorted by name.

Main statements: `get?_insert_self` and `get?_insert_of_ne`.
-/

namespace SetQuery

/-- Entries in ascending order of their names. -/
structure SortedMap (α : Type) where
  entries : List (String × α)
deriving Repr

namespace SortedMap

variable {α β : Type}

/-- The map without entries. -/
def empty : SortedMap α := ⟨[]⟩

instance : Inhabited (SortedMap α) := ⟨empty⟩

/-- The entries with one more, which replaces an entry of the same name. -/
def insertEntry (name : String) (value : α) : List (String × α) → List (String × α)
  | [] => [(name, value)]
  | (k, v) :: rest =>
    if name = k then (name, value) :: rest
    else if name < k then (name, value) :: (k, v) :: rest
    else (k, v) :: insertEntry name value rest

/-- The map with a value under a name. -/
def insert (m : SortedMap α) (name : String) (value : α) : SortedMap α :=
  ⟨insertEntry name value m.entries⟩

/-- The value under a name. -/
def get? (m : SortedMap α) (name : String) : Option α := m.entries.lookup name

/-- All names, in ascending order. -/
def names (m : SortedMap α) : List String := m.entries.map (·.1)

/-- All values, in ascending order of their names. -/
def values (m : SortedMap α) : List α := m.entries.map (·.2)

/-- The map that holds the given entries; of two under one name the later one. -/
def ofList (entries : List (String × α)) : SortedMap α :=
  entries.foldl (fun m (name, value) => m.insert name value) empty

@[simp] theorem get?_insert_self (m : SortedMap α) (name : String) (value : α) :
    (m.insert name value).get? name = some value := by
  obtain ⟨entries⟩ := m
  simp only [insert, get?]
  induction entries with
  | nil => simp [insertEntry]
  | cons e rest ih =>
    obtain ⟨k, v⟩ := e
    simp only [insertEntry]
    split
    · simp
    · split
      · simp
      · next h _ => simp [List.lookup_cons, beq_eq_false_iff_ne.2 h, ih]

theorem get?_insert_of_ne (m : SortedMap α) {name other : String} (value : α) (h : other ≠ name) :
    (m.insert name value).get? other = m.get? other := by
  obtain ⟨entries⟩ := m
  simp only [insert, get?]
  induction entries with
  | nil => simp [insertEntry, List.lookup_cons, beq_eq_false_iff_ne.2 h]
  | cons e rest ih =>
    obtain ⟨k, v⟩ := e
    simp only [insertEntry]
    split
    · next hk => subst hk; simp [List.lookup_cons, beq_eq_false_iff_ne.2 h]
    · split
      · simp [List.lookup_cons, beq_eq_false_iff_ne.2 h]
      · simp only [List.lookup_cons]; split <;> simp_all

end SortedMap

end SetQuery
