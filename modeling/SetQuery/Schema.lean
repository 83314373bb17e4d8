import SetQuery.SqlType

/-!
# Schemas

A schema is an ordered list of columns, each with a name, a type and a declared nullability. The
names are not empty and no two are equal, and a `Schema` carries the proof of that, so whoever holds
one need not check again. `Schema.ofColumns` checks a list and reports the first fault.

Main statements: `ofColumns_columns` (a schema passes its own check) and `columns_of_ofColumns`
(a list that passes is the list of columns of the result).
-/

namespace SetQuery

/-! ## Nullability -/

/-- What a column declares about nulls. -/
inductive Nullability
  | notNull
  | nullable
  | unknown
deriving DecidableEq, Repr, Inhabited

namespace Nullability

/-- What is known of a column that takes its values from two: either may bring nulls. -/
def combine : Nullability → Nullability → Nullability
  | .nullable, _ => .nullable
  | _, .nullable => .nullable
  | .unknown, _ => .unknown
  | _, .unknown => .unknown
  | .notNull, .notNull => .notNull

/-- The words for it. -/
def title : Nullability → String
  | .notNull => "NOT NULL"
  | .nullable => "NULLABLE"
  | .unknown => "UNKNOWN"

/-- The name of it in data. -/
def name : Nullability → String
  | .notNull => "not_null"
  | .nullable => "nullable"
  | .unknown => "unknown"

/-- What a declaration says that may be absent. -/
def ofDeclared : Option Bool → Nullability
  | some true => .nullable
  | some false => .notNull
  | none => .unknown

end Nullability

/-! ## Columns and schemas -/

/-- A named column with its type. -/
structure Column where
  name : String
  type : SqlType
  nullability : Nullability := .unknown
deriving DecidableEq, Repr, Inhabited

/-- An ordered list of columns with distinct names, none of them empty. -/
structure Schema where
  columns : List Column
  nodup : (columns.map (·.name)).Nodup
  named : ∀ c ∈ columns, c.name ≠ ""
deriving DecidableEq, Repr

/-- Why a list of columns is no schema. -/
inductive SchemaError
  | emptyName (position : Nat)
  | duplicate (column : String)
deriving DecidableEq, Repr

/-- The text of the fault. -/
def SchemaError.message : SchemaError → String
  | .emptyName position => "[E004] Column at position " ++ toString position ++ " has an empty name"
  | .duplicate column => "[E003] Duplicate column '" ++ column ++ "' in schema"

namespace Schema

/-- The schema without columns. -/
def empty : Schema := ⟨[], List.nodup_nil, fun _ h => nomatch h⟩

instance : Inhabited Schema := ⟨empty⟩

@[ext] theorem ext_columns {s t : Schema} (h : s.columns = t.columns) : s = t := by
  cases s; cases t; cases h; rfl

/-- The first fault of a list of columns that stands at a position behind columns with the given
names. -/
def firstFault (seen : List String) (position : Nat) : List Column → Option SchemaError
  | [] => none
  | c :: rest =>
    if c.name = "" then some (.emptyName position)
    else if c.name ∈ seen then some (.duplicate c.name)
    else firstFault (c.name :: seen) (position + 1) rest

theorem firstFault_eq_none_iff (columns : List Column) (seen : List String) (position : Nat) :
    firstFault seen position columns = none ↔
      (columns.map (·.name)).Nodup ∧ (∀ c ∈ columns, c.name ≠ "") ∧
        ∀ c ∈ columns, c.name ∉ seen := by
  induction columns generalizing seen position with
  | nil => simp [firstFault]
  | cons c rest ih =>
    rw [firstFault]
    split
    · next h => simp [h]
    · next h =>
      split
      · next hs => simp [hs]
      · next hs =>
        rw [ih]
        simp only [List.map_cons, List.nodup_cons, List.mem_map, List.mem_cons, forall_eq_or_imp]
        constructor
        · rintro ⟨hd, hn, hseen⟩
          refine ⟨⟨?_, hd⟩, ⟨h, hn⟩, hs, fun d hd' hmem => hseen d hd' (.inr hmem)⟩
          rintro ⟨d, hd', heq⟩
          exact hseen d hd' (.inl heq)
        · rintro ⟨⟨hnot, hd⟩, ⟨_, hn⟩, _, hseen⟩
          refine ⟨hd, hn, fun d hd' hmem => ?_⟩
          rcases hmem with heq | hmem
          · exact hnot ⟨d, hd', heq⟩
          · exact hseen d hd' hmem

/-- The schema of a list of columns, or the first fault of the list. -/
def ofColumns (columns : List Column) : Except SchemaError Schema :=
  match h : firstFault [] 0 columns with
  | some fault => .error fault
  | none =>
    have h := (firstFault_eq_none_iff columns [] 0).1 h
    .ok ⟨columns, h.1, h.2.1⟩

theorem ofColumns_columns (s : Schema) : ofColumns s.columns = .ok s := by
  have h : firstFault [] 0 s.columns = none :=
    (firstFault_eq_none_iff _ _ _).2 ⟨s.nodup, s.named, by simp⟩
  unfold ofColumns
  split
  · next h' => simp [h] at h'
  · rfl

theorem columns_of_ofColumns {columns : List Column} {s : Schema} (h : ofColumns columns = .ok s) :
    s.columns = columns := by
  unfold ofColumns at h
  split at h
  · cases h
  · cases h; rfl

/-- The names of the columns, in order. -/
def names (s : Schema) : List String := s.columns.map (·.name)

/-- The column of a name. -/
def find? (s : Schema) (name : String) : Option Column := s.columns.find? (·.name = name)

/-- The position of the column of a name. -/
def position? (s : Schema) (name : String) : Option Nat := s.columns.findIdx? (·.name = name)

/-- The number of columns. -/
def size (s : Schema) : Nat := s.columns.length

/-- Whether there are no columns. -/
def isEmpty (s : Schema) : Bool := s.columns.isEmpty

/-- The columns with their types, in parentheses. -/
def title (s : Schema) : String :=
  "(" ++ ", ".intercalate (s.columns.map fun c => c.name ++ " " ++ c.type.name) ++ ")"

end Schema

end SetQuery
