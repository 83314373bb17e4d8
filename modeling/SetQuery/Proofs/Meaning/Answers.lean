import SetQuery.Proofs.Meaning.Bag
import SetQuery.Proofs.Meaning.Engine
import SetQuery.Resolved.Query

/-!
# What a query answers

A relation has columns and a bag of rows. A query answers with one of several relations, because a
limit may cut among rows that its ordering does not tell apart: `Query.answers` is the set of the
relations that it may answer with. A query that refers to a column that is missing or ambiguous
answers nothing, and neither does one that puts an ordering or a text of a user directly next to an
operator.

The operands of an operator are matched by position, as SQL does.
-/

namespace SetQuery

/-- Columns and a bag of rows of that width. -/
@[ext] structure Relation (V : Type) where
  columns : List String
  rows : Multiset (List V)
  width : ∀ row ∈ rows, row.length = columns.length

/-- The relations that the tables hold and that the queries of users answer with. -/
structure Database (V : Type) where
  table : String → Relation V
  answer : String → Relation V

variable {V : Type}

/-! ## Rows by position and by name -/

/-- The value of each column of a row, null if there is no such column. -/
def Engine.value (E : Engine V) (columns : List String) (row : List V) : Row V := fun name =>
  ((columns.zip row).lookup name).getD E.null

namespace Engine

variable (E : Engine V)

theorem value_cons_self (c : String) (columns : List String) (v : V) (row : List V) :
    E.value (c :: columns) (v :: row) c = v := by
  rw [value, List.zip_cons_cons, List.lookup_cons, beq_self_eq_true]
  rfl

theorem value_cons_of_ne {c name : String} (h : name ≠ c) (columns : List String) (v : V)
    (row : List V) : E.value (c :: columns) (v :: row) name = E.value columns row name := by
  rw [value, value, List.zip_cons_cons, List.lookup_cons, beq_eq_false_iff_ne.2 h]

theorem value_map (columns : List String) (r : Row V) (name : String) :
    E.value columns (columns.map r) name = if name ∈ columns then r name else E.null := by
  induction columns with
  | nil => rfl
  | cons c columns ih =>
    rw [List.map_cons]
    by_cases h : name = c
    · subst h
      rw [value_cons_self, if_pos List.mem_cons_self]
    · rw [E.value_cons_of_ne h, ih]
      simp only [List.mem_cons, h, false_or]

/-- Reading all columns of a row gives the row. -/
theorem map_value {columns : List String} (hnodup : columns.Nodup) {row : List V}
    (hwidth : row.length = columns.length) : columns.map (E.value columns row) = row := by
  induction columns generalizing row with
  | nil => exact (List.eq_nil_of_length_eq_zero hwidth).symm
  | cons c columns ih =>
    cases row with
    | nil => cases hwidth
    | cons v row =>
      obtain ⟨hc, hnodup⟩ := List.nodup_cons.1 hnodup
      have htail : columns.map (E.value (c :: columns) (v :: row)) =
          columns.map (E.value columns row) :=
        List.map_congr_left fun name hname =>
          E.value_cons_of_ne (ne_of_mem_of_not_mem hname hc) columns v row
      rw [List.map_cons, E.value_cons_self, htail, ih hnodup (Nat.succ.inj hwidth)]

/-- A column behind those of a row is not seen by reading them. -/
theorem value_append {columns : List String} {row : List V}
    (hwidth : row.length = columns.length) {name : String} (hname : name ∈ columns) (c : String)
    (v : V) : E.value (columns ++ [c]) (row ++ [v]) name = E.value columns row name := by
  induction columns generalizing row with
  | nil => cases hname
  | cons d columns ih =>
    cases row with
    | nil => cases hwidth
    | cons w row =>
      by_cases h : name = d
      · subst h
        rw [List.cons_append, List.cons_append, E.value_cons_self, E.value_cons_self]
      · rw [List.cons_append, List.cons_append, E.value_cons_of_ne h, E.value_cons_of_ne h]
        exact ih (Nat.succ.inj hwidth) ((List.mem_cons.1 hname).resolve_left h)

end Engine

namespace Relation

/-- The rows with their values in the order of the names. -/
def ofRows (names : List String) (rows : Multiset (Row V)) : Relation V where
  columns := names
  rows := rows.map fun r => names.map r
  width := fun row h => by
    obtain ⟨r, -, rfl⟩ := Multiset.mem_map.1 h
    exact List.length_map _

@[simp] theorem columns_ofRows (names : List String) (rows : Multiset (Row V)) :
    (ofRows names rows).columns = names := rfl

@[simp] theorem rows_ofRows (names : List String) (rows : Multiset (Row V)) :
    (ofRows names rows).rows = rows.map fun r => names.map r := rfl

/-- The rows by name, without the columns that are not asked for. -/
def named (E : Engine V) (names : List String) (s : Relation V) : Multiset (Row V) :=
  s.rows.map fun row name => if name ∈ names then E.value s.columns row name else E.null

theorem named_ofRows {E : Engine V} {names : List String} {rows : Multiset (Row V)}
    (h : ∀ r ∈ rows, E.Within names r) : (ofRows names rows).named E names = rows := by
  rw [named, rows_ofRows, columns_ofRows, Multiset.map_map]
  refine (Multiset.map_congr rfl fun r hr => ?_).trans (Multiset.map_id rows)
  funext name
  rw [Function.comp_apply, E.value_map]
  by_cases hname : name ∈ names
  · rw [if_pos hname, if_pos hname]; rfl
  · rw [if_neg hname]; exact (h r hr name hname).symm

theorem ofRows_named {E : Engine V} {s : Relation V} (h : s.columns.Nodup) :
    ofRows s.columns (s.named E s.columns) = s := by
  refine Relation.ext rfl ?_
  rw [rows_ofRows, named, Multiset.map_map]
  refine (Multiset.map_congr rfl fun row hrow => ?_).trans (Multiset.map_id s.rows)
  rw [Function.comp_apply]
  refine Eq.trans (List.map_congr_left fun name hname => if_pos hname) ?_
  exact E.map_value h (s.width row hrow)

/-- The relations that an operation makes of two relations, matched by position. -/
def combine [DecidableEq V] (op : SetOp) (A B : Set (Relation V)) : Set (Relation V) :=
  {out | ∃ a ∈ A, ∃ b ∈ B, a.columns.length = b.columns.length ∧ out.columns = a.columns ∧
    out.rows = op.combine a.rows b.rows}

/-- Relations of one width can be combined. -/
theorem exists_mem_combine [DecidableEq V] (op : SetOp) {A B : Set (Relation V)} {a b : Relation V}
    (ha : a ∈ A) (hb : b ∈ B) (h : a.columns.length = b.columns.length) :
    ∃ s ∈ combine op A B, s.columns = a.columns ∧ s.rows = op.combine a.rows b.rows := by
  have hwidth : ∀ row ∈ op.combine a.rows b.rows, row.length = a.columns.length := by
    intro row hrow
    rcases SetOp.mem_of_mem_combine hrow with hrow | hrow
    · exact a.width row hrow
    · exact (b.width row hrow).trans h.symm
  exact ⟨⟨a.columns, _, hwidth⟩, ⟨a, ha, b, hb, h, rfl, rfl⟩, rfl, rfl⟩

end Relation

/-! ## Answers -/

namespace Sql

namespace SelectItem

/-- The columns that an item gives. -/
def columns (source : List String) : SelectItem → List String
  | .every => source
  | .column name => [name]
  | .cast name _ => [name]
  | .rowNumber _ name => [name]

/-- The columns that an item refers to by name. -/
def reads : SelectItem → List String
  | .every => []
  | .column name => [name]
  | .cast name _ => [name]
  | .rowNumber columns _ => columns

variable [DecidableEq V]

/-- The values that an item gives for a row. The number of a row counts those before it that agree
with it in the columns. -/
def values (E : Engine V) (source : List String) (earlier : List (List V)) (row : List V) :
    SelectItem → List V
  | .every => row
  | .column name => [E.value source row name]
  | .cast name type => [E.cast type (E.value source row name)]
  | .rowNumber columns _ =>
    let agreeing := earlier.filter fun other =>
      columns.map (E.value source other) = columns.map (E.value source row)
    [E.number (agreeing.length + 1)]

end SelectItem

namespace Head

variable [DecidableEq V]

/-- The columns of the result. -/
def columnsFrom (head : Head) (source : List String) : List String :=
  head.items.flatMap (·.columns source)

/-- The row of the result for a row of the source. -/
def rowFrom (E : Engine V) (head : Head) (source : List String) (earlier : List (List V))
    (row : List V) : List V :=
  head.items.flatMap (·.values E source earlier row)

/-- There is a select list, and every column that is referred to is there once. -/
def Applies (head : Head) (source : List String) : Prop :=
  head.items ≠ [] ∧ (∀ item ∈ head.items, ∀ name ∈ item.reads, source.count name = 1) ∧
    ∀ key ∈ head.orderBy, (head.columnsFrom source).count key.column = 1

/-- The rows without duplicates, if that is asked for. -/
def kept (head : Head) (rows : Multiset (List V)) : Multiset (List V) :=
  if head.distinct then rows.dedup else rows

/-- The relations that a head may make of its source. -/
def answers (E : Engine V) (head : Head) (s : Relation V) : Set (Relation V) :=
  {out | head.Applies s.columns ∧ out.columns = head.columnsFrom s.columns ∧
    ∃ source listed : List (List V), (source : Multiset (List V)) = s.rows ∧
      (listed : Multiset (List V)) =
        head.kept (mapEarlier (head.rowFrom E s.columns) [] source) ∧
      listed.Pairwise (fun r r' =>
        E.NotAfter head.orderBy (E.value out.columns r) (E.value out.columns r')) ∧
      out.rows = page head.limit head.offset listed}

/-- Whether there is no ordering and no limit. -/
def isPlain (head : Head) : Bool :=
  head.orderBy.isEmpty && head.limit.isNone && head.offset.isNone

end Head

namespace Query

/-- Whether the query may stand next to an operator. -/
def isOperand : Query → Bool
  | .verbatim _ => false
  | .ofTable head _ _ => head.isPlain
  | .ofQuery head _ _ => head.isPlain
  | .compound _ _ _ => true

variable [DecidableEq V]

/-- The relations that the query may answer with. -/
def answers (E : Engine V) (db : Database V) : Query → Set (Relation V)
  | .verbatim sql => {db.answer sql}
  | .ofTable head name _ => head.answers E (db.table name)
  | .ofQuery head source _ => {out | ∃ s ∈ source.answers E db, out ∈ head.answers E s}
  | .compound left op right => {out | left.isOperand = true ∧ right.isOperand = true ∧
      out ∈ Relation.combine op (left.answers E db) (right.answers E db)}

end Query

end Sql

end SetQuery
