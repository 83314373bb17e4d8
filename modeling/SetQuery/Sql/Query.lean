import SetQuery.Dialect.CastType
import SetQuery.Expr
import SetQuery.Sql.Select

/-!
# Queries

The statements that are sent to a backend. A query selects from a table or from another query, or
combines two queries with a set operation, or is a text that a user wrote. The operands of a
set operation are written one after the other without parentheses.
-/

namespace SetQuery.Sql

/-- An item of a select list. -/
inductive SelectItem
  /-- All columns. -/
  | every
  | column (name : String)
  /-- A column cast to a type, under its own name. -/
  | cast (name : String) (type : SqlType)
  /-- The number of a row among those that agree in the columns, under a generated name. -/
  | rowNumber (columns : List String) (name : String)
deriving DecidableEq, Repr

/-- What a query does with its source. -/
structure Head where
  distinct : Bool := false
  items : List SelectItem
  orderBy : List SortKey := []
  limit : Option Nat := none
  offset : Option Nat := none
deriving DecidableEq, Repr

/-- A query. -/
inductive Query
  | verbatim (sql : String)
  /-- Selects from a table, which may have an alias. -/
  | ofTable (head : Head) (table : String) (label? : Option String)
  /-- Selects from a query in parentheses, which has an alias. -/
  | ofQuery (head : Head) (source : Query) (label : String)
  /-- A set operation between two queries. -/
  | compound (left : Query) (op : SetOp) (right : Query)
deriving DecidableEq, Repr, Inhabited

namespace Head

/-- All columns of the source. -/
def every : Head := { items := [.every] }

/-- The columns of the given names. -/
def columns (names : List String) : Head := { items := names.map .column }

end Head

/-! ## Spelling out -/

/-- Columns with commas between them. -/
def columnParts (names : List String) : List Part :=
  commaSeparated (names.map fun name => [.column name])

/-- The parts of an item. -/
def SelectItem.parts (d : Dialect) : SelectItem → List Part
  | .every => [.word "*"]
  | .column name => [.column name]
  | .cast name type => [.word "CAST", .opening, .column name, .word (" AS " ++ d.castType type),
      .closing, .word " AS ", .column name]
  | .rowNumber columns name => [.word "ROW_NUMBER", .opening, .closing, .word " OVER ", .opening,
      .word "PARTITION BY "] ++ columnParts columns ++ [.word " ORDER BY "] ++
      columnParts columns ++ [.closing, .word " AS ", .generated name]

/-- The parts of a sort key. -/
def sortKeyParts (key : SortKey) : List Part :=
  [.column key.column, .word (if key.ascending then " ASC" else " DESC")]

/-- The parts of an ordering, if there are keys. -/
def orderByParts (keys : List SortKey) : Option (List Part) :=
  if keys.isEmpty then none else some (commaSeparated (keys.map sortKeyParts))

/-- The parts of an alias behind what it names. -/
def aliasParts (d : Dialect) (name : String) : List Part := [.word d.aliasLink, .generated name]

namespace Head

/-- The SELECT with this head on a source. -/
def select (d : Dialect) (head : Head) (source : List Part) : Select where
  distinct := head.distinct
  projection := commaSeparated (head.items.map (·.parts d))
  source := source
  orderBy := orderByParts head.orderBy
  limit := head.limit
  offset := head.offset

end Head

namespace Query

/-- The parts of a query. -/
def parts (d : Dialect) : Query → List Part
  | .verbatim sql => [.verbatim sql]
  | .ofTable head table label? =>
    (head.select d (.table table :: (label?.map (aliasParts d)).getD [])).parts d
  | .ofQuery head source name =>
    (head.select d (.opening :: source.parts d ++ .closing :: aliasParts d name)).parts d
  | .compound left op right => left.parts d ++ .operator op :: right.parts d

/-- The text of a query in a dialect. -/
def text (d : Dialect) (q : Query) : String := spell d (q.parts d)

end Query

end SetQuery.Sql
