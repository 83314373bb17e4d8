import SetQuery.Expr
import SetQuery.SqlType.Reader
import SetQuery.Yaml.Reader

/-!
# Plan files

A plan file is a YAML document. It defines tables, each of which is a table of the database or a
query text with declared columns, and one query that combines them step by step and orders and
limits the result.
-/

namespace SetQuery

open Yaml Yaml.Cursor

/-! ## Contents -/

/-- A column of a table. -/
structure ColumnDef where
  name : String := ""
  type : String := ""
  nullable : Option Bool := none
deriving DecidableEq, Repr, Inhabited

/-- A table of the plan. -/
structure TableDef where
  table : Option String := none
  sql : Option String := none
  columns : List ColumnDef := []
  orderBy : List String := []
deriving DecidableEq, Repr, Inhabited

/-- A step of the query: an operation on the relation so far and on some tables. -/
structure StepDef where
  kind : OpKind := .union
  inputs : List String := []
  distinct : Bool := true
deriving DecidableEq, Repr, Inhabited

/-- The query of the plan. -/
structure QueryDef where
  source : String := ""
  steps : List StepDef := []
  orderBy : List String := []
  limit : Option Nat := none
  offset : Nat := 0
deriving DecidableEq, Repr, Inhabited

/-- A plan. -/
structure PlanFile where
  tables : SortedMap TableDef := .empty
  query : QueryDef := {}
deriving Repr, Inhabited

/-! ## Reading -/

namespace ColumnDef

/-- The fields of a column. -/
def fields : List (RecordField ColumnDef) :=
  [ (RecordField.of "name" readText fun c name => { c with name := name }).mustBe,
    (RecordField.of "type" readText fun c type => { c with type := type }).mustBe,
    .of "nullable" (readOption readBool) fun c nullable => { c with nullable := nullable } ]

/-- Reads a column. -/
def reader : Reader ColumnDef := readRecord "ColumnDef" fields {}

end ColumnDef

namespace TableDef

/-- The fields of a table. -/
def fields : List (RecordField TableDef) :=
  [ .of "table" (readOption readText) fun t name => { t with table := name },
    .of "sql" (readOption readText) fun t sql => { t with sql := sql },
    (RecordField.of "columns" (readList ColumnDef.reader) fun t columns =>
      { t with columns := columns }).mustBe,
    .of "order_by" (readList readText) fun t entries => { t with orderBy := entries } ]

/-- Reads a table. -/
def reader : Reader TableDef := readRecord "TableDef" fields {}

end TableDef

namespace StepDef

/-- The operations by their names in a plan. -/
def operations : List (String × OpKind) :=
  [("union", .union), ("intersect", .intersect), ("difference", .except)]

/-- The fields of a step. -/
def fields : List (RecordField StepDef) :=
  [ (RecordField.of "op" (readName operations) fun s kind => { s with kind := kind }).mustBe,
    (RecordField.of "inputs" (readList readText) fun s inputs =>
      { s with inputs := inputs }).mustBe,
    .of "distinct" readBool fun s distinct => { s with distinct := distinct } ]

/-- Reads a step. -/
def reader : Reader StepDef := readRecord "StepDef" fields {}

end StepDef

namespace QueryDef

/-- The fields of a query. -/
def fields : List (RecordField QueryDef) :=
  [ (RecordField.of "from" readText fun q name => { q with source := name }).mustBe,
    .of "steps" (readList StepDef.reader) fun q steps => { q with steps := steps },
    .of "order_by" (readList readText) fun q entries => { q with orderBy := entries },
    .of "limit" (readOption readNatural) fun q limit => { q with limit := limit },
    .of "offset" readNatural fun q offset => { q with offset := offset } ]

/-- Reads a query. -/
def reader : Reader QueryDef := readRecord "QueryDef" fields {}

end QueryDef

namespace PlanFile

/-- The fields of a plan. -/
def fields : List (RecordField PlanFile) :=
  [ (RecordField.of "tables" (readMap TableDef.reader) fun p tables =>
      { p with tables := tables }).mustBe,
    (RecordField.of "query" QueryDef.reader fun p query => { p with query := query }).mustBe ]

/-- Reads a plan. -/
def reader : Reader PlanFile := readRecord "PlanFile" fields {}

/-- The plan that a text gives. -/
def ofYaml (text : String) : Except Yaml.Error PlanFile := Yaml.read reader text

end PlanFile

end SetQuery
