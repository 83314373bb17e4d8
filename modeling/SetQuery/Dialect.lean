/-!
# SQL dialects

The families of SQL that backends speak. What a dialect spells in its own way is in the modules
below this one.
-/

namespace SetQuery

/-- A family of SQL. -/
inductive Dialect
  | generic | duckDb | postgres | sqlite | msSql | snowflake | bigQuery | mySql | hive | oracle
deriving DecidableEq, Repr, Inhabited

namespace Dialect

/-- All dialects. -/
def every : List Dialect :=
  [.generic, .duckDb, .postgres, .sqlite, .msSql, .snowflake, .bigQuery, .mySql, .hive, .oracle]

theorem mem_every (d : Dialect) : d ∈ every := by cases d <;> decide

/-- The name of the dialect. -/
def name : Dialect → String
  | .generic => "generic"
  | .duckDb => "duckdb"
  | .postgres => "postgres"
  | .sqlite => "sqlite"
  | .msSql => "mssql"
  | .snowflake => "snowflake"
  | .bigQuery => "bigquery"
  | .mySql => "mysql"
  | .hive => "hive"
  | .oracle => "oracle"

/-- The dialects with their names. -/
def options : List (String × Dialect) := every.map fun d => (d.name, d)

end Dialect

end SetQuery
