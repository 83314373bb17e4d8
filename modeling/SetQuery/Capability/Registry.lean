import SetQuery.Capability
import SetQuery.Text.Columns

/-!
# The registry of backends

The registry holds the capabilities of all known backends, each under its name. It starts from the
built-in backends; a configuration overrides their entries and adds backends of its own, which have
to name their dialect.
-/

namespace SetQuery

/-- The capabilities of all known backends, by name. -/
structure Registry where
  tables : SortedMap Capabilities
deriving Repr, Inhabited

namespace Registry

/-- The registry with a table under its own name. -/
def insert (r : Registry) (c : Capabilities) : Registry := ⟨r.tables.insert c.name.text c⟩

/-- All tables, in ascending order of their names. -/
def backends (r : Registry) : List Capabilities := r.tables.values

/-- The table of the backend that a text names. -/
def find (r : Registry) (text : String) : Except PlanError Capabilities :=
  match (BackendName.ofText? text).bind fun name => r.tables.get? name.text with
  | some c => .ok c
  | none => .error (.unknownBackend text)

/-! ## Built-in backends -/

/-- A backend that has all operators but those on bags, which are treated as given. -/
def withBags (name : String) (dialect : Dialect) (bags : Support) : Capabilities :=
  ((Capabilities.native ⟨name⟩ dialect).setSupport ⟨.intersect, .all⟩ bags).setSupport
    ⟨.except, .all⟩ bags

/-- The backends that are known without a configuration. -/
def builtinTables : List Capabilities :=
  let numbered := Support.emulated .rowNumber
  [ .native ⟨"duckdb"⟩ .duckDb,
    .native ⟨"postgres"⟩ .postgres,
    .native ⟨"datafusion"⟩ .generic,
    .native ⟨"trino"⟩ .generic,
    .native ⟨"mysql"⟩ .mySql,
    withBags "clickhouse" .generic .unsupported,
    withBags "oracle" .oracle .unsupported,
    withBags "impala" .hive .unsupported,
    withBags "risingwave" .postgres .unsupported,
    withBags "sqlite" .sqlite numbered,
    withBags "snowflake" .snowflake numbered,
    withBags "bigquery" .bigQuery numbered,
    withBags "exasol" .generic numbered,
    { withBags "mssql" .msSql numbered with subqueryOrder := false },
    (((withBags "druid" .generic .unsupported).setSupport ⟨.union, .distinct⟩
      (.emulated .distinctOverUnionAll)).setSupport ⟨.intersect, .distinct⟩ .unsupported).setSupport
      ⟨.except, .distinct⟩ .unsupported ]

/-- The registry of the built-in backends. -/
def builtin : Registry := builtinTables.foldl insert ⟨.empty⟩

/-! ## Configured backends -/

/-- The registry with one override applied. -/
def override (r : Registry) (name : String) (o : Override) : Except PlanError Registry :=
  match r.tables.get? name, o.dialect with
  | some c, _ => .ok (r.insert (c.apply o))
  | none, some dialect => .ok (r.insert ((Capabilities.native ⟨name⟩ dialect).apply o))
  | none, none => .error (.config (.noDialect name))

/-- The built-in backends with the overrides of a configuration. -/
def ofConfig (config : Config) : Except PlanError Registry :=
  config.backends.entries.foldlM (fun r (name, o) => r.override name o) builtin

end Registry

/-! ## The capability table as text -/

/-- The headers of the capability table. -/
def Capabilities.headers : List String :=
  ["BACKEND", "DIALECT", "UNION", "UNION ALL", "INTERSECT", "INTERSECT ALL", "EXCEPT",
    "EXCEPT ALL", "SUBQUERY ORDER"]

/-- The row of a backend. -/
def Capabilities.row (c : Capabilities) : List String :=
  [c.name.text, c.dialect.name] ++ c.support.toList.map (·.text) ++
    [if c.subqueryOrder then "yes" else "no"]

/-- One row for each backend. -/
def capabilityTable (backends : List Capabilities) : String :=
  Text.table Capabilities.headers (backends.map (·.row))

end SetQuery
