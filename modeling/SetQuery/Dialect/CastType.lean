import SetQuery.Dialect
import SetQuery.SqlType

/-!
# Types as targets of a cast

The name of a column type in each dialect. A dialect that has no name of its own for a type uses
the standard one.
-/

namespace SetQuery.Dialect

/-- A type name with one number in parentheses. -/
def sized (name : String) (size : Nat) : String := name ++ "(" ++ toString size ++ ")"

/-- The names of types in PostgreSQL. -/
def postgresType : SqlType → String
  | .integer .i8 => "SMALLINT"
  | .hugeInt => "NUMERIC(39,0)"
  | .float .single => "REAL"
  | .float .double => "DOUBLE PRECISION"
  | .binary => "BYTEA"
  | .array element => postgresType element ++ "[]"
  | type => type.name

/-- The names of types in SQL Server. -/
def msSqlType : SqlType → String
  | .boolean => "BIT"
  | .hugeInt => "DECIMAL(38,0)"
  | .float .single => "REAL"
  | .float .double => "FLOAT"
  | .text none => "NVARCHAR(MAX)"
  | .text (some n) => sized "NVARCHAR" n.toNat
  | .timestamp => "DATETIME2"
  | .binary => "VARBINARY(MAX)"
  | .uuid => "UNIQUEIDENTIFIER"
  | type => type.name

/-- The names of types in Snowflake. -/
def snowflakeType : SqlType → String
  | .hugeInt => "NUMBER(38,0)"
  | .json => "VARIANT"
  | .array _ => "ARRAY"
  | type => type.name

/-- The names of types in BigQuery. -/
def bigQueryType : SqlType → String
  | .boolean => "BOOL"
  | .integer _ => "INT64"
  | .hugeInt => "BIGNUMERIC"
  | .float _ => "FLOAT64"
  | .decimal _ _ => "NUMERIC"
  | .text _ => "STRING"
  | .binary => "BYTES"
  | .uuid => "STRING"
  | .array element => "ARRAY<" ++ bigQueryType element ++ ">"
  | type => type.name

/-- The few names that MySQL takes as the target of a cast. -/
def mySqlType : SqlType → String
  | .integer _ | .hugeInt => "SIGNED"
  | .float .single => "FLOAT"
  | .float .double => "DOUBLE"
  | .text (some n) => sized "CHAR" n.toNat
  | .text none => "CHAR"
  | .timestamp => "DATETIME"
  | .binary => "BINARY"
  | type => type.name

/-- The names of types in Hive. -/
def hiveType : SqlType → String
  | .text _ => "STRING"
  | type => type.name

/-- The names of types in Oracle. -/
def oracleType : SqlType → String
  | .boolean => "NUMBER(1)"
  | .integer .i8 => "NUMBER(3)"
  | .integer .i16 => "NUMBER(5)"
  | .integer .i32 => "NUMBER(10)"
  | .integer .i64 => "NUMBER(19)"
  | .hugeInt => "NUMBER(38)"
  | .float .single => "BINARY_FLOAT"
  | .float .double => "BINARY_DOUBLE"
  | .decimal (some p) (some s) =>
    "NUMBER(" ++ toString p.toNat ++ "," ++ toString s.toNat ++ ")"
  | .decimal (some p) none => sized "NUMBER" p.toNat
  | .decimal none _ => "NUMBER"
  | .text none => "VARCHAR2(4000)"
  | .text (some n) => sized "VARCHAR2" n.toNat
  | .binary => "BLOB"
  | .json => "CLOB"
  | .uuid => "RAW(16)"
  | type => type.name

/-- The name of the type as the target of a cast. -/
def castType : Dialect → SqlType → String
  | .postgres => postgresType
  | .msSql => msSqlType
  | .snowflake => snowflakeType
  | .bigQuery => bigQueryType
  | .mySql => mySqlType
  | .hive => hiveType
  | .oracle => oracleType
  | .generic | .duckDb | .sqlite => SqlType.name

end SetQuery.Dialect
