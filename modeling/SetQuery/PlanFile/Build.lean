import SetQuery.PlanFile
import SetQuery.PlanFile.SortKey

/-!
# The expression of a plan

All tables of a plan are built, in the order of their names, whether the query uses them or not.
Then the steps of the query are applied one after the other.
-/

namespace SetQuery

/-- Why a table of a plan has no expression. -/
inductive TableError
  | schema (cause : SchemaError)
  | tableAndSql
  | noTableOrSql
  | sortKey (cause : SortKeyError)
  | ordering (cause : PlanError)
deriving DecidableEq, Repr

/-- The text of the error. -/
def TableError.message : TableError → String
  | .schema cause => cause.message
  | .tableAndSql => "Set either 'table' or 'sql', not both"
  | .noTableOrSql => "One of 'table' or 'sql' is required"
  | .sortKey cause => cause.message
  | .ordering cause => cause.message

/-- Why a plan has no expression. -/
inductive BuildError
  | table (name : String) (cause : TableError)
  | unknownTable (name : String) (defined : List String)
  /-- A step that applies its operation to nothing; steps are counted from 1. -/
  | noInputs (number : Nat) (kind : OpKind)
  | step (number : Nat) (cause : PlanError)
  | sortKey (cause : SortKeyError)
  | ordering (cause : PlanError)
deriving DecidableEq, Repr

namespace BuildError

/-- The operation as a plan names it. -/
def operationTitle : OpKind → String
  | .union => "Union"
  | .intersect => "Intersect"
  | .except => "Difference"

/-- The text of the error and behind it those of its causes. -/
def chain : BuildError → List String
  | .table name cause => ["Invalid table '" ++ name ++ "'", cause.message]
  | .unknownTable name defined =>
    ["Unknown table '" ++ name ++ "' (defined: " ++ ", ".intercalate defined ++ ")"]
  | .noInputs number kind =>
    ["Step " ++ toString number ++ " (" ++ operationTitle kind ++ ") has no inputs"]
  | .step number cause => ("Step " ++ toString number ++ " failed") :: cause.chain
  | .sortKey cause => [cause.message]
  | .ordering cause => "Invalid query order_by" :: cause.chain

/-- The text of the error with those of its causes. -/
def message (e : BuildError) : String := ": ".intercalate e.chain

end BuildError

/-! ## Tables -/

/-- The column with its type and nullability. -/
def ColumnDef.column (c : ColumnDef) : Column :=
  ⟨c.name, SqlType.ofText c.type, Nullability.ofDeclared c.nullable⟩

namespace TableDef

/-- What a table reads from. -/
def source (t : TableDef) : Except TableError Source :=
  match t.table, t.sql with
  | some name, none => .ok (.table name)
  | none, some sql => .ok (.query sql)
  | some _, some _ => .error .tableAndSql
  | none, none => .error .noTableOrSql

/-- The expression for a table. -/
def build (t : TableDef) : Except TableError Expr := do
  let schema ← (Schema.ofColumns (t.columns.map (·.column))).mapError .schema
  let source ← t.source
  let keys ← (SortKey.ofEntries t.orderBy).mapError .sortKey
  ((Expr.source source schema).orderBy keys).mapError .ordering

end TableDef

/-! ## The query -/

/-- The expressions for the tables of a plan. -/
def PlanFile.buildTables : List (String × TableDef) → Except BuildError (List (String × Expr))
  | [] => .ok []
  | (name, t) :: rest => do
    let e ← t.build.mapError (.table name)
    let others ← buildTables rest
    return (name, e) :: others

/-- The expression of a table of a plan. -/
def findTable (tables : List (String × Expr)) (name : String) : Except BuildError Expr :=
  match tables.lookup name with
  | some e => .ok e
  | none => .error (.unknownTable name (tables.map (·.1)))

/-- The expression after the steps from a number on. -/
def buildSteps (tables : List (String × Expr)) (number : Nat) (e : Expr) :
    List StepDef → Except BuildError Expr
  | [] => .ok e
  | s :: rest =>
    if s.inputs.isEmpty then .error (.noInputs number s.kind)
    else do
      let inputs ← s.inputs.mapM (findTable tables)
      let op := ⟨s.kind, .ofDistinct s.distinct⟩
      let e ← (Expr.combine op e inputs).mapError (.step number)
      buildSteps tables (number + 1) e rest

/-- The expression of a plan. -/
def PlanFile.build (p : PlanFile) : Except BuildError Expr := do
  let tables ← buildTables p.tables.entries
  let start ← findTable tables p.query.source
  let e ← buildSteps tables 1 start p.query.steps
  let keys ← (SortKey.ofEntries p.query.orderBy).mapError .sortKey
  let e ← (e.orderBy keys).mapError .ordering
  return e.limitOffset p.query.limit p.query.offset

end SetQuery
