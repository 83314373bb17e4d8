import SetQuery.Alignment

/-!
# Expressions

An expression denotes a relation: a table or a query text with a declared schema, a chain of set
operations applied from left to right, an ordering, or a limit on the rows. Expressions are built
by `Expr.table`, `Expr.query`, `Expr.chainOf`, `Expr.orderBy` and `Expr.limitOffset`, which check
what they are given: the operands of a chain align, and sort keys are columns of the input.

A step that does nothing adds nothing: a chain without steps is its base, an ordering without keys
and a limit that keeps everything are their input.
-/

namespace SetQuery

/-- Where the rows of a source come from. -/
inductive Source
  /-- A table or view, with dots between the parts of its name. -/
  | table (name : String)
  /-- The text of a query. -/
  | query (sql : String)
deriving DecidableEq, Repr

/-- A column by which rows are ordered. -/
structure SortKey where
  column : String
  ascending : Bool := true
deriving DecidableEq, Repr

/-- A set operation and its right-hand operand. -/
structure Step (α : Type) where
  op : SetOp
  operand : α
deriving DecidableEq, Repr

/-- An expression for a relation. -/
inductive Expr
  | source (source : Source) (schema : Schema)
  /-- Set operations applied to the base one after the other; the schema is that of the result. -/
  | chain (base : Expr) (steps : List (Step Expr)) (schema : Schema)
  | sort (input : Expr) (keys : List SortKey)
  /-- At most so many rows, after so many have been skipped. -/
  | limit (input : Expr) (limit offset : Option Nat)

instance : Inhabited Expr := ⟨.source (.table "") .empty⟩

namespace Expr

/-- The schema of the result. -/
def schema : Expr → Schema
  | .source _ schema => schema
  | .chain _ _ schema => schema
  | .sort input _ => input.schema
  | .limit input _ _ => input.schema

/-- Whether the outermost part is an ordering. -/
def isOrdered : Expr → Bool
  | .sort _ _ => true
  | _ => false

/-! ## Building -/

/-- A table with its declared schema. -/
def table (name : String) (schema : Schema) : Expr := .source (.table name) schema

/-- A query with its declared schema. -/
def query (sql : String) (schema : Schema) : Expr := .source (.query sql) schema

/-- The expression ordered by keys. -/
def orderBy (e : Expr) (keys : List SortKey) : Except PlanError Expr :=
  if keys.isEmpty then .ok e
  else match keys.find? fun key => (e.schema.find? key.column).isNone with
    | some key => .error (.unknownColumn key.column e.schema.names)
    | none => .ok (.sort e keys)

/-- The expression without its first rows and with a limited number of the others. -/
def limitOffset (e : Expr) (limit : Option Nat) (offset : Nat) : Expr :=
  if limit.isNone && offset == 0 then e
  else .limit e limit (if offset = 0 then none else some offset)

/-- The schemas of the operands of a chain. -/
def chainSchemas (base : Expr) (steps : List (Step Expr)) : List Schema :=
  base.schema :: steps.map (·.operand.schema)

/-- Steps applied to a base from left to right. -/
def chainOf (base : Expr) (steps : List (Step Expr)) : Except PlanError Expr :=
  if steps.isEmpty then .ok base
  else match align (chainSchemas base steps) with
    | .error mismatch => .error (.schemaMismatch mismatch)
    | .ok alignment => .ok (.chain base steps alignment.canonical)

/-- One operation applied to a first operand and all others from left to right. -/
def combine (op : SetOp) (first : Expr) (rest : List Expr) : Except PlanError Expr :=
  chainOf first (rest.map fun operand => ⟨op, operand⟩)

/-- One operation applied to two operands. -/
def combineTwo (op : SetOp) (left right : Expr) : Except PlanError Expr := combine op left [right]

/-! ## Equality -/

mutual

/-- Whether two expressions are built in the same way. -/
def same : Expr → Expr → Bool
  | .source a s, .source b t => a == b && s == t
  | .chain a steps s, .chain b steps' t => same a b && sameSteps steps steps' && s == t
  | .sort a keys, .sort b keys' => same a b && keys == keys'
  | .limit a m n, .limit b m' n' => same a b && m == m' && n == n'
  | _, _ => false

/-- Whether two lists of steps are built in the same way. -/
def sameSteps : List (Step Expr) → List (Step Expr) → Bool
  | [], [] => true
  | ⟨op, a⟩ :: rest, ⟨op', b⟩ :: rest' => op == op' && same a b && sameSteps rest rest'
  | _, _ => false

end

end Expr

end SetQuery
