import SetQuery.Capability
import SetQuery.Expr.Operands
import SetQuery.Sql.QueryText

/-!
# Resolved expressions

An expression is resolved for a backend before any SQL is written: chains are flat, each operand
says how its columns are read and whether its ordering is dropped, and each operation says how it is
carried out. `Expr.resolve` fails when the backend lacks an operation, or when the strict policy
forbids to drop an ordering; nothing can fail after it.

All operations of a chain are checked before its operands are looked at, and operands are looked at
from left to right.
-/

namespace SetQuery

/-- How a column of an operand is read. -/
structure ColumnRead where
  name : String
  /-- The declared type and the wider one to which it is cast, if they differ. -/
  cast : Option (SqlType × SqlType) := none
deriving DecidableEq, Repr

/-- An operand of a set operation, and how its columns are read. -/
inductive Operand (α : Type)
  | table (name : String) (columns : List ColumnRead)
  | relation (input : α) (orderDropped : Bool) (columns : List ColumnRead)
deriving Repr

/-- How the columns of the operand are read. -/
def Operand.columns {α : Type} : Operand α → List ColumnRead
  | .table _ columns => columns
  | .relation _ _ columns => columns

/-- A set operation, how it is carried out, and its right-hand operand. -/
structure ResolvedStep (α : Type) where
  op : SetOp
  method : Method
  operand : Operand α
deriving Repr

/-- An expression resolved for a backend. -/
inductive Resolved
  | table (columns : List String) (name : String)
  | query (sql : String)
  /-- An ordering and a limit on the rows of the input. -/
  | page (input : Resolved) (keys : List SortKey) (limit offset : Option Nat)
  /-- Operations applied to the first operand one after the other. -/
  | chain (columns : List String) (first : Operand Resolved) (rest : List (ResolvedStep Resolved))
deriving Repr

/-- How an operand with a schema is read where the canonical schema is wanted. -/
def columnReads (canonical s : Schema) : List ColumnRead :=
  canonical.columns.map fun c =>
    match s.find? c.name with
    | some declared =>
      if declared.type = c.type then ⟨c.name, none⟩ else ⟨c.name, some (declared.type, c.type)⟩
    | none => ⟨c.name, none⟩

namespace Expr

mutual

/-- The expression resolved for a backend under an order policy. -/
def resolve (c : Capabilities) (policy : OrderPolicy) (e : Expr) : Except PlanError Resolved :=
  match e with
  | .source (.table name) schema => .ok (.table schema.names name)
  | .source (.query sql) _ => .ok (.query (Sql.queryText sql))
  | .sort input keys =>
    (resolve c policy input.withoutSort).map fun r => .page r keys none none
  | .limit (.sort input keys) most skipped =>
    (resolve c policy input.withoutSort).map fun r => .page r keys most skipped
  | .limit input most skipped =>
    (resolve c policy input).map fun r => .page r [] most skipped
  | .chain base steps schema => do
    let e := Expr.chain base steps schema
    let alignment ← (align (e.operands.map (·.schema))).mapError .schemaMismatch
    let canonical := alignment.canonical
    let methods ← e.flatSteps.mapM fun step => c.resolve step.op
    let first ← resolveOperand c policy canonical 0 e.leftmost
    let rest ← resolveSteps c policy canonical 1 e.flatSteps methods
    return .chain canonical.names first rest
termination_by 2 * e.size
decreasing_by
  · have := withoutSort_size_le input
    simp only [size]; omega
  · have := withoutSort_size_le input
    simp only [size]; omega
  · simp only [size]; omega
  · have := leftmost_size_lt base steps schema
    omega
  · have := stepsSize_flatSteps_lt base steps schema
    omega

/-- The operand at a position of a chain. A backend that rejects orderings in operands gets the
operand without them, unless the policy is strict. -/
def resolveOperand (c : Capabilities) (policy : OrderPolicy) (canonical : Schema)
    (position : Nat) (e : Expr) : Except PlanError (Operand Resolved) :=
  let columns := columnReads canonical e.schema
  match e with
  | .source (.table name) _ => .ok (.table name columns)
  | e =>
    if e.isOrdered && !c.subqueryOrder then
      match policy with
      | .strict => .error (.unsupportedSubqueryOrder c.name position)
      | .drop => (resolve c policy e.withoutSorts).map fun r => .relation r true columns
    else (resolve c policy e).map fun r => .relation r false columns
termination_by 2 * e.size + 1
decreasing_by
  · have := withoutSorts_size_le e
    omega
  · omega

/-- The steps of a chain with the methods for their operations; the position is that of the next
operand. -/
def resolveSteps (c : Capabilities) (policy : OrderPolicy) (canonical : Schema) (position : Nat)
    (steps : List (Step Expr)) (methods : List Method) :
    Except PlanError (List (ResolvedStep Resolved)) :=
  match steps, methods with
  | ⟨op, operand⟩ :: steps, method :: methods => do
    let operand ← resolveOperand c policy canonical position operand
    let rest ← resolveSteps c policy canonical (position + 1) steps methods
    return ⟨op, method, operand⟩ :: rest
  | _, _ => .ok []
termination_by 2 * stepsSize steps + 1
decreasing_by
  · simp only [stepsSize]; omega
  · simp only [stepsSize]; omega

end

end Expr

end SetQuery
