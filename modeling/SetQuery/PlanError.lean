import SetQuery.Config
import SetQuery.Schema

/-!
# Errors of building and compiling an expression
-/

namespace SetQuery

/-- Why a schema does not fit the schemas before it. -/
inductive MismatchReason
  | noColumns
  /-- Columns of the first schema that this one lacks. -/
  | missing (columns : List String)
  /-- Columns of this schema that the first one lacks. -/
  | extra (columns : List String)
  /-- A column whose type has no common type with that of the schemas before. -/
  | incompatible (column : String) (expected found : SqlType)
deriving DecidableEq, Repr

/-- The text of the reason. -/
def MismatchReason.message : MismatchReason → String
  | .noColumns => "operand has no columns"
  | .missing columns => "missing column(s) " ++ ", ".intercalate columns
  | .extra columns => "unexpected column(s) " ++ ", ".intercalate columns
  | .incompatible column expected found => "column '" ++ column ++ "' has type " ++ found.name ++
      ", which is not compatible with " ++ expected.name

/-- An operand whose schema does not fit that of the first operand. -/
structure Mismatch where
  operand : Nat
  expected : Schema
  found : Schema
  reason : MismatchReason
deriving DecidableEq, Repr

/-- The text of the mismatch. -/
def Mismatch.message (m : Mismatch) : String :=
  "[P001] Schema mismatch in operand " ++ toString m.operand ++ ": " ++ m.reason.message ++
    "; expected " ++ m.expected.title ++ ", found " ++ m.found.title

/-- Why an expression cannot be built or compiled. -/
inductive PlanError
  | schemaMismatch (mismatch : Mismatch)
  | unsupportedOperation (backend : BackendName) (op : SetOp)
  /-- The ordering of an operand that the strict policy does not allow to drop. -/
  | unsupportedSubqueryOrder (backend : BackendName) (operand : Nat)
  | unknownBackend (name : String)
  /-- A sort key that the input lacks. -/
  | unknownColumn (column : String) (available : List String)
  | config (cause : ConfigError)
deriving DecidableEq, Repr

namespace PlanError

/-- The text of the error. -/
def message : PlanError → String
  | .schemaMismatch mismatch => mismatch.message
  | .unsupportedOperation backend op =>
    "[P002] Backend '" ++ backend.text ++ "' does not support " ++ op.title
  | .unsupportedSubqueryOrder backend operand => "[P003] Backend '" ++ backend.text ++
      "' does not support ORDER BY inside set-operation operand " ++ toString operand
  | .unknownBackend name => "[P004] Unknown backend '" ++ name ++ "'"
  | .unknownColumn column available => "[P005] Cannot order by unknown column '" ++ column ++
      "' (available: " ++ ", ".intercalate available ++ ")"
  | .config cause => "[P006] Core error: " ++ cause.message

/-- The text of the error and behind it those of its causes. -/
def chain (e : PlanError) : List String :=
  match e with
  | .config cause => e.message :: cause.chain
  | _ => [e.message]

end PlanError

end SetQuery
