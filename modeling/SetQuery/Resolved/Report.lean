import SetQuery.Diagnostic
import SetQuery.Dialect.Operator
import SetQuery.Resolved

/-!
# What a resolved expression reports

The steps and the diagnostics of a resolved expression are read off it. Those of an operand come
before those of the chain it belongs to; operands come from left to right.
-/

namespace SetQuery

/-- A set operation that was carried out, and how. -/
structure StepRecord where
  op : SetOp
  method : Method
deriving DecidableEq, Repr

/-- The operation whose operator is written. -/
def StepRecord.written (s : StepRecord) : SetOp :=
  match s.method with
  | .native => s.op
  | .emulated emulation => emulation.operation s.op.kind

/-- The operator that is written. -/
def StepRecord.operator (d : Dialect) (s : StepRecord) : String := d.operator s.written

/-- The reports on columns of an operand that are cast. -/
def castReports (position : Nat) (columns : List ColumnRead) : List Diagnostic :=
  columns.filterMap fun c => c.cast.map fun (declared, canonical) =>
    .widened position c.name declared canonical

/-- The reports on steps that are emulated. -/
def emulationReports (backend : BackendName) (steps : List StepRecord) : List Diagnostic :=
  steps.filterMap fun s =>
    match s.method with
    | .native => none
    | .emulated emulation => some (.emulated backend s.op emulation)

/-- The steps of a chain without their operands. -/
def recordSteps {α : Type} (steps : List (ResolvedStep α)) : List StepRecord :=
  steps.map fun s => ⟨s.op, s.method⟩

namespace Resolved

/-! ## Steps -/

mutual

/-- All steps of the expression. -/
def steps : Resolved → List StepRecord
  | .table _ _ => []
  | .query _ => []
  | .page input _ _ _ => input.steps
  | .chain _ first rest => operandSteps first ++ restSteps rest ++ recordSteps rest

/-- All steps of an operand. -/
def operandSteps : Operand Resolved → List StepRecord
  | .table _ _ => []
  | .relation input _ _ => input.steps

/-- All steps of the operands of some steps. -/
def restSteps : List (ResolvedStep Resolved) → List StepRecord
  | [] => []
  | ⟨_, _, operand⟩ :: rest => operandSteps operand ++ restSteps rest

end

/-! ## Diagnostics -/

mutual

/-- All reports on the expression. -/
def diagnostics (backend : BackendName) : Resolved → List Diagnostic
  | .table _ _ => []
  | .query _ => []
  | .page input _ _ _ => input.diagnostics backend
  | .chain _ first rest => operandDiagnostics backend 0 first ++ restDiagnostics backend 1 rest ++
      emulationReports backend (recordSteps rest)

/-- All reports on the operand at a position. -/
def operandDiagnostics (backend : BackendName) (position : Nat) :
    Operand Resolved → List Diagnostic
  | .table _ columns => castReports position columns
  | .relation input orderDropped columns =>
    (if orderDropped then [.orderDropped backend position] else []) ++
      input.diagnostics backend ++ castReports position columns

/-- All reports on the operands of some steps; the position is that of the next operand. -/
def restDiagnostics (backend : BackendName) (position : Nat) :
    List (ResolvedStep Resolved) → List Diagnostic
  | [] => []
  | ⟨_, _, operand⟩ :: rest => operandDiagnostics backend position operand ++
      restDiagnostics backend (position + 1) rest

end

end Resolved

end SetQuery
