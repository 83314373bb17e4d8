import SetQuery.PlanError

/-!
# Capabilities of a backend

For each set operation a backend has an operator of its own, or an emulation that uses another
operator, or nothing. `Capabilities.resolve` decides how an operation is carried out: an emulation
counts only if the operator that it is made of is the backend's own, and no operation is ever
replaced by another one.
-/

namespace SetQuery

/-- A way to carry out an operation by others. -/
inductive Emulation
  /-- Number the copies of each row, then treat the numbered rows as a set. -/
  | rowNumber
  /-- Keep all rows of both sides, then drop duplicates. -/
  | distinctOverUnionAll
deriving DecidableEq, Repr, Inhabited

namespace Emulation

/-- The name of the emulation. -/
def name : Emulation → String
  | .rowNumber => "row_number"
  | .distinctOverUnionAll => "distinct_over_union_all"

/-- The operation that the emulation of a kind is made of. -/
def operation : Emulation → OpKind → SetOp
  | .rowNumber, kind => ⟨kind, .distinct⟩
  | .distinctOverUnionAll, _ => ⟨.union, .all⟩

/-- The emulation of an operation, if there is one. -/
def ofOp? : SetOp → Option Emulation
  | ⟨.union, .distinct⟩ => some .distinctOverUnionAll
  | ⟨.intersect, .all⟩ => some .rowNumber
  | ⟨.except, .all⟩ => some .rowNumber
  | _ => none

end Emulation

/-- How an operation is carried out. -/
inductive Method
  | native
  | emulated (emulation : Emulation)
deriving DecidableEq, Repr, Inhabited

/-- The text for a method. -/
def Method.text : Method → String
  | .native => "native"
  | .emulated emulation => "emulated(" ++ emulation.name ++ ")"

/-- What a backend offers for an operation. -/
inductive Support
  | native
  | emulated (emulation : Emulation)
  | unsupported
deriving DecidableEq, Repr, Inhabited

namespace Support

/-- The text for it. -/
def text : Support → String
  | .native => Method.native.text
  | .emulated emulation => (Method.emulated emulation).text
  | .unsupported => "unsupported"

/-- What a setting means for an operation: an emulation that does not exist is no support. -/
def ofSetting (op : SetOp) : Setting → Support
  | .supported => .native
  | .unsupported => .unsupported
  | .emulated => ((Emulation.ofOp? op).map .emulated).getD .unsupported

end Support

/-- What is known about a backend. -/
structure Capabilities where
  name : BackendName
  dialect : Dialect
  support : PerOp Support
  /-- Whether an operand of a set operation may have an ordering. -/
  subqueryOrder : Bool
deriving DecidableEq, Repr, Inhabited

namespace Capabilities

/-- A backend that has all operators and allows orderings everywhere. -/
def native (name : BackendName) (dialect : Dialect) : Capabilities :=
  ⟨name, dialect, PerOp.const .native, true⟩

/-- The table with another entry for one operation. -/
def setSupport (c : Capabilities) (op : SetOp) (support : Support) : Capabilities :=
  { c with support := c.support.set op support }

/-- The table with the entries that the override sets. -/
def apply (c : Capabilities) (o : Override) : Capabilities where
  name := c.name
  dialect := o.dialect.getD c.dialect
  support := PerOp.ofFn fun op =>
    ((o.settings.get op).map (Support.ofSetting op)).getD (c.support.get op)
  subqueryOrder := o.subqueryOrder.getD c.subqueryOrder

/-- How an operation is carried out on the backend. -/
def resolve (c : Capabilities) (op : SetOp) : Except PlanError Method :=
  match c.support.get op with
  | .native => .ok .native
  | .unsupported => .error (.unsupportedOperation c.name op)
  | .emulated emulation =>
    if c.support.get (emulation.operation op.kind) = .native then .ok (.emulated emulation)
    else .error (.unsupportedOperation c.name op)

/-- The table as JSON. -/
def toJson (c : Capabilities) : Json :=
  .object ([("name", .string c.name.text), ("dialect", .string c.dialect.name)] ++
    SetOp.every.map (fun op => (op.key, .string (c.support.get op).text)) ++
    [("subquery_order_supported", .bool c.subqueryOrder)])

end Capabilities

end SetQuery
