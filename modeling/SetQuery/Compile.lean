import SetQuery.Capability.Registry
import SetQuery.Resolved.Query
import SetQuery.Schema.Json

/-!
# Compiling an expression

`Expr.compileFor` turns an expression into a statement for a backend: it resolves the expression,
and everything else is read off the result. `Registry.compile` looks the backend up first.
-/

namespace SetQuery

/-- A compiled expression. -/
structure Compiled where
  backend : BackendName
  dialect : Dialect
  query : Sql.Query
  steps : List StepRecord
  schema : Schema
  diagnostics : List Diagnostic
deriving DecidableEq, Repr

/-- The statement for an expression on a backend. -/
def Expr.compileFor (e : Expr) (c : Capabilities) (policy : OrderPolicy) :
    Except PlanError Compiled :=
  (e.resolve c policy).map fun r =>
    { backend := c.name
      dialect := c.dialect
      query := (r.toQuery e.columnNames 0).1
      steps := r.steps
      schema := e.schema
      diagnostics := r.diagnostics c.name }

/-- The statement for an expression on a backend of the registry. -/
def Registry.compile (registry : Registry) (policy : OrderPolicy) (e : Expr) (backend : String) :
    Except PlanError Compiled := do
  e.compileFor (← registry.find backend) policy

namespace Compiled

/-- The text of the statement. -/
def sql (c : Compiled) : String := c.query.text c.dialect

/-- Whether there is a warning among the reports. -/
def hasWarnings (c : Compiled) : Bool := c.diagnostics.any (·.isWarning)

/-- Whether there is no set operation. -/
def isIdentity (c : Compiled) : Bool := c.steps.isEmpty

/-- A step as JSON. -/
def stepJson (d : Dialect) (s : StepRecord) : Json :=
  .object [("kind", .string s.op.kind.name), ("multiplicity", .string s.op.multiplicity.name),
    ("operator", .string (s.operator d)), ("support", .string s.method.text)]

/-- The statement and what is known about it as JSON. -/
def toJson (c : Compiled) : Json :=
  .object [("backend", .string c.backend.text), ("dialect", .string c.dialect.name),
    ("sql", .string c.sql), ("steps", .array (c.steps.map (stepJson c.dialect))),
    ("schema", c.schema.toJson), ("diagnostics", .array (c.diagnostics.map (·.toJson)))]

end Compiled

end SetQuery
