import SetQuery.Capability

/-!
# Diagnostics

What a compilation reports beside its result: where the result may differ from what was asked for,
and where the statement does more than the expression says.
-/

namespace SetQuery

/-- A report of a compilation. -/
inductive Diagnostic
  /-- The ordering of an operand was left out. -/
  | orderDropped (backend : BackendName) (operand : Nat)
  /-- An operation was emulated. -/
  | emulated (backend : BackendName) (op : SetOp) (emulation : Emulation)
  /-- A column of an operand was cast to a wider type. -/
  | widened (operand : Nat) (column : String) (declared canonical : SqlType)
deriving DecidableEq, Repr

/-- How much a report matters. -/
inductive Severity
  | info | warning
deriving DecidableEq, Repr

/-- The name of the severity. -/
def Severity.name : Severity → String
  | .info => "info"
  | .warning => "warning"

namespace Diagnostic

/-- The code by which the kind of report is known. -/
def code : Diagnostic → String
  | .orderDropped _ _ => "L001"
  | .emulated _ _ _ => "L002"
  | .widened _ _ _ _ => "L003"

/-- How much the report matters: only a lost ordering may surprise whoever reads the rows. -/
def severity : Diagnostic → Severity
  | .orderDropped _ _ => .warning
  | _ => .info

/-- Whether the report is a warning. -/
def isWarning (d : Diagnostic) : Bool := d.severity = .warning

/-- The text of the report. -/
def message : Diagnostic → String
  | .orderDropped backend operand => "ORDER BY on operand " ++ toString operand ++
      " dropped: backend '" ++ backend.text ++ "' rejects ORDER BY inside set-operation subqueries"
  | .emulated backend op emulation => op.title ++ " emulated on backend '" ++ backend.text ++
      "' using " ++ emulation.name
  | .widened operand column declared canonical => "Operand " ++ toString operand ++ " column '" ++
      column ++ "' cast from " ++ declared.name ++ " to " ++ canonical.name

/-- The operand that the report is about. -/
def operand? : Diagnostic → Option Nat
  | .orderDropped _ operand => some operand
  | .emulated _ _ _ => none
  | .widened operand _ _ _ => some operand

/-- What one may do about it. -/
def hint? : Diagnostic → Option String
  | .orderDropped _ _ => some "Apply order_by to the combined result instead"
  | _ => none

/-- The report on one line. -/
def text (d : Diagnostic) : String :=
  "[" ++ d.code ++ "] " ++ d.severity.name ++ ": " ++ d.message ++
    match d.hint? with
    | some hint => " (hint: " ++ hint ++ ")"
    | none => ""

/-- The report as JSON. -/
def toJson (d : Diagnostic) : Json :=
  .object [("code", .string d.code), ("severity", .string d.severity.name),
    ("message", .string d.message), ("operand", Json.ofOption (fun n => .int n) d.operand?),
    ("hint", Json.ofOption .string d.hint?)]

end Diagnostic

end SetQuery
