import SetQuery.Resolved.Report
import SetQuery.Sql.Names
import SetQuery.Sql.Query

/-!
# The query for a resolved expression

The operands of a chain are written from left to right and then combined step by step. In SQL an
intersection binds tighter than a union or a difference, so a query that ends in one of those is put
in parentheses before it is intersected; otherwise operations are evaluated in the order in which
they are written.

A step that the backend cannot carry out is emulated. Numbering the copies of each row makes all
rows different, so that the operator on sets counts copies: `INTERSECT` keeps the smaller of both
numbers of copies, and `EXCEPT` their difference. And a union that drops duplicates is a union that
keeps them, with the duplicates dropped afterwards.
-/

namespace SetQuery

open Sql

/-- The item that reads a column. -/
def ColumnRead.item (c : ColumnRead) : SelectItem :=
  match c.cast with
  | some (_, canonical) => .cast c.name canonical
  | none => .column c.name

/-- The head that reads the columns of an operand. -/
def readingHead (columns : List ColumnRead) : Head := { items := columns.map (·.item) }

/-- The head that numbers the rows that agree in the columns. -/
def numberingHead (reserved columns : List String) : Head :=
  { items := columns.map .column ++ [.rowNumber columns (helperColumn reserved)] }

/-- A set operation, how it is carried out, and the query on its right. -/
structure QueryStep where
  op : SetOp
  method : Method
  right : Query
deriving DecidableEq, Repr

/-- The steps taken so far. -/
structure Progress where
  query : Query
  /-- Whether the query is a union or a difference that an intersection would take apart. -/
  loose : Bool
  /-- The number of the next alias. -/
  next : Nat
deriving DecidableEq, Repr

namespace Sql.Query

/-- The query in parentheses under a fresh alias, with a head on it; and the next number. -/
def wrap (reserved : List String) (head : Head) (q : Query) (next : Nat) : Query × Nat :=
  let (label, next) := freshAlias reserved next
  (.ofQuery head q label, next)

end Sql.Query

namespace Progress

/-- One more step, with the backend's own operator. -/
def native (reserved columns : List String) (p : Progress) (op : SetOp) (right : Query) :
    Progress :=
  let (left, next) :=
    if op.kind = .intersect ∧ p.loose then p.query.wrap reserved (.columns columns) p.next
    else (p.query, p.next)
  ⟨.compound left op right, p.loose || op.kind != .intersect, next⟩

/-- One more step, on numbered rows. -/
def numbered (reserved columns : List String) (p : Progress) (kind : OpKind) (right : Query) :
    Progress :=
  let (left, next) := p.query.wrap reserved (numberingHead reserved columns) p.next
  let (right, next) := right.wrap reserved (numberingHead reserved columns) next
  let (q, next) :=
    (Query.compound left ⟨kind, .distinct⟩ right).wrap reserved (.columns columns) next
  ⟨q, false, next⟩

/-- One more step: a union whose duplicates are dropped afterwards. -/
def deduplicated (reserved columns : List String) (p : Progress) (right : Query) : Progress :=
  let (q, next) := (Query.compound p.query ⟨.union, .all⟩ right).wrap reserved
    { Head.columns columns with distinct := true } p.next
  ⟨q, false, next⟩

/-- One more step. -/
def step (reserved columns : List String) (p : Progress) (s : QueryStep) : Progress :=
  match s.method with
  | .native => p.native reserved columns s.op s.right
  | .emulated .rowNumber => p.numbered reserved columns s.op.kind s.right
  | .emulated .distinctOverUnionAll => p.deduplicated reserved columns s.right

end Progress

namespace Resolved

mutual

/-- The query for the expression, and the number of the next alias. -/
def toQuery (reserved : List String) : Resolved → Nat → Query × Nat
  | .table columns name, next => (.ofTable (.columns columns) name none, next)
  | .query sql, next => (.verbatim sql, next)
  | .page input keys limit offset, next =>
    let (q, next) := input.toQuery reserved next
    q.wrap reserved { Head.every with orderBy := keys, limit := limit, offset := offset } next
  | .chain columns first rest, next =>
    let (q, next) := operandQuery reserved first next
    let (steps, next) := restQueries reserved rest next
    let done := steps.foldl (Progress.step reserved columns) ⟨q, false, next⟩
    (done.query, done.next)

/-- The query for an operand, and the number of the next alias. -/
def operandQuery (reserved : List String) : Operand Resolved → Nat → Query × Nat
  | .table name columns, next =>
    let (label, next) := freshAlias reserved next
    (.ofTable (readingHead columns) name (some label), next)
  | .relation input _ columns, next =>
    let (q, next) := input.toQuery reserved next
    q.wrap reserved (readingHead columns) next

/-- The steps with the queries for their operands, and the number of the next alias. -/
def restQueries (reserved : List String) :
    List (ResolvedStep Resolved) → Nat → List QueryStep × Nat
  | [], next => ([], next)
  | ⟨op, method, operand⟩ :: rest, next =>
    let (right, next) := operandQuery reserved operand next
    let (steps, next) := restQueries reserved rest next
    (⟨op, method, right⟩ :: steps, next)

end

end Resolved

end SetQuery
