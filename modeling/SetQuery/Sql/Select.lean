import SetQuery.Dialect.Paging
import SetQuery.Sql.Part

/-!
# The layout of a SELECT

`Select.parts` lays out a select list, a source, an ordering and a limit with an offset in the order
and with the clauses of the dialect.
-/

namespace SetQuery.Sql

/-- What a SELECT is made of. -/
structure Select where
  distinct : Bool := false
  projection : List Part
  source : List Part
  orderBy : Option (List Part) := none
  limit : Option Nat := none
  offset : Option Nat := none
deriving DecidableEq, Repr

namespace Select

/-- The ordering; where the clauses behind it need one and there is none, an ordering by nothing. -/
def orderParts (orderBy : Option (List Part)) (needsOrder : Bool) : List Part :=
  match orderBy with
  | some keys => .word " ORDER BY " :: keys
  | none => if needsOrder then [.word " ORDER BY (SELECT NULL)"] else []

/-- What stands in front of the select list. -/
def leadParts (distinct : Bool) (top : Option Nat) : List Part :=
  .word "SELECT " :: (if distinct then [.word "DISTINCT "] else []) ++
    match top with
    | some n => [.word ("TOP (" ++ toString n ++ ") ")]
    | none => []

/-- The parts of the statement. -/
def parts (d : Dialect) (s : Select) : List Part :=
  let paging := d.paging s.limit s.offset
  leadParts s.distinct paging.top ++ s.projection ++ .word " FROM " :: s.source ++
    orderParts s.orderBy paging.needsOrder ++ paging.clauses.map fun clause => .word clause.text

end Select

end SetQuery.Sql
