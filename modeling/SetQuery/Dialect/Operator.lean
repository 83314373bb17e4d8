import SetQuery.Dialect
import SetQuery.SetOp

/-!
# Operators and aliases

How a dialect writes a set operation between two queries, and an alias behind a relation.
-/

namespace SetQuery.Dialect

/-- The keyword of a kind of set operation. -/
def operatorKeyword : Dialect → OpKind → String
  | .oracle, .except => "MINUS"
  | _, kind => kind.keyword

/-- Whether the dialect spells out `DISTINCT` behind a set operator. -/
def spellsDistinct : Dialect → Bool
  | .bigQuery => true
  | _ => false

/-- The operator of a set operation. -/
def operator (d : Dialect) (op : SetOp) : String :=
  match op.multiplicity with
  | .all => d.operatorKeyword op.kind ++ " ALL"
  | .distinct =>
    if d.spellsDistinct then d.operatorKeyword op.kind ++ " DISTINCT" else d.operatorKeyword op.kind

/-- What stands between a relation and its alias. -/
def aliasLink : Dialect → String
  | .oracle => " "
  | _ => " AS "

end SetQuery.Dialect
