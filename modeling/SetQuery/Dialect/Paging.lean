import SetQuery.Dialect

/-!
# Limits and offsets

A query may keep a limited number of rows and skip some first. Dialects write that with different
clauses, in front of the select list or behind the ordering. `Dialect.paging` chooses the clauses;
what they mean does not depend on the dialect.
-/

namespace SetQuery

/-- A clause behind the ordering that restricts the rows. -/
inductive PagingClause
  /-- `LIMIT n`: at most `n` rows. -/
  | limit (n : Nat)
  /-- `LIMIT -1`: any number of rows. -/
  | noLimit
  /-- `OFFSET n`: without the first `n` rows. -/
  | offset (n : Nat)
  /-- `OFFSET n ROWS`: without the first `n` rows. -/
  | offsetRows (n : Nat)
  /-- `FETCH FIRST n ROWS ONLY`: at most `n` rows. -/
  | fetchFirst (n : Nat)
  /-- `FETCH NEXT n ROWS ONLY`: at most `n` of the rows that are left. -/
  | fetchNext (n : Nat)
deriving DecidableEq, Repr

/-- The clause as it is written. -/
def PagingClause.text : PagingClause → String
  | .limit n => " LIMIT " ++ toString n
  | .noLimit => " LIMIT -1"
  | .offset n => " OFFSET " ++ toString n
  | .offsetRows n => " OFFSET " ++ toString n ++ " ROWS"
  | .fetchFirst n => " FETCH FIRST " ++ toString n ++ " ROWS ONLY"
  | .fetchNext n => " FETCH NEXT " ++ toString n ++ " ROWS ONLY"

/-- How a limit and an offset are written. -/
structure Paging where
  /-- The number in `TOP (n)` in front of the select list. -/
  top : Option Nat := none
  /-- Whether the clauses need an ordering, so that one is written where the query has none. -/
  needsOrder : Bool := false
  /-- The clauses behind the ordering. -/
  clauses : List PagingClause := []
deriving DecidableEq, Repr

namespace Dialect

/-- The clauses for a limit, in a dialect that has `LIMIT`. A dialect in which `OFFSET` cannot
stand alone gets a limit beyond any number of rows. -/
def limitClauses (d : Dialect) : Option Nat → Option Nat → List PagingClause
  | none, none => []
  | some n, none => [.limit n]
  | some n, some m => [.limit n, .offset m]
  | none, some m =>
    match d with
    | .sqlite => [.noLimit, .offset m]
    | .bigQuery | .hive => [.limit (UInt64.size / 2 - 1), .offset m]
    | .mySql => [.limit (UInt64.size - 1), .offset m]
    | _ => [.offset m]

/-- How the dialect writes a limit and an offset. -/
def paging (d : Dialect) (limit offset : Option Nat) : Paging :=
  match d with
  | .msSql =>
    match limit, offset with
    | none, none => {}
    | some n, none => { top := some n }
    | none, some m => { needsOrder := true, clauses := [.offsetRows m] }
    | some n, some m => { needsOrder := true, clauses := [.offsetRows m, .fetchNext n] }
  | .oracle =>
    match limit, offset with
    | none, none => {}
    | some n, none => { clauses := [.fetchFirst n] }
    | none, some m => { clauses := [.offsetRows m] }
    | some n, some m => { clauses := [.offsetRows m, .fetchNext n] }
  | _ => { clauses := d.limitClauses limit offset }

end Dialect

end SetQuery
