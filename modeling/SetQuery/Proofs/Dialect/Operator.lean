import SetQuery.Dialect.Operator
import Mathlib.Data.List.Nodup

/-!
# The tokens of the set operations

`Dialect.tokens` lists the operators as the backends' languages have them: a bare keyword removes
copies and `ALL` keeps them, but BigQuery wants `DISTINCT` spelled out, and Oracle calls the
difference `MINUS`.

**Theorem (`Dialect.operator_eq_token`).** A dialect writes each set operation with its token. No
token stands for two operations (`operator_injective`), so the operation is known from the text.
-/

namespace SetQuery.Dialect

/-- The tokens that most dialects share. -/
def commonTokens : PerOp String where
  unionDistinct := "UNION"
  unionAll := "UNION ALL"
  intersectDistinct := "INTERSECT"
  intersectAll := "INTERSECT ALL"
  exceptDistinct := "EXCEPT"
  exceptAll := "EXCEPT ALL"

/-- The tokens of a dialect. -/
def tokens : Dialect → PerOp String
  | .bigQuery =>
    { commonTokens with
      unionDistinct := "UNION DISTINCT"
      intersectDistinct := "INTERSECT DISTINCT"
      exceptDistinct := "EXCEPT DISTINCT" }
  | .oracle => { commonTokens with exceptDistinct := "MINUS", exceptAll := "MINUS ALL" }
  | _ => commonTokens

/-- **A dialect writes a set operation with its token.** -/
theorem operator_eq_token (d : Dialect) (op : SetOp) : d.operator op = d.tokens.get op := by
  obtain ⟨kind, multiplicity⟩ := op
  cases d <;> cases kind <;> cases multiplicity <;> rfl

theorem nodup_tokens (d : Dialect) : d.tokens.toList.Nodup := by
  cases d <;> decide

/-- Different operations are written with different operators. -/
theorem operator_injective (d : Dialect) : Function.Injective d.operator := by
  intro op op' h
  rw [operator_eq_token, operator_eq_token] at h
  exact List.inj_on_of_nodup_map d.nodup_tokens op.mem_every op'.mem_every h

end SetQuery.Dialect
